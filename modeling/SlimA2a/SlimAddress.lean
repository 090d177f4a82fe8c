import SlimA2a.ClientFactory
import SlimA2a.PrefixMatch

/-! # SLIM addresses

An agent is addressed by a URL of three components.  `parseRemote` accepts exactly the URLs of the
names whose components contain no slash (`parseRemote_eq_ok`), and refuses every other string with a
`ValueError` (`parseRemote_error`). -/

namespace SlimA2a

/-- The URL of a name. -/
def Name.url (name : Name) : String :=
  name.component0 ++ "/" ++ name.component1 ++ "/" ++ name.component2

/-- No component contains a slash. -/
structure Name.SlashFree (name : Name) : Prop where
  component0 : '/' ∉ name.component0.toList
  component1 : '/' ∉ name.component1.toList
  component2 : '/' ∉ name.component2.toList

theorem url_mk (a b c : String) : Name.url ⟨a, b, c⟩ = a ++ "/" ++ b ++ "/" ++ c := rfl

theorem toList_url (name : Name) :
    name.url.toList = name.component0.toList ++ '/' ::
      (name.component1.toList ++ '/' :: name.component2.toList) := by
  unfold Name.url
  simp [String.toList_append]

theorem count_url (name : Name) :
    name.url.toList.count '/' =
      name.component0.toList.count '/' + name.component1.toList.count '/' +
        name.component2.toList.count '/' + 2 := by
  rw [toList_url]
  simp only [List.count_append, List.count_cons_self]
  omega

/-- The components share no slash with the URL beyond the two that join them. -/
theorem slashFree_iff_count {name : Name} : name.SlashFree ↔ name.url.toList.count '/' = 2 := by
  rw [count_url]
  constructor
  · intro hname
    have h0 := List.count_eq_zero.mpr hname.component0
    have h1 := List.count_eq_zero.mpr hname.component1
    have h2 := List.count_eq_zero.mpr hname.component2
    omega
  · intro hcount
    constructor <;> apply List.count_eq_zero.mp <;> omega

theorem splitRemote_url {name : Name} (hname : name.SlashFree) :
    splitRemote name.url = [name.component0, name.component1, name.component2] := by
  rw [splitRemote, toList_url, splitOn_segment hname.component0, splitOn_segment hname.component1,
    List.splitOn_eq_singleton hname.component2]
  simp only [List.map_cons, List.map_nil, String.ofList_toList]

/-- Slash-free names are told apart by their URLs. -/
theorem eq_of_url_eq {name name' : Name} (hname : name.SlashFree) (hname' : name'.SlashFree)
    (hurl : name.url = name'.url) : name = name' := by
  obtain ⟨a, b, c⟩ := name
  obtain ⟨a', b', c'⟩ := name'
  have hsplit := splitRemote_url hname
  rw [hurl, splitRemote_url hname'] at hsplit
  simp only [List.cons.injEq, and_true] at hsplit
  obtain ⟨rfl, rfl, rfl⟩ := hsplit
  rfl

/-- Splitting loses nothing, and no component contains a slash. -/
theorem eq_url_of_splitRemote {remote a b c : String} (h : splitRemote remote = [a, b, c]) :
    remote = Name.url ⟨a, b, c⟩ ∧ Name.SlashFree ⟨a, b, c⟩ := by
  unfold splitRemote at h
  have hsplit : remote.toList.splitOn '/' = [a.toList, b.toList, c.toList] := by
    have hinj := congrArg (List.map String.toList) h
    rw [List.map_map] at hinj
    have hid : String.toList ∘ String.ofList = id := funext fun l => String.toList_ofList
    rw [hid, List.map_id] at hinj
    simpa using hinj
  obtain ⟨ha, hnil | ⟨t, ht, hsplit₂⟩⟩ := exists_segment hsplit
  · exact absurd hnil.1 (List.cons_ne_nil _ _)
  obtain ⟨hb, hnil | ⟨u, hu, hsplit₃⟩⟩ := exists_segment hsplit₂
  · exact absurd hnil.1 (List.cons_ne_nil _ _)
  obtain ⟨hc, ⟨-, rfl⟩ | ⟨v, hv, hsplit₄⟩⟩ := exists_segment hsplit₃
  · refine ⟨?_, ha, hb, hc⟩
    apply String.toList_injective
    rw [toList_url, ht, hu]
  · exact absurd hsplit₄ (List.splitOn_ne_nil _ _)

/-- `parseRemote` accepts the URLs of slash-free names, and reads the name back. -/
theorem parseRemote_eq_ok {remote : String} {name : Name} :
    parseRemote remote = .ok name ↔ remote = name.url ∧ name.SlashFree := by
  constructor
  · intro h
    unfold parseRemote at h
    split at h
    · rename_i a b c hsplit
      cases h
      exact eq_url_of_splitRemote hsplit
    · cases h
  · rintro ⟨rfl, hname⟩
    rw [parseRemote, splitRemote_url hname]

/-- What is refused has not two slashes. -/
theorem parseRemote_error {remote : String} {e : PyException} (h : parseRemote remote = .error e) :
    remote.toList.count '/' ≠ 2 ∧ ∃ message, e = valueError message := by
  unfold parseRemote at h
  split at h
  · cases h
  · rename_i hsplit
    cases h
    refine ⟨?_, _, rfl⟩
    intro hcount
    have hlength : (splitRemote remote).length = 3 := by
      rw [splitRemote, List.length_map, length_splitOn, hcount]
    obtain ⟨a, b, c, habc⟩ := List.length_eq_three.mp hlength
    exact hsplit a b c habc

/-! ### The channel factories -/

/-- The unicast factory makes one channel, to the name that the URL is parsed to. -/
theorem run_slimrpcChannelFactory (localApp : App) (connId : ℕ) (remote : String)
    (channels : List Channel) :
    (slimrpcChannelFactory localApp connId (some remote)).run channels =
      match parseRemote remote with
      | .ok name => (.ok (.newWithConnection localApp name connId),
          channels ++ [.newWithConnection localApp name connId])
      | .error e => (.error e, channels) := by
  rw [slimrpcChannelFactory]
  cases parseRemote remote <;> rfl

/-- The group factory makes one channel, to all the names, or fails with the first URL that cannot
be parsed. -/
theorem run_slimrpcGroupChannelFactory (localApp : App) (connId : ℕ) (remotes : List String)
    (channels : List Channel) :
    (∃ members, List.Forall₂ (fun remote name => parseRemote remote = .ok name) remotes members ∧
      (slimrpcGroupChannelFactory localApp connId remotes).run channels =
        (.ok (.newGroupWithConnection localApp members connId),
          channels ++ [.newGroupWithConnection localApp members connId])) ∨
    ∃ remote ∈ remotes, ∃ message, parseRemote remote = .error (valueError message) ∧
      (slimrpcGroupChannelFactory localApp connId remotes).run channels =
        (.error (valueError message), channels) := by
  rw [slimrpcGroupChannelFactory]
  rcases Co.mapM_except (f := parseRemote) remotes with
    ⟨members, hmembers, hall⟩ | ⟨remote, hremote, e, he, herror⟩
  · rw [hmembers]
    exact Or.inl ⟨members, hall, rfl⟩
  · obtain ⟨-, message, rfl⟩ := parseRemote_error he
    rw [herror]
    exact Or.inr ⟨remote, hremote, message, he, rfl⟩

end SlimA2a
