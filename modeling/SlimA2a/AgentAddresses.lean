import SlimA2a.GroupChannel
import SlimA2a.SlimHelper

/-! # Agents and their addresses

An agent sets itself up under the name of its three components, and clients dial it by a URL.
`Dialled` and `Refused` say what the unicast channel factory does with a URL, and `AddressLaws` puts
the pieces together: parsing a URL is the inverse of naming an agent, and the group channel factory
parses every URL as the unicast one does. -/

namespace SlimA2a

/-- The unicast factory dials `name` for the URL: one channel, and no other. -/
def Dialled (localApp : App) (connId : ℕ) (remote : String) (name : Name) : Prop :=
  ∀ channels, (slimrpcChannelFactory localApp connId (some remote)).run channels =
    (.ok (.newWithConnection localApp name connId),
      channels ++ [.newWithConnection localApp name connId])

/-- The unicast factory raises a `ValueError` for the URL and makes no channel. -/
def Refused (localApp : App) (connId : ℕ) (remote : String) : Prop :=
  ∃ message, ∀ channels, (slimrpcChannelFactory localApp connId (some remote)).run channels =
    (.error (valueError message), channels)

section
variable {localApp : App} {connId : ℕ} {remote : String} {name : Name}

theorem dialled_iff : Dialled localApp connId remote name ↔ parseRemote remote = .ok name := by
  constructor
  · intro hdialled
    have hrun := hdialled []
    rw [run_slimrpcChannelFactory] at hrun
    cases hparse : parseRemote remote with
    | error e =>
        rw [hparse] at hrun
        cases hrun
    | ok name' =>
        rw [hparse] at hrun
        cases hrun
        rfl
  · intro hparse channels
    rw [run_slimrpcChannelFactory, hparse]

theorem refused_iff : Refused localApp connId remote ↔ ∃ e, parseRemote remote = .error e := by
  constructor
  · rintro ⟨message, hrefused⟩
    have hrun := hrefused []
    rw [run_slimrpcChannelFactory] at hrun
    cases hparse : parseRemote remote with
    | error e => exact ⟨e, rfl⟩
    | ok name =>
        rw [hparse] at hrun
        cases hrun
  · rintro ⟨e, hparse⟩
    obtain ⟨-, message, rfl⟩ := parseRemote_error hparse
    refine ⟨message, fun channels => ?_⟩
    rw [run_slimrpcChannelFactory, hparse]

theorem dialled_or_refused (localApp : App) (connId : ℕ) (remote : String) :
    (∃ name, Dialled localApp connId remote name) ∨ Refused localApp connId remote := by
  cases hparse : parseRemote remote with
  | ok name => exact Or.inl ⟨name, dialled_iff.mpr hparse⟩
  | error e => exact Or.inr (refused_iff.mpr ⟨e, hparse⟩)

/-- The URL of a name dials that name when no component contains a slash. -/
theorem dialled_url_iff : Dialled localApp connId name.url name ↔ name.SlashFree := by
  rw [dialled_iff, parseRemote_eq_ok]
  exact and_iff_right rfl

/-- The URL of a name dials no other name. -/
theorem Dialled.eq_of_url {name' : Name} (h : Dialled localApp connId name.url name') :
    name' = name := by
  obtain ⟨hurl, hname'⟩ := parseRemote_eq_ok.mp (dialled_iff.mp h)
  have hname : name.SlashFree := by
    rw [slashFree_iff_count, hurl]
    exact slashFree_iff_count.mp hname'
  exact eq_of_url_eq hname' hname hurl.symm

/-- The group factory dials every URL that the unicast factory dials, or refuses the list with one
that the unicast factory refuses. -/
theorem group_dialled_or_refused (localApp : App) (connId : ℕ) (remotes : List String)
    (channels : List Channel) :
    (∃ members, List.Forall₂ (Dialled localApp connId) remotes members ∧
      (slimrpcGroupChannelFactory localApp connId remotes).run channels =
        (.ok (.newGroupWithConnection localApp members connId),
          channels ++ [.newGroupWithConnection localApp members connId])) ∨
    ∃ message, (∃ remote ∈ remotes, Refused localApp connId remote) ∧
      (slimrpcGroupChannelFactory localApp connId remotes).run channels =
        (.error (valueError message), channels) := by
  rcases run_slimrpcGroupChannelFactory localApp connId remotes channels with
    ⟨members, hall, hrun⟩ | ⟨remote, hremote, message, herror, hrun⟩
  · exact Or.inl ⟨members, hall.imp fun _ _ hparse => dialled_iff.mpr hparse, hrun⟩
  · exact Or.inr ⟨message, ⟨remote, hremote, refused_iff.mpr ⟨_, herror⟩⟩, hrun⟩

/-- No URL is both dialled and refused. -/
theorem Dialled.not_refused (h : Dialled localApp connId remote name) :
    ¬ Refused localApp connId remote := by
  intro hrefused
  obtain ⟨e, he⟩ := refused_iff.mp hrefused
  rw [dialled_iff.mp h] at he
  cases he

end

/-! ### Setting up -/

section
variable {σ : Type} {bindings : Bindings σ} {s s' : σ} {log log' : List ServiceOp}

theorem exists_of_initializeSlimService {logLevel : LogLevel}
    {service : Service (σ × List ServiceOp)}
    (h : (initializeSlimService bindings.logged logLevel).run (s, log) =
      (.ok service, s', log')) : ∃ service' : Service σ, service = service'.logged := by
  obtain ⟨-, w₁, -, h⟩ := Co.exists_of_run_bind h
  obtain ⟨-, w₂, -, h⟩ := Co.exists_of_run_bind h
  obtain ⟨service', w₃, -, h⟩ := Co.exists_of_run_bind h
  cases h
  exact ⟨service', rfl⟩

variable [InsecureClientConfigs]

/-- What is returned was subscribed, under the name that was asked for. -/
theorem subscribe_mem_of_connectAndSubscribe {service : Service σ} {localName : Name}
    {o : ConnectOptions} {app : App} {conn : ℕ}
    (h : (connectAndSubscribe service.logged localName o).run (s, log) =
      (.ok (app, conn), s', log')) : ServiceOp.subscribe app localName conn ∈ log' := by
  obtain ⟨resolved, w₀, -, h⟩ := Co.exists_of_run_bind h
  obtain ⟨connId, w₁, -, h⟩ := Co.exists_of_run_bind h
  obtain ⟨localApp, w₂, -, h⟩ := Co.exists_of_run_bind h
  obtain ⟨_, w₃, hsubscribe, h⟩ := Co.exists_of_run_bind h
  cases h
  have hlog := congrArg (fun outcome => outcome.2.2) hsubscribe
  rw [← show w₂.2 ++ [ServiceOp.subscribe app localName conn] = log' from hlog]
  exact List.mem_append_right _ List.mem_cons_self

/-- An agent is set up, and subscribed, under the name of its three components. -/
theorem setupSlimClient_name {n g a : String} {logLevel : LogLevel} {o : ConnectOptions}
    {service : Service (σ × List ServiceOp)} {app : App} {name : Name} {conn : ℕ}
    (h : (setupSlimClient bindings.logged n g a logLevel o).run (s, log) =
      (.ok (service, app, name, conn), s', log')) :
    name = ⟨n, g, a⟩ ∧ ServiceOp.subscribe app ⟨n, g, a⟩ conn ∈ log' := by
  obtain ⟨-, w₀, -, h⟩ := Co.exists_of_run_bind h
  obtain ⟨service₁, w₁, hinit, h⟩ := Co.exists_of_run_bind h
  obtain ⟨⟨app', conn'⟩, w₂, hconnect, h⟩ := Co.exists_of_run_bind h
  cases h
  obtain ⟨service', rfl⟩ := exists_of_initializeSlimService hinit
  exact ⟨rfl, subscribe_mem_of_connectAndSubscribe hconnect⟩

end

/-- Addresses are the inverse of names, for one agent and for several. -/
structure AddressLaws (localApp : App) (connId : ℕ) : Prop where
  /-- An agent is set up, and subscribed, under the name of its three components. -/
  set_up : ∀ [InsecureClientConfigs] {σ : Type} (bindings : Bindings σ) n g a logLevel o s service
      app name conn s' log,
    (setupSlimClient bindings.logged n g a logLevel o).run (s, []) =
      (.ok (service, app, name, conn), s', log) →
        name = ⟨n, g, a⟩ ∧ ServiceOp.subscribe app ⟨n, g, a⟩ conn ∈ log
  /-- Its URL dials it exactly when no component contains a slash. -/
  dialled_iff : ∀ n g a, Dialled localApp connId (n ++ "/" ++ g ++ "/" ++ a) ⟨n, g, a⟩ ↔
    '/' ∉ n.toList ∧ '/' ∉ g.toList ∧ '/' ∉ a.toList
  refused : ∀ n g a, ¬ ('/' ∉ n.toList ∧ '/' ∉ g.toList ∧ '/' ∉ a.toList) →
    Refused localApp connId (n ++ "/" ++ g ++ "/" ++ a)
  /-- Whatever is not dialled is refused. -/
  dialled_or_refused : ∀ remote,
    (∃ name, Dialled localApp connId remote name) ∨ Refused localApp connId remote
  never_another : ∀ n g a name,
    Dialled localApp connId (n ++ "/" ++ g ++ "/" ++ a) name → name = ⟨n, g, a⟩
  /-- A URL that is dialled is put together again from the name. -/
  rejoin : ∀ remote name, Dialled localApp connId remote name →
    name.component0 ++ "/" ++ name.component1 ++ "/" ++ name.component2 = remote
  injective : ∀ remote remote' name, Dialled localApp connId remote name →
    Dialled localApp connId remote' name → remote = remote'
  /-- A group has the members that are dialled one by one, in order. -/
  group_members : ∀ remotes channels channel channels',
    (slimrpcGroupChannelFactory localApp connId remotes).run channels = (.ok channel, channels') →
      ∃ members, List.Forall₂ (Dialled localApp connId) remotes members ∧
        channel = .newGroupWithConnection localApp members connId ∧
        channels' = channels ++ [channel]
  /-- A group is refused, and no channel is made, exactly when one of its members is refused. -/
  group_refused : ∀ remotes channels,
    (∃ message, (slimrpcGroupChannelFactory localApp connId remotes).run channels =
      (.error (valueError message), channels)) ↔ ∃ remote ∈ remotes, Refused localApp connId remote
  group_raises : ∀ remotes channels e channels',
    (slimrpcGroupChannelFactory localApp connId remotes).run channels = (.error e, channels') →
      ∃ remote ∈ remotes, Refused localApp connId remote

/-- **Addresses parse as the inverse of how agents are named.** -/
theorem addressLaws (localApp : App) (connId : ℕ) : AddressLaws localApp connId where
  set_up := by
    intro _ σ bindings n g a logLevel o s service app name conn s' log h
    exact setupSlimClient_name h
  dialled_iff := by
    intro n g a
    rw [← url_mk, dialled_url_iff]
    exact ⟨fun h => ⟨h.component0, h.component1, h.component2⟩, fun ⟨hn, hg, ha⟩ => ⟨hn, hg, ha⟩⟩
  refused := by
    intro n g a hslash
    rw [← url_mk]
    rcases SlimA2a.dialled_or_refused localApp connId (Name.url ⟨n, g, a⟩) with
      ⟨name, hdialled⟩ | hrefused
    · obtain rfl : name = ⟨n, g, a⟩ := Dialled.eq_of_url hdialled
      have hname := dialled_url_iff.mp hdialled
      exact absurd ⟨hname.component0, hname.component1, hname.component2⟩ hslash
    · exact hrefused
  dialled_or_refused := SlimA2a.dialled_or_refused localApp connId
  never_another := by
    intro n g a name hdialled
    rw [← url_mk] at hdialled
    exact hdialled.eq_of_url
  rejoin := by
    intro remote name hdialled
    rw [← url_mk]
    exact (parseRemote_eq_ok.mp (SlimA2a.dialled_iff.mp hdialled)).1.symm
  injective := by
    intro remote remote' name hdialled hdialled'
    rw [(parseRemote_eq_ok.mp (SlimA2a.dialled_iff.mp hdialled)).1,
      (parseRemote_eq_ok.mp (SlimA2a.dialled_iff.mp hdialled')).1]
  group_members := by
    intro remotes channels channel channels' h
    rcases group_dialled_or_refused localApp connId remotes channels with
      ⟨members, hmembers, hrun⟩ | ⟨message, -, hrun⟩
    · rw [hrun] at h
      cases h
      exact ⟨members, hmembers, rfl, rfl⟩
    · rw [hrun] at h
      cases h
  group_refused := by
    intro remotes channels
    rcases group_dialled_or_refused localApp connId remotes channels with
      ⟨members, hmembers, hrun⟩ | ⟨message, hrefused, hrun⟩
    · refine iff_of_false ?_ ?_
      · rintro ⟨message, herror⟩
        rw [hrun] at herror
        cases herror
      · rintro ⟨remote, hremote, hrefused⟩
        obtain ⟨name, -, hdialled⟩ := exists_of_mem hmembers hremote
        exact hdialled.not_refused hrefused
    · exact iff_of_true ⟨message, hrun⟩ hrefused
  group_raises := by
    intro remotes channels e channels' h
    rcases group_dialled_or_refused localApp connId remotes channels with
      ⟨members, hmembers, hrun⟩ | ⟨message, hrefused, hrun⟩
    · rw [hrun] at h
      cases h
    · exact hrefused

end SlimA2a
