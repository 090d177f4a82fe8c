import SlimA2a.SlimAddress

/-! # Addressing a group

What `MultiAgentClientFactory.create` does with two or more cards when the multi-agent label is the
one of the constructor and the group channels are made by `slimrpcGroupChannelFactory`.

A card is dialled as the name in the URL of the slimrpc interface that is chosen for it (`Dials`),
and `Undialable` lists what can stand against that.  Either every card is dialled, in order, over
one group channel, or the call raises a `ValueError` before any channel is made (`createsGroup`). -/

namespace SlimA2a

section
variable [A2aClientSdk]

/-- The card is dialled as `name`: the name in the URL of the slimrpc interface chosen for it. -/
structure Dials (card : AgentCard) (name : Name) : Prop where
  slashFree : name.SlashFree
  interface : ∃ interface ∈ card.supportedInterfaces, interface.protocolBinding = "slimrpc" ∧
    A2aClientSdk.findBestInterface card.supportedInterfaces ["slimrpc"] = some interface ∧
    interface.url = name.url

/-- The card has no slimrpc interface, none is chosen, or the URL of the chosen one has not exactly
two slashes, so not three components. -/
def Undialable (card : AgentCard) : Prop :=
  (∀ interface ∈ card.supportedInterfaces, interface.protocolBinding ≠ "slimrpc") ∨
    A2aClientSdk.findBestInterface card.supportedInterfaces ["slimrpc"] = none ∨
    ∃ interface, A2aClientSdk.findBestInterface card.supportedInterfaces ["slimrpc"] =
      some interface ∧ interface.url.toList.count '/' ≠ 2

/-- What `create` does with the cards, after the channels `channels` were made. -/
structure CreatesGroup (config : ClientConfig) (localApp : App) (connId : ℕ)
    (cards : List AgentCard) (interceptors : Option (List Interceptor)) (channels : List Channel) :
    Prop where
  /-- One group channel, whose `i`-th member is the name of the `i`-th card; or no channel. -/
  created_or_refused :
    (∃ members, List.Forall₂ Dials cards members ∧
      ((MultiAgentClientFactory.init config).create (.many cards) interceptors).run channels =
        (.ok (.produced (.multicastClient ⟨⟨.newGroupWithConnection localApp members connId⟩⟩)),
          channels ++ [.newGroupWithConnection localApp members connId])) ∨
    ∃ message,
      ((MultiAgentClientFactory.init config).create (.many cards) interceptors).run channels =
        (.error (valueError message), channels)
  raises_iff :
    (∃ e s, ((MultiAgentClientFactory.init config).create (.many cards) interceptors).run channels =
      (.error e, s)) ↔ ∃ card ∈ cards, Undialable card

/-! ### Cards -/

theorem Dials.not_undialable {card : AgentCard} {name : Name} (h : Dials card name) :
    ¬ Undialable card := by
  obtain ⟨hname, interface, hmem, hbinding, hbest, hurl⟩ := h
  rintro (hnone | hnone | ⟨interface', hbest', hcount⟩)
  · exact hnone interface hmem hbinding
  · rw [hbest] at hnone
    cases hnone
  · rw [hbest] at hbest'
    cases hbest'
    rw [hurl] at hcount
    exact hcount (slashFree_iff_count.mp hname)

/-- The URL that is collected for a card is the one of its chosen interface. -/
theorem slimrpcUrl_ok {card : AgentCard} {url : String} (h : slimrpcUrl card = .ok url) :
    ∃ interface, A2aClientSdk.findBestInterface card.supportedInterfaces ["slimrpc"] =
      some interface ∧ interface.url = url := by
  unfold slimrpcUrl at h
  split at h
  · rename_i interface hbest
    exact ⟨interface, hbest, Except.ok.inj h⟩
  · cases h

/-- Without a chosen interface no URL is collected. -/
theorem slimrpcUrl_error {card : AgentCard} {e : PyException} (h : slimrpcUrl card = .error e) :
    A2aClientSdk.findBestInterface card.supportedInterfaces ["slimrpc"] = none ∧
      ∃ message, e = valueError message := by
  unfold slimrpcUrl at h
  split at h
  · cases h
  · rename_i hbest
    exact ⟨hbest, _, (Except.error.inj h).symm⟩

/-- A URL that was collected for a card and parsed is the card's name. -/
theorem dials_of_ok {card : AgentCard} {url : String} {name : Name}
    (hurl : slimrpcUrl card = .ok url) (hname : parseRemote url = .ok name) : Dials card name := by
  obtain ⟨interface, hbest, hinterface⟩ := slimrpcUrl_ok hurl
  obtain ⟨rfl, hslash⟩ := parseRemote_eq_ok.mp hname
  obtain ⟨hmem, hbinding⟩ := A2aClientSdk.findBestInterface_mem hbest
  exact ⟨hslash, interface, hmem, List.mem_singleton.mp hbinding, hbest, hinterface⟩

theorem undialable_of_slimrpcUrl {card : AgentCard} {e : PyException}
    (h : slimrpcUrl card = .error e) : Undialable card ∧ ∃ message, e = valueError message := by
  obtain ⟨hbest, hmessage⟩ := slimrpcUrl_error h
  exact ⟨Or.inr (Or.inl hbest), hmessage⟩

theorem undialable_of_parseRemote {card : AgentCard} {url : String} {e : PyException}
    (hurl : slimrpcUrl card = .ok url) (h : parseRemote url = .error e) : Undialable card := by
  obtain ⟨interface, hbest, rfl⟩ := slimrpcUrl_ok hurl
  obtain ⟨hcount, -⟩ := parseRemote_error h
  exact Or.inr (Or.inr ⟨interface, hbest, hcount⟩)

/-! ### Collecting the members -/

omit [A2aClientSdk] in
/-- In two lists that are related item by item, every item on the left has one on the right. -/
theorem exists_of_mem {α β : Type} {R : α → β → Prop} {l : List α} {u : List β}
    (h : List.Forall₂ R l u) {a : α} (ha : a ∈ l) : ∃ b ∈ u, R a b := by
  induction h with
  | nil => cases ha
  | cons hab _ ih =>
      rcases List.mem_cons.mp ha with rfl | ha
      · exact ⟨_, List.mem_cons_self, hab⟩
      · obtain ⟨b, hb, hR⟩ := ih ha
        exact ⟨b, List.mem_cons_of_mem _ hb, hR⟩

theorem forall₂_dials {cards : List AgentCard} {urls : List String}
    (hurls : List.Forall₂ (fun card url => slimrpcUrl card = .ok url) cards urls) :
    ∀ {members : List Name},
      List.Forall₂ (fun url name => parseRemote url = .ok name) urls members →
        List.Forall₂ Dials cards members := by
  induction hurls with
  | nil =>
      intro members hmembers
      cases hmembers
      exact .nil
  | cons hurl _ ih =>
      intro members hmembers
      cases hmembers with
      | cons hname hnames => exact .cons (dials_of_ok hurl hname) (ih hnames)

/-- `SRPCTransport.create` for a list of cards. -/
theorem run_create_many {config : ClientConfig} {localApp : App} {connId : ℕ}
    (hgroup : config.slimrpcGroupChannelFactory = some (slimrpcGroupChannelFactory localApp connId))
    (cards : List AgentCard) (url : Option String) (channels : List Channel) :
    (∃ members, List.Forall₂ Dials cards members ∧
      (SRPCTransport.create (.many cards) url (some config)).run channels =
        (.ok (.multicastClient ⟨⟨.newGroupWithConnection localApp members connId⟩⟩),
          channels ++ [.newGroupWithConnection localApp members connId])) ∨
    ∃ message, (∃ card ∈ cards, Undialable card) ∧
      (SRPCTransport.create (.many cards) url (some config)).run channels =
        (.error (valueError message), channels) := by
  have hcreate : ∀ urls, cards.mapM slimrpcUrl = .ok urls →
      (SRPCTransport.create (.many cards) url (some config)).run channels =
        (do
          let channel ← slimrpcGroupChannelFactory localApp connId urls
          return .multicastClient ⟨⟨channel⟩⟩ : Making Product).run channels := by
    intro urls hurls
    simp only [SRPCTransport.create, MulticastClient.create, SRPCMulticastTransport.create, hurls,
      hgroup]
    rw [Co.run_bind_ok (Co.run_ofExcept _ _), Co.run_bind, Co.run_bind, Co.run_bind, Co.run_bind]
    rcases (slimrpcGroupChannelFactory localApp connId urls).run channels with ⟨_ | _, _⟩ <;> rfl
  rcases Co.mapM_except (f := slimrpcUrl) cards with
    ⟨urls, hurls, hall⟩ | ⟨card, hcard, e, he, herr⟩
  · rw [hcreate urls hurls]
    rcases run_slimrpcGroupChannelFactory localApp connId urls channels with
      ⟨members, hmembers, hrun⟩ | ⟨remote, hremote, message, herror, hrun⟩
    · exact Or.inl ⟨members, forall₂_dials hall hmembers, Co.run_bind_ok hrun _⟩
    · obtain ⟨card, hcard, hurl⟩ := exists_of_mem hall.flip hremote
      exact Or.inr ⟨message, ⟨card, hcard, undialable_of_parseRemote hurl herror⟩,
        Co.run_bind_error hrun _⟩
  · obtain ⟨hundialable, message, rfl⟩ := undialable_of_slimrpcUrl he
    refine Or.inr ⟨message, ⟨card, hcard, hundialable⟩, ?_⟩
    simp only [SRPCTransport.create, herr]
    rfl

/-! ### The factory of the constructor -/

namespace MultiAgentClientFactory

omit [A2aClientSdk] in
/-- Unicast registrations change neither the config nor the labels. -/
theorem foldl_register (producers : List (String × Producer)) :
    ∀ factory : MultiAgentClientFactory,
      (producers.foldl (fun factory (label, producer) => factory.register label producer false)
          factory).config = factory.config ∧
        (producers.foldl (fun factory (label, producer) => factory.register label producer false)
          factory).multiagentLabels = factory.multiagentLabels := by
  induction producers with
  | nil => exact fun _ => ⟨rfl, rfl⟩
  | cons p producers ih => exact fun factory => ih _

theorem config_init (config : ClientConfig) : (init config).config = config :=
  (foldl_register (A2aClientSdk.defaultProducers config) ⟨config, ∅, ∅⟩).1

/-- Only the constructor's own label is multi-agent. -/
theorem multiagentLabels_init (config : ClientConfig) :
    (init config).multiagentLabels = {"slimrpc"} := by
  have hsuper : (superInit config).multiagentLabels = ∅ :=
    (foldl_register (A2aClientSdk.defaultProducers config) ⟨config, ∅, ∅⟩).2
  show insert "slimrpc" (superInit config).multiagentLabels = {"slimrpc"}
  rw [hsuper, insert_empty_eq]

theorem lookup_registry_init (config : ClientConfig) :
    (init config).registry.lookup "slimrpc" = some SRPCTransport.create :=
  AList.lookup_insert _

/-- The cards go to `SRPCTransport.create`, or one of them has no slimrpc interface. -/
theorem handsTo_init {config : ClientConfig}
    (hsupported : config.supportedProtocolBindings = [] ∨
      "slimrpc" ∈ config.supportedProtocolBindings)
    {cards : List AgentCard} (hcards : 2 ≤ cards.length) :
    (init config).handsTo cards = .ok ("slimrpc", SRPCTransport.create) ∨
      ∃ message, (∃ card ∈ cards, Undialable card) ∧
        (init config).handsTo cards = .error (valueError message) := by
  have hne : cards ≠ [] := List.ne_nil_of_length_pos (by omega)
  rcases (init config).handsTo_of_singleton (multiagentLabels_init config)
      (lookup_registry_init config) hne with ⟨-, hok⟩ | ⟨hno, message, herror⟩
  · exact Or.inl hok
  · refine Or.inr ⟨message, ?_, herror⟩
    by_contra hall
    apply hno
    rw [config_init]
    refine ⟨hsupported, ?_⟩
    intro card hcard
    by_contra hbinding
    refine hall ⟨card, hcard, Or.inl ?_⟩
    intro interface hinterface heq
    exact hbinding (mem_bindings.mpr ⟨interface, hinterface, heq⟩)

end MultiAgentClientFactory

open MultiAgentClientFactory in
/-- **A group is addressed exactly as given, or not at all.** -/
theorem createsGroup {config : ClientConfig} {localApp : App} {connId : ℕ}
    (hgroup : config.slimrpcGroupChannelFactory = some (slimrpcGroupChannelFactory localApp connId))
    (hsupported : config.supportedProtocolBindings = [] ∨
      "slimrpc" ∈ config.supportedProtocolBindings)
    {cards : List AgentCard} (hcards : 2 ≤ cards.length)
    (interceptors : Option (List Interceptor)) (channels : List Channel) :
    CreatesGroup config localApp connId cards interceptors channels := by
  have hcases : (∃ members, List.Forall₂ Dials cards members ∧
        ((init config).create (.many cards) interceptors).run channels =
          (.ok (.produced (.multicastClient ⟨⟨.newGroupWithConnection localApp members connId⟩⟩)),
            channels ++ [.newGroupWithConnection localApp members connId])) ∨
      ∃ message, (∃ card ∈ cards, Undialable card) ∧
        ((init config).create (.many cards) interceptors).run channels =
          (.error (valueError message), channels) := by
    rw [create_many _ hcards, config_init]
    rcases handsTo_init hsupported hcards with hok | ⟨message, hundialable, herror⟩
    · rw [hok, Co.run_bind_ok (Co.run_ofExcept _ _)]
      rcases run_create_many hgroup cards none channels with
        ⟨members, hall, hrun⟩ | ⟨message, hundialable, hrun⟩
      · exact Or.inl ⟨members, hall, Co.run_bind_ok hrun _⟩
      · exact Or.inr ⟨message, hundialable, Co.run_bind_error hrun _⟩
    · rw [herror]
      exact Or.inr ⟨message, hundialable, rfl⟩
  rcases hcases with ⟨members, hall, hrun⟩ | ⟨message, hundialable, hrun⟩
  · refine ⟨Or.inl ⟨members, hall, hrun⟩, ?_⟩
    constructor
    · rintro ⟨e, s, h⟩
      rw [hrun] at h
      cases h
    · rintro ⟨card, hcard, hundialable⟩
      obtain ⟨name, -, hdials⟩ := exists_of_mem hall hcard
      exact absurd hundialable hdials.not_undialable
  · refine ⟨Or.inr ⟨message, hrun⟩, ?_⟩
    exact ⟨fun _ => hundialable, fun _ => ⟨_, _, hrun⟩⟩

end

/-- A card with one slimrpc interface. -/
def slimrpcCard (name url : String) : AgentCard := ⟨name, default, [⟨url, "slimrpc", []⟩], []⟩

/-- The configuration of a client on connection 7. -/
def groupConfig : ClientConfig where
  supportedProtocolBindings := ["slimrpc"]
  slimrpcChannelFactory := some (slimrpcChannelFactory ⟨0⟩ 7)
  slimrpcGroupChannelFactory := some (slimrpcGroupChannelFactory ⟨0⟩ 7)

section concrete

local instance : A2aClientSdk := standardClientSdk

/-- Two agents, and the group channel to them. -/
theorem createsGroup_two :
    ∃ members, List.Forall₂ Dials
        [slimrpcCard "a" "agntcy/demo/a", slimrpcCard "b" "agntcy/demo/b"] members ∧
      ((MultiAgentClientFactory.init groupConfig).create
          (.many [slimrpcCard "a" "agntcy/demo/a", slimrpcCard "b" "agntcy/demo/b"]) none).run [] =
        (.ok (.produced (.multicastClient ⟨⟨.newGroupWithConnection ⟨0⟩ members 7⟩⟩)),
          [.newGroupWithConnection ⟨0⟩ members 7]) := by
  have hcards : 2 ≤ [slimrpcCard "a" "agntcy/demo/a", slimrpcCard "b" "agntcy/demo/b"].length := by
    decide
  have hcreates : CreatesGroup groupConfig ⟨0⟩ 7 _ none [] :=
    createsGroup rfl (Or.inr List.mem_cons_self) hcards none []
  refine hcreates.created_or_refused.resolve_right ?_
  rintro ⟨message, herror⟩
  have hok : ((MultiAgentClientFactory.init groupConfig).create
      (.many [slimrpcCard "a" "agntcy/demo/a", slimrpcCard "b" "agntcy/demo/b"]) none).run [] =
      (.ok (.produced (.multicastClient ⟨⟨.newGroupWithConnection ⟨0⟩
        [⟨"agntcy", "demo", "a"⟩, ⟨"agntcy", "demo", "b"⟩] 7⟩⟩)),
        [.newGroupWithConnection ⟨0⟩ [⟨"agntcy", "demo", "a"⟩, ⟨"agntcy", "demo", "b"⟩] 7]) := rfl
  rw [hok] at herror
  cases herror

/-- The URL of the second card has two components, so no channel is made. -/
example : (((MultiAgentClientFactory.init groupConfig).create
    (.many [slimrpcCard "a" "agntcy/demo/a", slimrpcCard "b" "agntcy/b"]) none).run []).2 = [] := by
  rfl

end concrete
end SlimA2a
