import SlimA2a.GroupChannel

/-! # Choosing a common protocol

`_find_common_multiagent_protocol` scans the configured preference list for the first binding that
is multi-agent and offered by every card.

`Selects` is the specification of that scan: which binding it returns and when there is none, that
only the offers matter and not the order or number of cards and interfaces (`SameOffers`), and that
one more card never brings back a binding that was passed over.  It holds of every factory with a
preference list and every non-empty list of cards (`selects`). -/

namespace SlimA2a

/-! ### The first of a preference list -/

/-- With fewer candidates, the first one stays or comes later in the list. -/
theorem find?_of_le {α : Type} [DecidableEq α] {e e' : α → Bool}
    (hle : ∀ a, e' a = true → e a = true) :
    ∀ {p : List α} {b : α}, p.find? e' = some b →
      ∃ a, p.find? e = some a ∧ (b = a ∨ p.idxOf a < p.idxOf b)
  | [], b, hb => by cases hb
  | c :: p, b, hb => by
      rw [List.find?_cons] at hb ⊢
      cases hc : e c with
      | true =>
          refine ⟨c, rfl, ?_⟩
          cases hc' : e' c with
          | true =>
              rw [hc'] at hb
              exact Or.inl (Option.some.inj hb).symm
          | false =>
              rw [hc'] at hb
              have hne : c ≠ b := by
                rintro rfl
                have hb' := List.find?_some hb
                rw [hc'] at hb'
                cases hb'
              refine Or.inr ?_
              rw [List.idxOf_cons_self, List.idxOf_cons_ne _ hne]
              omega
      | false =>
          have hc' : e' c = false := by
            rw [← Bool.not_eq_true]
            intro htrue
            rw [hle c htrue] at hc
            cases hc
          rw [hc'] at hb
          obtain ⟨a, ha, hlater⟩ := find?_of_le hle hb
          refine ⟨a, ha, hlater.imp_right fun hlt => ?_⟩
          have hne : ∀ {d}, e d = true → c ≠ d := by
            rintro d hd rfl
            rw [hc] at hd
            cases hd
          have hna := hne (List.find?_some ha)
          have hnb := hne (hle b (List.find?_some hb))
          rw [List.idxOf_cons_ne _ hna, List.idxOf_cons_ne _ hnb]
          omega

/-! ### Offers -/

/-- The two lists offer the same: every card of one has a card in the other with the same
interfaces, whatever their order and however often they occur. -/
def SameOffers (cards cards' : List AgentCard) : Prop :=
  (∀ card ∈ cards, ∃ card' ∈ cards', ∀ interface,
      interface ∈ card'.supportedInterfaces ↔ interface ∈ card.supportedInterfaces) ∧
    ∀ card' ∈ cards', ∃ card ∈ cards, ∀ interface,
      interface ∈ card.supportedInterfaces ↔ interface ∈ card'.supportedInterfaces

theorem sameOffers_perm {cards cards' : List AgentCard} (h : cards.Perm cards') :
    SameOffers cards cards' :=
  ⟨fun card hcard => ⟨card, h.mem_iff.mp hcard, fun _ => Iff.rfl⟩,
    fun card hcard => ⟨card, h.mem_iff.mpr hcard, fun _ => Iff.rfl⟩⟩

theorem sameOffers_duplicate {card : AgentCard} {cards : List AgentCard} (h : card ∈ cards) :
    SameOffers cards (card :: cards) := by
  refine ⟨fun c hc => ⟨c, List.mem_cons_of_mem _ hc, fun _ => Iff.rfl⟩, fun c hc => ?_⟩
  rcases List.mem_cons.mp hc with rfl | hc
  · exact ⟨c, h, fun _ => Iff.rfl⟩
  · exact ⟨c, hc, fun _ => Iff.rfl⟩

theorem sameOffers_interfaces {cards cards' : List AgentCard}
    (h : List.Forall₂ (fun card card' => ∀ interface,
      interface ∈ card'.supportedInterfaces ↔ interface ∈ card.supportedInterfaces) cards cards') :
    SameOffers cards cards' := by
  refine ⟨fun card hcard => exists_of_mem h hcard, fun card' hcard' => ?_⟩
  obtain ⟨card, hcard, hsame⟩ := exists_of_mem h.flip hcard'
  exact ⟨card, hcard, fun interface => (hsame interface).symm⟩

/-! ### The scan -/

namespace MultiAgentClientFactory
variable [A2aClientSdk] (factory : MultiAgentClientFactory)

/-- The protocol is multi-agent, and the binding of an interface of every card. -/
def Eligible (cards : List AgentCard) (protocol : String) : Prop :=
  protocol ∈ factory.multiagentLabels ∧
    ∀ card ∈ cards, ∃ interface ∈ card.supportedInterfaces, interface.protocolBinding = protocol

instance (cards : List AgentCard) : DecidablePred (factory.Eligible cards) := fun _ =>
  inferInstanceAs (Decidable (_ ∧ _))

/-- What `_find_common_multiagent_protocol` promises, for a preference list `p` of the config. -/
structure Selects (cards : List AgentCard) : Prop where
  /-- It returns the earliest eligible protocol of the preference list. -/
  chosen_iff : ∀ protocol, factory.findCommonMultiagentProtocol cards = .ok protocol ↔
    ∃ before after, factory.config.supportedProtocolBindings = before ++ protocol :: after ∧
      factory.Eligible cards protocol ∧ ∀ q ∈ before, ¬ factory.Eligible cards q
  /-- It raises a `ValueError` when there is none, and raises nothing else. -/
  refused_iff : (∃ message,
      factory.findCommonMultiagentProtocol cards = .error (valueError message)) ↔
    ∀ q ∈ factory.config.supportedProtocolBindings, ¬ factory.Eligible cards q
  chosen_or_refused :
    (∃ protocol, factory.findCommonMultiagentProtocol cards = .ok protocol) ∨
      ∃ message, factory.findCommonMultiagentProtocol cards = .error (valueError message)
  /-- Order and repetition of cards and interfaces do not matter. -/
  order_blind : ∀ cards', SameOffers cards cards' →
    (factory.findCommonMultiagentProtocol cards').toOption =
      (factory.findCommonMultiagentProtocol cards).toOption
  /-- What is chosen with one more card was chosen before, or comes later in the preference list. -/
  one_more : ∀ card cards', cards'.Perm (card :: cards) → ∀ protocol',
    factory.findCommonMultiagentProtocol cards' = .ok protocol' →
      ∃ protocol, factory.findCommonMultiagentProtocol cards = .ok protocol ∧
        (protocol' = protocol ∨ factory.config.supportedProtocolBindings.idxOf protocol <
          factory.config.supportedProtocolBindings.idxOf protocol')

variable {factory} {cards : List AgentCard}

omit [A2aClientSdk] in
theorem eligible_iff {card : AgentCard} {q : String} :
    (q ∈ (cards.map bindings).foldl (· ∩ ·) (bindings card) ∧ q ∈ factory.multiagentLabels) ↔
      factory.Eligible (card :: cards) q := by
  rw [mem_common, and_comm]
  simp only [mem_bindings, Eligible]

omit [A2aClientSdk] in
theorem toOption_eq_some {ε α : Type} {r : Except ε α} {a : α} :
    r.toOption = some a ↔ r = .ok a := by
  cases r <;> simp [Except.toOption]

/-- The scan is a search for the first eligible protocol. -/
theorem toOption_findCommonMultiagentProtocol (hcards : cards ≠ [])
    (hp : factory.config.supportedProtocolBindings ≠ []) :
    (factory.findCommonMultiagentProtocol cards).toOption =
      factory.config.supportedProtocolBindings.find? fun q => factory.Eligible cards q := by
  cases cards with
  | nil => exact absurd rfl hcards
  | cons card cards =>
      unfold findCommonMultiagentProtocol preferred
      rw [if_neg hp]
      simp only [eligible_iff]
      split
      · rename_i protocol hfind
        rw [hfind]
        rfl
      · rename_i hfind
        rw [hfind]
        rfl

theorem findCommonMultiagentProtocol_eq_ok (hcards : cards ≠ [])
    (hp : factory.config.supportedProtocolBindings ≠ []) {protocol : String} :
    factory.findCommonMultiagentProtocol cards = .ok protocol ↔
      factory.config.supportedProtocolBindings.find? (fun q => factory.Eligible cards q) =
        some protocol := by
  rw [← toOption_findCommonMultiagentProtocol hcards hp, toOption_eq_some]

omit [A2aClientSdk] in
theorem eligible_of_sameOffers {cards' : List AgentCard} (hsame : SameOffers cards cards')
    {q : String} : factory.Eligible cards' q ↔ factory.Eligible cards q := by
  refine and_congr_right fun _ => ⟨fun hall card hcard => ?_, fun hall card' hcard' => ?_⟩
  · obtain ⟨card', hcard', hinterfaces⟩ := hsame.1 card hcard
    obtain ⟨interface, hmem, hbinding⟩ := hall card' hcard'
    exact ⟨interface, (hinterfaces interface).mp hmem, hbinding⟩
  · obtain ⟨card, hcard, hinterfaces⟩ := hsame.2 card' hcard'
    obtain ⟨interface, hmem, hbinding⟩ := hall card hcard
    exact ⟨interface, (hinterfaces interface).mp hmem, hbinding⟩

omit [A2aClientSdk] in
/-- One more card makes no protocol eligible. -/
theorem Eligible.of_perm_cons {card : AgentCard} {cards' : List AgentCard}
    (hperm : cards'.Perm (card :: cards)) {q : String} (hq : factory.Eligible cards' q) :
    factory.Eligible cards q :=
  ⟨hq.1, fun c hc => hq.2 c (hperm.mem_iff.mpr (List.mem_cons_of_mem card hc))⟩

/-- **Protocol selection is sound, complete, ordered by preference and blind to the order of the
cards.** -/
theorem selects (hcards : cards ≠ []) (hp : factory.config.supportedProtocolBindings ≠ []) :
    factory.Selects cards := by
  have hchoose := toOption_findCommonMultiagentProtocol hcards hp
  have hrefused {e : PyException} (he : factory.findCommonMultiagentProtocol cards = .error e) :
      ∃ message, factory.findCommonMultiagentProtocol cards = .error (valueError message) := by
    obtain ⟨⟨message, rfl⟩, -⟩ := factory.findCommonMultiagentProtocol_error hcards he
    exact ⟨message, he⟩
  constructor
  · intro protocol
    rw [findCommonMultiagentProtocol_eq_ok hcards hp, List.find?_eq_some_iff_append]
    simp only [decide_eq_true_iff, Bool.not_eq_true', decide_eq_false_iff_not]
    constructor
    · rintro ⟨helig, before, after, heq, hbefore⟩
      exact ⟨before, after, heq, helig, hbefore⟩
    · rintro ⟨before, after, heq, helig, hbefore⟩
      exact ⟨helig, before, after, heq, hbefore⟩
  · have hnone : (∀ q ∈ factory.config.supportedProtocolBindings, ¬ factory.Eligible cards q) ↔
        (factory.findCommonMultiagentProtocol cards).toOption = none := by
      rw [hchoose, List.find?_eq_none]
      simp only [decide_eq_true_iff]
    rw [hnone]
    constructor
    · rintro ⟨message, herror⟩
      rw [herror]
      rfl
    · intro h
      cases hfind : factory.findCommonMultiagentProtocol cards with
      | ok protocol =>
          rw [hfind] at h
          cases h
      | error e => exact hfind ▸ hrefused hfind
  · cases hfind : factory.findCommonMultiagentProtocol cards with
    | ok protocol => exact Or.inl ⟨protocol, rfl⟩
    | error e => exact Or.inr (hfind ▸ hrefused hfind)
  · intro cards' hsame
    have hcards' : cards' ≠ [] := by
      rintro rfl
      obtain ⟨card, hcard⟩ := List.exists_mem_of_ne_nil cards hcards
      obtain ⟨card', hcard', -⟩ := hsame.1 card hcard
      cases hcard'
    rw [hchoose, toOption_findCommonMultiagentProtocol hcards' hp]
    simp only [eligible_of_sameOffers hsame]
  · intro card cards' hperm protocol' hprotocol'
    have hcards' : cards' ≠ [] := by
      rintro rfl
      exact List.cons_ne_nil _ _ (List.perm_nil.mp hperm.symm)
    rw [findCommonMultiagentProtocol_eq_ok hcards' hp] at hprotocol'
    obtain ⟨protocol, hprotocol, hlater⟩ := find?_of_le (e := fun q => factory.Eligible cards q)
      (fun q hq => decide_eq_true (Eligible.of_perm_cons hperm (of_decide_eq_true hq))) hprotocol'
    exact ⟨protocol, (findCommonMultiagentProtocol_eq_ok hcards hp).mpr hprotocol, hlater⟩

end MultiAgentClientFactory

/-- Two cards and two multi-agent labels. -/
theorem selects_two : @MultiAgentClientFactory.Selects standardClientSdk
    ⟨{ groupConfig with supportedProtocolBindings := ["grpc", "slimrpc"] }, ∅, {"slimrpc", "grpc"}⟩
    [slimrpcCard "a" "agntcy/demo/a", slimrpcCard "b" "agntcy/demo/b"] :=
  @MultiAgentClientFactory.selects standardClientSdk
    ⟨{ groupConfig with supportedProtocolBindings := ["grpc", "slimrpc"] }, ∅, {"slimrpc", "grpc"}⟩
    [slimrpcCard "a" "agntcy/demo/a", slimrpcCard "b" "agntcy/demo/b"]
    (List.cons_ne_nil _ _) (List.cons_ne_nil _ _)

end SlimA2a
