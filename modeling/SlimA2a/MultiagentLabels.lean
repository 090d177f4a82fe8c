import SlimA2a.GroupChannel

/-! # The multi-agent labels over a run

A `MultiAgentClientFactory` keeps a registry of producers, where a registration replaces the one
before it, and a set of multi-agent labels, to which registrations add and from which none removes.

`history` lists all registrations of a factory, those of the constructor first, and `latest` is the
one that is current for a label.  The registry always agrees with it (`registryAgrees_after`).  The
labels do as long as no registration takes a label back (`KeepsStep`), and from the first that does
they no longer do (`inStep_iff`). -/

namespace SlimA2a

/-- A call of `register`. -/
structure Registration where
  label : String
  producer : Producer
  multiagent : Bool

/-- The latest registration of a label. -/
def latest (history : List Registration) (label : String) : Option Registration :=
  history.reverse.find? (·.label = label)

theorem latest_concat (history : List Registration) (r : Registration) (label : String) :
    latest (history ++ [r]) label = if r.label = label then some r else latest history label := by
  unfold latest
  rw [List.reverse_append, List.reverse_singleton, List.singleton_append, List.find?_cons]
  by_cases h : r.label = label
  · rw [if_pos h, decide_eq_true h]
  · rw [if_neg h, decide_eq_false h]

theorem label_latest {history : List Registration} {label : String} {r : Registration}
    (h : latest history label = some r) : r.label = label := by
  simpa using List.find?_some h

namespace MultiAgentClientFactory

/-- A sequence of `register` calls. -/
def registerAll (factory : MultiAgentClientFactory) (rs : List Registration) :
    MultiAgentClientFactory :=
  rs.foldl (fun factory r => factory.register r.label r.producer r.multiagent) factory

theorem registerAll_concat (factory : MultiAgentClientFactory) (rs : List Registration)
    (r : Registration) :
    factory.registerAll (rs ++ [r]) =
      (factory.registerAll rs).register r.label r.producer r.multiagent := by
  unfold registerAll
  rw [List.foldl_append]
  rfl

variable (factory : MultiAgentClientFactory) (history : List Registration)

/-- The registry holds the producer of the latest registration of each label. -/
def RegistryAgrees : Prop :=
  ∀ label, factory.registry.lookup label = (latest history label).map (·.producer)

/-- The multi-agent labels are those whose latest registration was a multi-agent one. -/
def LabelsAgree : Prop :=
  ∀ label, label ∈ factory.multiagentLabels ↔
    ∃ r, latest history label = some r ∧ r.multiagent = true

/-- The registration does not take a multi-agent label back. -/
def KeepsStep (r : Registration) : Prop :=
  r.multiagent = true ∨ r.label ∉ factory.multiagentLabels

variable {factory history}

/-! ### One registration -/

theorem RegistryAgrees.register (h : factory.RegistryAgrees history) (r : Registration) :
    (factory.register r.label r.producer r.multiagent).RegistryAgrees (history ++ [r]) := by
  intro label
  rw [latest_concat]
  show (factory.registry.insert r.label r.producer).lookup label = _
  by_cases hlabel : r.label = label
  · subst hlabel
    rw [if_pos rfl, AList.lookup_insert]
    rfl
  · rw [if_neg hlabel, AList.lookup_insert_ne (Ne.symm hlabel)]
    exact h label

theorem LabelsAgree.register (h : factory.LabelsAgree history) {r : Registration}
    (hr : factory.KeepsStep r) :
    (factory.register r.label r.producer r.multiagent).LabelsAgree (history ++ [r]) := by
  intro label
  rw [latest_concat]
  show label ∈ (if r.multiagent then insert r.label factory.multiagentLabels
    else factory.multiagentLabels) ↔ _
  by_cases hlabel : r.label = label
  · subst hlabel
    rw [if_pos rfl]
    cases hmulti : r.multiagent with
    | true =>
        rw [if_pos rfl]
        exact ⟨fun _ => ⟨r, rfl, hmulti⟩, fun _ => Finset.mem_insert_self _ _⟩
    | false =>
        have hnot : r.label ∉ factory.multiagentLabels :=
          hr.resolve_left (by rw [hmulti]; exact Bool.false_ne_true)
        rw [if_neg Bool.false_ne_true]
        constructor
        · exact fun hmem => absurd hmem hnot
        · rintro ⟨r', hr', hmulti'⟩
          cases hr'
          rw [hmulti] at hmulti'
          cases hmulti'
  · rw [if_neg hlabel, ← h label]
    split
    · rw [Finset.mem_insert, or_iff_right (Ne.symm hlabel)]
    · exact Iff.rfl

/-- A registration that takes a label back leaves it among the labels. -/
theorem keepsStep_of_labelsAgree {r : Registration}
    (h : (factory.register r.label r.producer r.multiagent).LabelsAgree (history ++ [r])) :
    factory.KeepsStep r := by
  by_contra hr
  unfold KeepsStep at hr
  rw [not_or, not_not] at hr
  obtain ⟨hmulti, hmem⟩ := hr
  have hafter : r.label ∈ (factory.register r.label r.producer r.multiagent).multiagentLabels := by
    show r.label ∈ (if r.multiagent then insert r.label factory.multiagentLabels
      else factory.multiagentLabels)
    rw [if_neg hmulti]
    exact hmem
  obtain ⟨r', hr', hmulti'⟩ := (h r.label).mp hafter
  rw [latest_concat, if_pos rfl] at hr'
  cases hr'
  exact hmulti hmulti'

/-! ### Runs -/

theorem RegistryAgrees.registerAll (h : factory.RegistryAgrees history) (rs : List Registration) :
    (factory.registerAll rs).RegistryAgrees (history ++ rs) := by
  induction rs using List.reverseRecOn with
  | nil =>
      rw [List.append_nil]
      exact h
  | append_singleton rs r ih =>
      rw [registerAll_concat, ← List.append_assoc]
      exact ih.register r

theorem LabelsAgree.registerAll (h : factory.LabelsAgree history) (rs : List Registration)
    (hrs : ∀ pre r, pre ++ [r] <+: rs → (factory.registerAll pre).KeepsStep r) :
    (factory.registerAll rs).LabelsAgree (history ++ rs) := by
  induction rs using List.reverseRecOn with
  | nil =>
      rw [List.append_nil]
      exact h
  | append_singleton rs r ih =>
      rw [registerAll_concat, ← List.append_assoc]
      refine (ih ?_).register (hrs rs r (List.prefix_refl _))
      intro pre r' hpre
      exact hrs pre r' (hpre.trans (List.prefix_append rs [r]))

end MultiAgentClientFactory

section
variable [A2aClientSdk]

/-- All registrations of a factory: the base class's, the constructor's, and `rs`. -/
def history (config : ClientConfig) (rs : List Registration) : List Registration :=
  ((A2aClientSdk.defaultProducers config).map fun (label, producer) => ⟨label, producer, false⟩) ++
    [⟨"slimrpc", SRPCTransport.create, true⟩] ++ rs

theorem history_append (config : ClientConfig) (rs rs' : List Registration) :
    history config (rs ++ rs') = history config rs ++ rs' :=
  (List.append_assoc _ rs rs').symm

namespace MultiAgentClientFactory

/-- A factory after the registrations `rs`. -/
def after (config : ClientConfig) (rs : List Registration) : MultiAgentClientFactory :=
  (init config).registerAll rs

/-- The factory is in step with its registrations. -/
structure InStep (factory : MultiAgentClientFactory) (history : List Registration) : Prop where
  labels : ∀ label, label ∈ factory.multiagentLabels ↔
    ∃ r, latest history label = some r ∧ r.multiagent = true
  /-- A list of cards is handed to a producer whose current registration is a multi-agent one. -/
  handed : ∀ cards, 2 ≤ cards.length → ∀ label producer,
    factory.handsTo cards = .ok (label, producer) →
      latest history label = some ⟨label, producer, true⟩

theorem inStep_of_agree {factory : MultiAgentClientFactory} {history : List Registration}
    (hregistry : factory.RegistryAgrees history) (hlabels : factory.LabelsAgree history) :
    factory.InStep history := by
  refine ⟨hlabels, ?_⟩
  intro cards _ label producer h
  obtain ⟨hfind, hlookup⟩ := factory.handsTo_ok h
  obtain ⟨-, -, hmem⟩ := factory.findCommonMultiagentProtocol_ok hfind
  obtain ⟨⟨label', producer', multiagent⟩, hr, hmulti⟩ := (hlabels label).mp hmem
  have hlabel : label' = label := label_latest hr
  have hproducer : producer' = producer := by
    rw [hregistry label, hr] at hlookup
    simpa using hlookup
  have hmultiagent : multiagent = true := hmulti
  rw [hr, hlabel, hproducer, hmultiagent]

/-! ### The constructor -/

/-- The constructor is a run of registrations as well. -/
theorem after_eq (config : ClientConfig) (rs : List Registration) :
    after config rs = registerAll ⟨config, ∅, ∅⟩ (history config rs) := by
  unfold after init superInit registerAll history
  rw [List.foldl_append, List.foldl_append, List.foldl_map]
  rfl

theorem registryAgrees_after (config : ClientConfig) (rs : List Registration) :
    (after config rs).RegistryAgrees (history config rs) := by
  have hempty : RegistryAgrees ⟨config, ∅, ∅⟩ [] := fun _ => rfl
  rw [after_eq]
  exact hempty.registerAll (history config rs)

/-- The base class registers no multi-agent label. -/
theorem labelsAgree_superInit (config : ClientConfig) :
    (superInit config).LabelsAgree
      ((A2aClientSdk.defaultProducers config).map fun (label, producer) =>
        ⟨label, producer, false⟩) := by
  have hlabels : (superInit config).multiagentLabels = ∅ :=
    (foldl_register (A2aClientSdk.defaultProducers config) ⟨config, ∅, ∅⟩).2
  intro label
  rw [hlabels]
  constructor
  · exact fun h => absurd h (Finset.notMem_empty label)
  · rintro ⟨r, hr, hmulti⟩
    have hmem := List.mem_reverse.mp (List.mem_of_find?_eq_some hr)
    obtain ⟨p, -, rfl⟩ := List.mem_map.mp hmem
    cases hmulti

theorem labelsAgree_init (config : ClientConfig) :
    (init config).LabelsAgree (history config []) := by
  have hinit := (labelsAgree_superInit config).register (Or.inl rfl :
    (superInit config).KeepsStep ⟨"slimrpc", SRPCTransport.create, true⟩)
  unfold history
  rw [List.append_nil]
  exact hinit

/-- **The labels stay in step exactly as long as no registration takes a label back.** -/
theorem inStep_iff (config : ClientConfig) (rs : List Registration) :
    (∀ pre, pre <+: rs → (after config pre).InStep (history config pre)) ↔
      ∀ pre r, pre ++ [r] <+: rs → (after config pre).KeepsStep r := by
  constructor
  · intro h pre r hpre
    have hlabels : (after config (pre ++ [r])).LabelsAgree (history config (pre ++ [r])) :=
      (h (pre ++ [r]) hpre).labels
    rw [after, registerAll_concat, history_append] at hlabels
    exact keepsStep_of_labelsAgree hlabels
  · intro h pre hpre
    apply inStep_of_agree (registryAgrees_after config pre)
    have hinit := (labelsAgree_init config).registerAll pre fun pre' r hr =>
      h pre' r (hr.trans hpre)
    rw [← history_append, List.nil_append] at hinit
    exact hinit

end MultiAgentClientFactory
end

/-- The slimrpc label is registered again for one agent only: it stays multi-agent, and a list of
cards is handed to the new producer. -/
theorem not_inStep_unicast_slimrpc :
    ¬ @MultiAgentClientFactory.InStep standardClientSdk
      (@MultiAgentClientFactory.after standardClientSdk groupConfig
        [⟨"slimrpc", Compat.SRPCCompatTransport.create, false⟩])
      (@history standardClientSdk groupConfig
        [⟨"slimrpc", Compat.SRPCCompatTransport.create, false⟩]) := by
  intro h
  obtain ⟨r, hr, hmulti⟩ :=
    (@MultiAgentClientFactory.InStep.labels standardClientSdk _ _ h "slimrpc").mp
      (Finset.mem_insert_self _ _)
  cases hr
  cases hmulti

end SlimA2a
