import SlimA2a.HandlerCalls

/-! # Resource names

The names under which v0.3 addresses tasks and push-notification configs, and what the server makes
of them.

A name is read by its segments, the words between the slashes.  The extractors succeed exactly on
the names that *start* with the segments of a well-formed name (`extractTaskId_eq_ok`,
`extractTaskAndConfigId_eq_ok`); they do not look at what comes after. -/

namespace SlimA2a.Compat

/-- The name that the client builds for a task. -/
def taskName (taskId : String) : String := "tasks/" ++ taskId

/-- The name that the client builds for a push-notification config. -/
def taskPushConfigName (taskId configId : String) : String :=
  "tasks/" ++ taskId ++ "/pushNotificationConfigs/" ++ configId

/-- The words between the slashes. -/
def segments (name : String) : List (List Char) := name.toList.splitOn '/'

def tasks : List Char := "tasks".toList

def pushNotificationConfigs : List Char := "pushNotificationConfigs".toList

/-! ### Segments of the names that are built -/

theorem segments_inj {s t : String} : segments s = segments t ↔ s = t := by
  unfold segments
  rw [splitOn_inj, String.toList_inj]

theorem not_mem_of_mem_segments {s : String} {a : List Char} (h : a ∈ segments s) : '/' ∉ a :=
  not_mem_of_mem_splitOn h

theorem segments_eq_singleton {s : String} (h : '/' ∉ s.toList) : segments s = [s.toList] :=
  List.splitOn_eq_singleton h

theorem slash_not_mem_tasks : '/' ∉ tasks := by decide

theorem slash_not_mem_pushNotificationConfigs : '/' ∉ pushNotificationConfigs := by decide

theorem segments_taskName (taskId : String) :
    segments (taskName taskId) = tasks :: segments taskId := by
  have h : (taskName taskId).toList = tasks ++ '/' :: taskId.toList := by
    rw [taskName, String.toList_append]
    rfl
  rw [segments, h, splitOn_segment slash_not_mem_tasks]
  rfl

theorem segments_taskPushConfigName (taskId configId : String) :
    segments (taskPushConfigName taskId configId) =
      tasks :: (segments taskId ++ pushNotificationConfigs :: segments configId) := by
  have h : (taskPushConfigName taskId configId).toList =
      tasks ++ '/' :: (taskId.toList ++ '/' ::
        (pushNotificationConfigs ++ '/' :: configId.toList)) := by
    simp only [taskPushConfigName, String.toList_append, List.append_assoc]
    rfl
  rw [segments, h, splitOn_segment slash_not_mem_tasks, List.splitOn_append_cons_self,
    splitOn_segment slash_not_mem_pushNotificationConfigs]
  rfl

/-! ### What the extractors accept -/

/-- A group at the end of a pattern captures the first segment, if it is not empty. -/
theorem prefixMatch_last_group {s a : List Char} {as : List (List Char)}
    (h : s.splitOn '/' = a :: as) :
    prefixMatch [.run '/'] s = if a = [] then none else some [a] := by
  obtain ⟨ha, ⟨rfl, rfl⟩ | ⟨t, rfl, _⟩⟩ := exists_segment h
  · exact prefixMatch_run_last (stops_nil '/') ha
  · exact prefixMatch_run_segment (stops_nil '/') ha t

/-- A literal segment, whatever the rest of the pattern is. -/
theorem prefixMatch_literal {w : List Char} (hw : '/' ∉ w) (ps : List (Piece Char)) {s : List Char}
    {a : List Char} {as : List (List Char)} (h : s.splitOn '/' = a :: as) :
    (as = [] ∧ prefixMatch (.lit (w ++ ['/']) :: ps) s = none) ∨
      ∃ t, t.splitOn '/' = as ∧
        prefixMatch (.lit (w ++ ['/']) :: ps) s = if a = w then prefixMatch ps t else none := by
  obtain ⟨ha, ⟨rfl, rfl⟩ | ⟨t, rfl, ht⟩⟩ := exists_segment h
  · exact Or.inl ⟨rfl, prefixMatch_lit_last ha ps⟩
  · exact Or.inr ⟨t, ht, prefixMatch_lit_segment hw ha ps t⟩

/-- The id in the segments of a task name. -/
def readTask : List (List Char) → Option (List Char)
  | w :: a :: _ => if w = tasks ∧ a ≠ [] then some a else none
  | _ => none

/-- The two ids in the segments of a config name. -/
def readConfig : List (List Char) → Option (List Char × List Char)
  | w :: a :: k :: b :: _ =>
      if w = tasks ∧ a ≠ [] ∧ k = pushNotificationConfigs ∧ b ≠ [] then some (a, b) else none
  | _ => none

/-- The task pattern, segment by segment. -/
theorem prefixMatch_taskNameMatch (s : List Char) :
    prefixMatch taskNameMatch s = (readTask (s.splitOn '/')).map fun a => [a] := by
  have hlit : "tasks/".toList = tasks ++ ['/'] := rfl
  rw [taskNameMatch, hlit]
  cases hs : s.splitOn '/' with
  | nil => exact absurd hs (List.splitOn_ne_nil _ _)
  | cons w as =>
      rcases prefixMatch_literal slash_not_mem_tasks [.run '/'] hs with ⟨rfl, h⟩ | ⟨t, ht, h⟩
      · exact h
      · rw [h]
        cases as with
        | nil => exact absurd ht (List.splitOn_ne_nil _ _)
        | cons a as =>
            rw [prefixMatch_last_group ht]
            by_cases hw : w = tasks <;> by_cases ha : a = [] <;> simp [readTask, hw, ha]

/-- The config pattern, segment by segment. -/
theorem prefixMatch_taskPushConfigNameMatch (s : List Char) :
    prefixMatch taskPushConfigNameMatch s =
      (readConfig (s.splitOn '/')).map fun ab => [ab.1, ab.2] := by
  have hlit : "tasks/".toList = tasks ++ ['/'] := rfl
  have hlit' : "/pushNotificationConfigs/".toList = '/' :: (pushNotificationConfigs ++ ['/']) := rfl
  rw [taskPushConfigNameMatch, hlit, hlit']
  cases hs : s.splitOn '/' with
  | nil => exact absurd hs (List.splitOn_ne_nil _ _)
  | cons w as =>
      rcases prefixMatch_literal slash_not_mem_tasks
        [.run '/', .lit ('/' :: (pushNotificationConfigs ++ ['/'])), .run '/'] hs with
        ⟨rfl, h⟩ | ⟨t, ht, h⟩
      · exact h
      · rw [h]
        cases as with
        | nil => exact absurd ht (List.splitOn_ne_nil _ _)
        | cons a as =>
            obtain ⟨ha, ⟨rfl, rfl⟩ | ⟨u, rfl, hu⟩⟩ := exists_segment ht
            · rw [prefixMatch_run_last (stops_lit _ _ _) ha]
              simp [prefixMatch, readConfig]
            · rw [prefixMatch_run_segment (stops_lit _ _ _) ha, prefixMatch_lit_cons]
              cases as with
              | nil => exact absurd hu (List.splitOn_ne_nil _ _)
              | cons k as =>
                  rcases prefixMatch_literal slash_not_mem_pushNotificationConfigs [.run '/'] hu
                    with ⟨rfl, h'⟩ | ⟨v, hv, h'⟩
                  · simp [h', readConfig]
                  · rw [h']
                    cases as with
                    | nil => exact absurd hv (List.splitOn_ne_nil _ _)
                    | cons b as =>
                        rw [prefixMatch_last_group hv]
                        by_cases hw : w = tasks <;> by_cases ha : a = [] <;>
                          by_cases hk : k = pushNotificationConfigs <;> by_cases hb : b = [] <;>
                            simp [readConfig, hw, ha, hk, hb]

theorem readTask_eq_some {as : List (List Char)} {a : List Char} :
    readTask as = some a ↔ a ≠ [] ∧ ∃ rest, as = tasks :: a :: rest := by
  constructor
  · intro h
    match as, h with
    | w :: a' :: rest, h =>
        rw [readTask] at h
        split at h
        · rename_i hwa
          obtain rfl : a' = a := by simpa using h
          exact ⟨hwa.2, rest, by rw [hwa.1]⟩
        · cases h
  · rintro ⟨ha, rest, rfl⟩
    simp [readTask, ha]

theorem readConfig_eq_some {as : List (List Char)} {a b : List Char} :
    readConfig as = some (a, b) ↔
      (a ≠ [] ∧ b ≠ []) ∧ ∃ rest, as = tasks :: a :: pushNotificationConfigs :: b :: rest := by
  constructor
  · intro h
    match as, h with
    | w :: a' :: k :: b' :: rest, h =>
        rw [readConfig] at h
        split at h
        · rename_i hwab
          obtain ⟨rfl, rfl⟩ : a' = a ∧ b' = b := by simpa using h
          exact ⟨⟨hwab.2.1, hwab.2.2.2⟩, rest, by rw [hwab.1, hwab.2.2.1]⟩
        · cases h
  · rintro ⟨⟨ha, hb⟩, rest, rfl⟩
    simp [readConfig, ha, hb]

theorem extractTaskId_eq (name : String) :
    extractTaskId name =
      match readTask (segments name) with
      | none => .error (invalidParams ("No task for " ++ name))
      | some a => .ok (String.ofList a) := by
  rw [extractTaskId, Pattern.match, prefixMatch_taskNameMatch]
  show _ = match readTask (name.toList.splitOn '/') with | none => _ | some a => _
  cases readTask (name.toList.splitOn '/') <;> rfl

theorem extractTaskAndConfigId_eq (name : String) :
    extractTaskAndConfigId name =
      match readConfig (segments name) with
      | none => .error (invalidParams ("Bad resource name " ++ name))
      | some ab => .ok (String.ofList ab.1, String.ofList ab.2) := by
  rw [extractTaskAndConfigId, Pattern.match, prefixMatch_taskPushConfigNameMatch]
  show _ = match readConfig (name.toList.splitOn '/') with | none => _ | some ab => _
  cases readConfig (name.toList.splitOn '/') <;> rfl

/-- The names from which a task id is extracted, and the id. -/
theorem extractTaskId_eq_ok {name taskId : String} :
    extractTaskId name = .ok taskId ↔
      taskId.toList ≠ [] ∧ ∃ rest, segments name = tasks :: taskId.toList :: rest := by
  rw [extractTaskId_eq, ← readTask_eq_some]
  cases hread : readTask (segments name) with
  | none => simp
  | some a =>
      constructor
      · intro h
        obtain rfl : String.ofList a = taskId := by simpa using h
        rw [String.toList_ofList]
      · intro h
        obtain rfl : a = taskId.toList := by simpa using h
        dsimp only
        rw [String.ofList_toList]

/-- The names from which a task id and a config id are extracted, and the ids. -/
theorem extractTaskAndConfigId_eq_ok {name taskId configId : String} :
    extractTaskAndConfigId name = .ok (taskId, configId) ↔
      (taskId.toList ≠ [] ∧ configId.toList ≠ []) ∧ ∃ rest,
        segments name =
          tasks :: taskId.toList :: pushNotificationConfigs :: configId.toList :: rest := by
  rw [extractTaskAndConfigId_eq, ← readConfig_eq_some]
  cases hread : readConfig (segments name) with
  | none => simp
  | some ab =>
      obtain ⟨a, b⟩ := ab
      constructor
      · intro h
        obtain ⟨rfl, rfl⟩ : String.ofList a = taskId ∧ String.ofList b = configId := by
          simpa using h
        rw [String.toList_ofList, String.toList_ofList]
      · intro h
        obtain ⟨rfl, rfl⟩ : a = taskId.toList ∧ b = configId.toList := by simpa using h
        dsimp only
        rw [String.ofList_toList, String.ofList_toList]

/-- Every other name is refused. -/
theorem extractTaskId_error {name : String} {e : PyException} (h : extractTaskId name = .error e) :
    ∃ message, e = invalidParams message := by
  rw [extractTaskId_eq] at h
  split at h
  · exact ⟨_, (Except.error.inj h).symm⟩
  · cases h

theorem extractTaskAndConfigId_error {name : String} {e : PyException}
    (h : extractTaskAndConfigId name = .error e) : ∃ message, e = invalidParams message := by
  rw [extractTaskAndConfigId_eq] at h
  split at h
  · exact ⟨_, (Except.error.inj h).symm⟩
  · cases h

/-! ### Which names are taken for another name -/

/-- The segments start like a task name and go on. -/
def GoesOnAfterTask (as : List (List Char)) : Prop :=
  ∃ a x rest, a ≠ [] ∧ as = tasks :: a :: x :: rest

/-- The segments start like a config name and go on. -/
def GoesOnAfterConfig (as : List (List Char)) : Prop :=
  ∃ a b x rest, a ≠ [] ∧ b ≠ [] ∧ as = tasks :: a :: pushNotificationConfigs :: b :: x :: rest

/-- No id that was extracted contains a slash. -/
theorem slash_not_mem_of_extractTaskId {name taskId : String}
    (h : extractTaskId name = .ok taskId) : '/' ∉ taskId.toList := by
  obtain ⟨-, rest, hs⟩ := extractTaskId_eq_ok.mp h
  exact not_mem_of_mem_segments (by rw [hs]; simp)

theorem slash_not_mem_of_extractTaskAndConfigId {name taskId configId : String}
    (h : extractTaskAndConfigId name = .ok (taskId, configId)) :
    '/' ∉ taskId.toList ∧ '/' ∉ configId.toList := by
  obtain ⟨-, rest, hs⟩ := extractTaskAndConfigId_eq_ok.mp h
  exact ⟨not_mem_of_mem_segments (by rw [hs]; simp), not_mem_of_mem_segments (by rw [hs]; simp)⟩

/-- Rebuilding a task name gives it back, unless it goes on. -/
theorem taskName_extractTaskId_iff (name : String) :
    (∀ taskId, extractTaskId name = .ok taskId → taskName taskId = name) ↔
      ¬ GoesOnAfterTask (segments name) := by
  constructor
  · rintro h ⟨a, x, rest, ha, hs⟩
    have hok : extractTaskId name = .ok (String.ofList a) := by
      rw [extractTaskId_eq_ok, String.toList_ofList]
      exact ⟨ha, x :: rest, hs⟩
    have hname := h _ hok
    have hslash := slash_not_mem_of_extractTaskId hok
    rw [← hname, segments_taskName, segments_eq_singleton hslash] at hs
    simp at hs
  · intro hgoes taskId hok
    obtain ⟨ha, rest, hs⟩ := extractTaskId_eq_ok.mp hok
    have hslash := slash_not_mem_of_extractTaskId hok
    cases rest with
    | nil => rw [← segments_inj, segments_taskName, segments_eq_singleton hslash, hs]
    | cons x rest => exact absurd ⟨taskId.toList, x, rest, ha, hs⟩ hgoes

/-- Rebuilding a config name gives it back, unless it goes on. -/
theorem taskPushConfigName_extractTaskAndConfigId_iff (name : String) :
    (∀ taskId configId, extractTaskAndConfigId name = .ok (taskId, configId) →
        taskPushConfigName taskId configId = name) ↔
      ¬ GoesOnAfterConfig (segments name) := by
  constructor
  · rintro h ⟨a, b, x, rest, ha, hb, hs⟩
    have hok : extractTaskAndConfigId name = .ok (String.ofList a, String.ofList b) := by
      rw [extractTaskAndConfigId_eq_ok, String.toList_ofList, String.toList_ofList]
      exact ⟨⟨ha, hb⟩, x :: rest, hs⟩
    have hname := h _ _ hok
    obtain ⟨hta, htb⟩ := slash_not_mem_of_extractTaskAndConfigId hok
    rw [← hname, segments_taskPushConfigName, segments_eq_singleton hta,
      segments_eq_singleton htb] at hs
    simp at hs
  · intro hgoes taskId configId hok
    obtain ⟨⟨ha, hb⟩, rest, hs⟩ := extractTaskAndConfigId_eq_ok.mp hok
    obtain ⟨hta, htb⟩ := slash_not_mem_of_extractTaskAndConfigId hok
    cases rest with
    | nil =>
        rw [← segments_inj, segments_taskPushConfigName, segments_eq_singleton hta,
          segments_eq_singleton htb, hs]
        rfl
    | cons x rest => exact absurd ⟨_, _, x, rest, ha, hb, hs⟩ hgoes

/-! ### Names built from ids -/

theorem taskName_inj {taskId taskId' : String} (h : taskName taskId' = taskName taskId) :
    taskId' = taskId := by
  rw [← segments_inj, segments_taskName, segments_taskName] at h
  rw [← segments_inj]
  exact (List.cons.inj h).2

/-- Ids without a slash are determined by the name built from them. -/
theorem eq_of_taskPushConfigName_eq {taskId configId taskId' configId' : String}
    (ht : '/' ∉ taskId'.toList) (hc : '/' ∉ configId'.toList)
    (h : taskPushConfigName taskId' configId' = taskPushConfigName taskId configId) :
    taskId' = taskId ∧ configId' = configId := by
  rw [← segments_inj, segments_taskPushConfigName, segments_taskPushConfigName,
    segments_eq_singleton ht, segments_eq_singleton hc] at h
  have hlen := congrArg List.length h
  simp only [List.length_cons, List.length_append, List.length_nil] at hlen
  have htask : 0 < (segments taskId).length :=
    List.length_pos_iff.mpr (List.splitOn_ne_nil _ _)
  have hconfig : 0 < (segments configId).length :=
    List.length_pos_iff.mpr (List.splitOn_ne_nil _ _)
  obtain ⟨a, ha⟩ := List.length_eq_one_iff.mp (show (segments taskId).length = 1 by omega)
  obtain ⟨b, hb⟩ := List.length_eq_one_iff.mp (show (segments configId).length = 1 by omega)
  rw [ha, hb] at h
  simp only [List.cons_append, List.nil_append, List.cons.injEq, true_and, and_true] at h
  constructor
  · rw [← segments_inj, segments_eq_singleton ht, ha, h.1]
  · rw [← segments_inj, segments_eq_singleton hc, hb, h.2]

/-- The server reads back the task id that the client put into a task name, or refuses it. -/
def TaskIdSurvives (taskId : String) : Prop :=
  extractTaskId (taskName taskId) = .ok taskId ∨
    ∃ message, extractTaskId (taskName taskId) = .error (invalidParams message)

/-- The server reads back the ids that the client put into a config name, or refuses it. -/
def ConfigIdsSurvive (taskId configId : String) : Prop :=
  extractTaskAndConfigId (taskPushConfigName taskId configId) = .ok (taskId, configId) ∨
    ∃ message, extractTaskAndConfigId (taskPushConfigName taskId configId) =
      .error (invalidParams message)

theorem taskIdSurvives_iff (taskId : String) :
    TaskIdSurvives taskId ↔ ¬ GoesOnAfterTask (segments (taskName taskId)) := by
  rw [← taskName_extractTaskId_iff]
  constructor
  · rintro (hok | ⟨message, herror⟩) taskId' hok'
    · rw [hok] at hok'
      cases hok'
      rfl
    · rw [herror] at hok'
      cases hok'
  · intro h
    cases hextract : extractTaskId (taskName taskId) with
    | error e =>
        obtain ⟨message, rfl⟩ := extractTaskId_error hextract
        exact Or.inr ⟨message, hextract⟩
    | ok taskId' =>
        obtain rfl := taskName_inj (h taskId' hextract)
        exact Or.inl hextract

theorem configIdsSurvive_iff (taskId configId : String) :
    ConfigIdsSurvive taskId configId ↔
      ¬ GoesOnAfterConfig (segments (taskPushConfigName taskId configId)) := by
  rw [← taskPushConfigName_extractTaskAndConfigId_iff]
  constructor
  · rintro (hok | ⟨message, herror⟩) taskId' configId' hok'
    · rw [hok] at hok'
      cases hok'
      rfl
    · rw [herror] at hok'
      cases hok'
  · intro h
    cases hextract : extractTaskAndConfigId (taskPushConfigName taskId configId) with
    | error e =>
        obtain ⟨message, rfl⟩ := extractTaskAndConfigId_error hextract
        exact Or.inr ⟨message, hextract⟩
    | ok ids =>
        obtain ⟨taskId', configId'⟩ := ids
        obtain ⟨ht, hc⟩ := slash_not_mem_of_extractTaskAndConfigId hextract
        obtain ⟨rfl, rfl⟩ := eq_of_taskPushConfigName_eq ht hc (h taskId' configId' hextract)
        exact Or.inl hextract

/-! ### What the methods act on -/

/-- The call is about the task, or the task and config, that `name` is the name of. -/
def Names [Types03] : HandlerCall03 → String → Prop
  | .onGetTaskPushNotificationConfig r _, name =>
      taskPushConfigName r.params.id r.params.pushNotificationConfigId = name
  | .onDeleteTaskPushNotificationConfig r _, name =>
      taskPushConfigName r.params.id r.params.pushNotificationConfigId = name
  | .onListTaskPushNotificationConfigs r _, name => taskName r.params.id = name
  | _, _ => False

theorem names_of_mem_log [Types03] {σ : Type} (h : SRPCCompatHandler σ) (context : Context) (s : σ)
    {π α : Type} {params : Except PyException π}
    {call : Request03 π → ServerCallContext → Co σ PyException α}
    {entry : Request03 π → ServerCallContext → HandlerCall03} {name : String}
    (hnames : ∀ r c, params = .ok r.params → Names (entry r c) name) :
    ∀ x ∈ ((h.logged.withRequest context params fun r c => (call r c).logged (entry r c)).run
      (s, [])).2.2, Names x name := by
  intro x hx
  rw [SRPCCompatHandler.log_withRequest] at hx
  rcases hp : (h.prepare context params).run s with ⟨_ | ⟨r, c⟩, s'⟩
  · simp [hp] at hx
  · rw [hp] at hx
    obtain rfl : x = entry r c := by simpa using hx
    exact hnames r c (h.prepare_ok hp).1

/-- What was decoded from a name was extracted from it first. -/
theorem params_of_bind {ι π : Type} {extract : Except PyException ι}
    {decode : ι → Except PyException π} {params : π} (h : (extract >>= decode) = .ok params) :
    ∃ ids, extract = .ok ids ∧ decode ids = .ok params := by
  cases extract with
  | error e => cases h
  | ok ids => exact ⟨ids, rfl, h⟩

section methods
variable [CompatSdk] {σ : Type} (h : SRPCCompatHandler σ) (context : Context) (s : σ)

/-- Get acts on the config that was named, provided that names can be taken apart. -/
theorem getTaskPushNotificationConfig_acts {name : String}
    (hname : ∀ taskId configId, extractTaskAndConfigId name = .ok (taskId, configId) →
      taskPushConfigName taskId configId = name) :
    ∀ x ∈ ((h.logged.getTaskPushNotificationConfig ⟨name⟩ context).run (s, [])).2.2,
      Names x name := by
  intro x hx
  rw [SRPCCompatHandler.getTaskPushNotificationConfig, SRPCCompatHandler.run_reporting,
    Co.snd_run_bind fun _ _ => rfl] at hx
  refine names_of_mem_log h context s ?_ x hx
  intro r c hparams
  obtain ⟨⟨taskId, configId⟩, hextract, hids⟩ := params_of_bind hparams
  injection hids with hids
  rw [Names, ← hids]
  exact hname taskId configId hextract

/-- Delete acts on the config that was named, provided that names can be taken apart. -/
theorem deleteTaskPushNotificationConfig_acts {name : String}
    (hname : ∀ taskId configId, extractTaskAndConfigId name = .ok (taskId, configId) →
      taskPushConfigName taskId configId = name) :
    ∀ x ∈ ((h.logged.deleteTaskPushNotificationConfig ⟨name⟩ context).run (s, [])).2.2,
      Names x name := by
  intro x hx
  rw [SRPCCompatHandler.deleteTaskPushNotificationConfig, SRPCCompatHandler.run_reporting,
    Co.snd_run_bind fun _ _ => rfl] at hx
  refine names_of_mem_log h context s ?_ x hx
  intro r c hparams
  obtain ⟨⟨taskId, configId⟩, hextract, hids⟩ := params_of_bind hparams
  injection hids with hids
  rw [Names, ← hids]
  exact hname taskId configId hextract

/-- List acts on the task that was named, provided that names can be taken apart. -/
theorem listTaskPushNotificationConfig_acts {name : String}
    (hname : ∀ taskId, extractTaskId name = .ok taskId → taskName taskId = name) :
    ∀ x ∈ ((h.logged.listTaskPushNotificationConfig ⟨name⟩ context).run (s, [])).2.2,
      Names x name := by
  intro x hx
  rw [SRPCCompatHandler.listTaskPushNotificationConfig, SRPCCompatHandler.run_reporting,
    Co.snd_run_bind_still fun _ =>
      Co.still_bind (Co.still_ofExcept _) fun _ => Co.still_pure _] at hx
  refine names_of_mem_log h context s ?_ x hx
  intro r c hparams
  obtain ⟨taskId, hextract, hid⟩ := params_of_bind hparams
  injection hid with hid
  rw [Names, ← hid]
  exact hname taskId hextract

end methods

/-- A received task name is taken for itself: rebuilding gives it back, and List acts on it only. -/
structure TaskNameFaithful (name : String) : Prop where
  rebuilt : ∀ taskId, extractTaskId name = .ok taskId → taskName taskId = name
  list_acts : ∀ [CompatSdk] (σ : Type) (h : SRPCCompatHandler σ) (context : Context)
    (s : σ), ∀ call ∈ ((h.logged.listTaskPushNotificationConfig ⟨name⟩ context).run (s, [])).2.2,
      Names call name

/-- A received config name is taken for itself: rebuilding gives it back, and Get and Delete act on
it only. -/
structure ConfigNameFaithful (name : String) : Prop where
  rebuilt : ∀ taskId configId, extractTaskAndConfigId name = .ok (taskId, configId) →
    taskPushConfigName taskId configId = name
  get_acts : ∀ [CompatSdk] (σ : Type) (h : SRPCCompatHandler σ) (context : Context)
    (s : σ), ∀ call ∈ ((h.logged.getTaskPushNotificationConfig ⟨name⟩ context).run (s, [])).2.2,
      Names call name
  delete_acts : ∀ [CompatSdk] (σ : Type) (h : SRPCCompatHandler σ) (context : Context)
    (s : σ),
    ∀ call ∈ ((h.logged.deleteTaskPushNotificationConfig ⟨name⟩ context).run (s, [])).2.2,
      Names call name

/-- **Names denote what they name exactly if they do not go on after a well-formed name**, both for
the names that the client builds and for the names that the server receives. -/
theorem resourceNames_iff (taskId configId name : String) :
    (TaskIdSurvives taskId ↔ ¬ GoesOnAfterTask (segments (taskName taskId))) ∧
    (ConfigIdsSurvive taskId configId ↔
      ¬ GoesOnAfterConfig (segments (taskPushConfigName taskId configId))) ∧
    (TaskNameFaithful name ↔ ¬ GoesOnAfterTask (segments name)) ∧
    (ConfigNameFaithful name ↔ ¬ GoesOnAfterConfig (segments name)) := by
  refine ⟨taskIdSurvives_iff taskId, configIdsSurvive_iff taskId configId, ?_, ?_⟩
  · rw [← taskName_extractTaskId_iff]
    refine ⟨fun h => h.rebuilt, fun h => ⟨h, ?_⟩⟩
    intro _ σ handler context s
    exact listTaskPushNotificationConfig_acts handler context s h
  · rw [← taskPushConfigName_extractTaskAndConfigId_iff]
    refine ⟨fun h => h.rebuilt, fun h => ⟨h, ?_, ?_⟩⟩
    · intro _ σ handler context s
      exact getTaskPushNotificationConfig_acts handler context s h
    · intro _ σ handler context s
      exact deleteTaskPushNotificationConfig_acts handler context s h

/-- The name built for config `a/b` of task `t` is read as config `a` of that task. -/
theorem not_configIdsSurvive_slash : ¬ ConfigIdsSurvive "t" "a/b" := by
  have h : extractTaskAndConfigId (taskPushConfigName "t" "a/b") = .ok ("t", "a") := by decide
  rintro (hok | ⟨message, herror⟩)
  · rw [h] at hok
    exact absurd hok (by decide)
  · rw [h] at herror
    cases herror

end SlimA2a.Compat
