import SlimA2a.CompatErrors

/-! # One failure, two servers

The same request handler is reached through both servers, and each of them has a table of error
codes of its own.  `SameCode` compares what a caller of version 1 and a caller of version 0.3 get
when the request handler fails with the same error.

The two tables agree except for three classes of errors, which are mapped by version 1 only
(`onlyVersion1`).  The callers get the same code exactly when the error is of another class
(`sameCode_iff`). -/

namespace SlimA2a

/-! ### The tables -/

/-- The classes of errors that are in the table of version 1 and not in that of version 0.3. -/
def onlyVersion1 : List A2AErrorType :=
  [.extendedAgentCardNotConfiguredError, .extensionSupportRequiredError,
    .versionNotSupportedError]

theorem slimErrorCodeMap_eq_iff (type : A2AErrorType) :
    slimErrorCodeMap type = Compat.slimErrorCodeMap type ↔ type ∉ onlyVersion1 := by
  cases type <;> simp [slimErrorCodeMap, Compat.slimErrorCodeMap, onlyVersion1]

/-- No table maps a class to `UNKNOWN`. -/
theorem slimErrorCodeMap_ne_unknown (type : A2AErrorType) :
    slimErrorCodeMap type ≠ some .unknown ∧ Compat.slimErrorCodeMap type ≠ some .unknown := by
  cases type <;> simp [slimErrorCodeMap, Compat.slimErrorCodeMap]

theorem getD_unknown_eq_unknown {code : Option RpcCode} (hcode : code ≠ some .unknown)
    (h : code.getD .unknown = .unknown) : code = none := by
  cases code with
  | none => rfl
  | some c => exact absurd (congrArg some h) hcode

/-- The code of an error decides whether it is in the table, so equal codes are equal entries. -/
theorem getD_unknown_inj {code code' : Option RpcCode} (hcode : code ≠ some .unknown)
    (hcode' : code' ≠ some .unknown) (h : code.getD .unknown = code'.getD .unknown) :
    code = code' := by
  cases code with
  | none => exact (getD_unknown_eq_unknown hcode' h.symm).symm
  | some c =>
      cases code' with
      | none => exact absurd (congrArg some h) hcode
      | some c' => exact congrArg some h

/-! ### The RPCs of both servers -/

/-- An RPC that both servers offer, with a request for each. -/
inductive Shared : Call → Compat.CompatCall → Prop
  | sendMessage (r r') : Shared (.sendMessage r) (.sendMessage r')
  | sendStreamingMessage (r r') : Shared (.sendStreamingMessage r) (.sendStreamingMessage r')
  | getTask (r r') : Shared (.getTask r) (.getTask r')
  | cancelTask (r r') : Shared (.cancelTask r) (.cancelTask r')
  | subscribeToTask (r r') : Shared (.subscribeToTask r) (.taskSubscription r')
  | createTaskPushNotificationConfig (r r') :
      Shared (.createTaskPushNotificationConfig r) (.createTaskPushNotificationConfig r')
  | getTaskPushNotificationConfig (r r') :
      Shared (.getTaskPushNotificationConfig r) (.getTaskPushNotificationConfig r')
  | listTaskPushNotificationConfigs (r r') :
      Shared (.listTaskPushNotificationConfigs r) (.listTaskPushNotificationConfig r')
  | deleteTaskPushNotificationConfig (r r') :
      Shared (.deleteTaskPushNotificationConfig r) (.deleteTaskPushNotificationConfig r')

theorem Shared.ne_getExtendedAgentCard {call : Call} {compatCall : Compat.CompatCall}
    (hshared : Shared call compatCall) : ∀ r, call ≠ .getExtendedAgentCard r := by
  rintro r rfl
  cases hshared

/-- What a delivered call does is inside of a `try`. -/
theorem SRPCHandler.covered_of_delivery [A2aSdk] {σ : Type} {h : SRPCHandler σ}
    {context : Context} {s s' : σ} {call : Call} {x : HandlerCall}
    (hcall : ∀ r, call ≠ .getExtendedAgentCard r)
    (hdelivery : (h.delivery context call).run s = (.ok x, s')) : h.Covered context s call := by
  obtain ⟨hguard, c, hbuild, -⟩ := delivery_ok hdelivery
  cases call with
  | sendStreamingMessage r =>
      refine ⟨guarded_ok hguard, fun e s'' herror => ?_⟩
      rw [hbuild] at herror
      cases herror
  | subscribeToTask r => exact guarded_ok hguard
  | createTaskPushNotificationConfig r => exact guarded_ok hguard
  | getExtendedAgentCard r => exact absurd rfl (hcall r)
  | _ => exact trivial

namespace Servicers
variable [A2aSdk] [CompatSdk] {σ : Type} (servicers : Servicers σ)

/-- The RPC reaches the request handler, whose run on it ends with `e`. -/
def HandlerFails (context : Context) (s : σ) (rpc : Rpc) (e : A2AError) : Prop :=
  ∃ delivery x s', servicers.delivery context rpc = some delivery ∧
    delivery.run s = (.ok x, s') ∧ ((servicers.requestHandler.invoke x).run s').1 = .error (.a2a e)

/-- If the RPC reaches the request handler, the events that it yields there can all be converted. -/
def EventsConvert (context : Context) (s : σ) (rpc : Rpc) : Prop :=
  ∀ delivery x s', servicers.delivery context rpc = some delivery → delivery.run s = (.ok x, s') →
    servicers.requestHandler.Converts s' x

/-- Both callers get an RPC error, with one code; it is `UNKNOWN` only if no table has the class. -/
def SameCode (context : Context) (s : σ) (call : Call) (context' : Context) (s' : σ)
    (compatCall : Compat.CompatCall) (e : A2AError) : Prop :=
  ∃ r r', (servicers.v1.serve context s call).result = .error (.rpc r) ∧
    (servicers.v03.serve context' s' compatCall).result = .error (.rpc r') ∧ r.code = r'.code ∧
    (r.code = .unknown →
      slimErrorCodeMap e.type = none ∧ Compat.slimErrorCodeMap e.type = none)

variable {servicers} {context context' : Context} {s s' : σ} {call : Call}
  {compatCall : Compat.CompatCall} {e : A2AError}

/-- Version 1 reports the error with the code of its own table. -/
theorem v1_reports (hcall : ∀ r, call ≠ .getExtendedAgentCard r)
    (hfails : servicers.HandlerFails context s (.v1 call) e) :
    (servicers.v1.serve context s call).result = .error (.rpc (slimRPCError e)) := by
  obtain ⟨delivery, x, s₁, hrpc, hdelivery, herror⟩ := hfails
  cases hrpc
  have hattempt : (servicers.v1.attempt context s call).result = .error (.a2a e) :=
    (SRPCHandler.delivers_attempt (h := servicers.v1) context hcall).error hdelivery herror
  rw [servicers.v1.serve_eq_reported (SRPCHandler.covered_of_delivery hcall hdelivery)]
  simp only [Outcome.reported, hattempt]
  rfl

/-- Version 0.3 reports the error with the code of its own table. -/
theorem v03_reports (hfails : servicers.HandlerFails context s (.v03 compatCall) e)
    (hconvert : servicers.EventsConvert context s (.v03 compatCall)) :
    (servicers.v03.serve context s compatCall).result =
      .error (.rpc (Compat.slimRPCError e)) := by
  obtain ⟨delivery, x, s₁, hrpc, hdelivery, herror⟩ := hfails
  have hinvoke := (hconvert delivery x s₁ hrpc hdelivery).run_invokeThrough
  obtain ⟨request, hrequest, rfl⟩ := Option.map_eq_some_iff.mp hrpc
  have hcall := Compat.CompatCall.ne_getAgentCard hrequest
  exact v03_result_of_attempt hcall ((servicers.delivers_v03 hrequest).error hdelivery
    ((congrArg Prod.fst hinvoke).trans herror))

/-- **The callers get the same code exactly when the class of the error is in both tables or in
none.** -/
theorem sameCode_iff (hshared : Shared call compatCall)
    (hfails : servicers.HandlerFails context s (.v1 call) e)
    (hcompat : servicers.HandlerFails context' s' (.v03 compatCall) e)
    (hconvert : servicers.EventsConvert context' s' (.v03 compatCall)) :
    servicers.SameCode context s call context' s' compatCall e ↔ e.type ∉ onlyVersion1 := by
  have hv1 := v1_reports hshared.ne_getExtendedAgentCard hfails
  have hv03 := v03_reports hcompat hconvert
  obtain ⟨hne, hne'⟩ := slimErrorCodeMap_ne_unknown e.type
  rw [← slimErrorCodeMap_eq_iff]
  constructor
  · rintro ⟨r, r', hr, hr', hcode, -⟩
    rw [hv1] at hr
    rw [hv03] at hr'
    cases hr
    cases hr'
    exact getD_unknown_inj hne hne' hcode
  · intro heq
    refine ⟨_, _, hv1, hv03, congrArg (·.getD .unknown) heq, fun hunknown => ?_⟩
    have hnone := getD_unknown_eq_unknown hne hunknown
    exact ⟨hnone, heq ▸ hnone⟩

end Servicers

/-- A card with every capability. -/
def capableCard : AgentCard := { (default : AgentCard) with capabilities := ⟨true, true, true⟩ }

/-- Both servers reach a request handler that refuses `GetTask`. -/
theorem handlerFails_getTask (e : A2AError) :
    @Servicers.HandlerFails standardSdk Compat.standardCompatSdk Unit
        (refusingServicers capableCard e) ⟨some "alice", none, ∅⟩ ()
        (.v1 (.getTask ⟨"", "t", none⟩)) e ∧
      @Servicers.HandlerFails standardSdk Compat.standardCompatSdk Unit
        (refusingServicers capableCard e) ⟨some "alice", none, ∅⟩ ()
        (.v03 (.getTask ⟨"tasks/t", 0⟩)) e :=
  ⟨⟨_, _, _, rfl, rfl, rfl⟩, ⟨_, _, _, rfl, rfl, rfl⟩⟩

/-- `GetTask` has no events. -/
theorem eventsConvert_getTask (e : A2AError) :
    @Servicers.EventsConvert standardSdk Compat.standardCompatSdk Unit
      (refusingServicers capableCard e) ⟨some "alice", none, ∅⟩ ()
      (.v03 (.getTask ⟨"tasks/t", 0⟩)) := by
  intro delivery x s' hrpc hdelivery
  cases hrpc
  cases hdelivery
  exact fun event hevent => absurd hevent List.not_mem_nil

/-- An error class that only version 1 has: the handler fails on both servers, and the callers get
different codes. -/
theorem not_sameCode_versionNotSupported :
    Shared (.getTask ⟨"", "t", none⟩) (.getTask ⟨"tasks/t", 0⟩) ∧
      @Servicers.HandlerFails standardSdk Compat.standardCompatSdk Unit
        (refusingServicers capableCard ⟨.versionNotSupportedError, "version 2.0"⟩)
        ⟨some "alice", none, ∅⟩ () (.v1 (.getTask ⟨"", "t", none⟩))
        ⟨.versionNotSupportedError, "version 2.0"⟩ ∧
      @Servicers.HandlerFails standardSdk Compat.standardCompatSdk Unit
        (refusingServicers capableCard ⟨.versionNotSupportedError, "version 2.0"⟩)
        ⟨some "alice", none, ∅⟩ () (.v03 (.getTask ⟨"tasks/t", 0⟩))
        ⟨.versionNotSupportedError, "version 2.0"⟩ ∧
      ¬ @Servicers.SameCode standardSdk Compat.standardCompatSdk Unit
        (refusingServicers capableCard ⟨.versionNotSupportedError, "version 2.0"⟩)
        ⟨some "alice", none, ∅⟩ () (.getTask ⟨"", "t", none⟩)
        ⟨some "alice", none, ∅⟩ () (.getTask ⟨"tasks/t", 0⟩)
        ⟨.versionNotSupportedError, "version 2.0"⟩ := by
  obtain ⟨hfails, hcompat⟩ := handlerFails_getTask ⟨.versionNotSupportedError, "version 2.0"⟩
  refine ⟨.getTask _ _, hfails, hcompat, ?_⟩
  rintro ⟨r, r', hr, hr', hcode, -⟩
  cases hr
  cases hr'
  cases hcode

theorem sameCode_taskNotFound :
    @Servicers.SameCode standardSdk Compat.standardCompatSdk Unit
        (refusingServicers capableCard ⟨.taskNotFoundError, "no such task"⟩)
        ⟨some "alice", none, ∅⟩ () (.getTask ⟨"", "t", none⟩)
        ⟨some "alice", none, ∅⟩ () (.getTask ⟨"tasks/t", 0⟩)
        ⟨.taskNotFoundError, "no such task"⟩ ↔
      A2AErrorType.taskNotFoundError ∉ onlyVersion1 := by
  obtain ⟨hfails, hcompat⟩ := handlerFails_getTask ⟨.taskNotFoundError, "no such task"⟩
  exact @Servicers.sameCode_iff standardSdk Compat.standardCompatSdk Unit _ _ _ _ _ _ _ _
    (.getTask _ _) hfails hcompat (eventsConvert_getTask _)

end SlimA2a
