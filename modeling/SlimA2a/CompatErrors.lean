import SlimA2a.ResourceName
import SlimA2a.Servicers

/-! # Requests that version 0.3 refuses

What the caller of a version 0.3 method sees when a step of the call raises, and what the request
handler sees of it.

`FailsCleanly` is about one call: an A2A error of any step is reported with the code of its class
and nothing is returned in its place, and a call whose context cannot be built or whose request
cannot be decoded never reaches the request handler.  It holds of all nine methods that go to the
request handler (`failsCleanly`), for every request, context builder and request handler. -/

namespace SlimA2a

namespace Compat

/-- The resource name of the request does not match its pattern. -/
def CompatCall.Unmatched : CompatCall → Prop
  | getTaskPushNotificationConfig r => Pattern.match taskPushConfigNameMatch r.name = none
  | listTaskPushNotificationConfig r => Pattern.match taskNameMatch r.parent = none
  | deleteTaskPushNotificationConfig r => Pattern.match taskPushConfigNameMatch r.name = none
  | _ => False

/-- An unmatched name is an `InvalidParamsError` of the decoding. -/
theorem handlerCall_of_unmatched [A2aSdk] [CompatSdk] {call : CompatCall}
    (hcall : call.Unmatched) :
    ∃ message, call.handlerCall = some (.error (invalidParams message)) := by
  cases call with
  | getTaskPushNotificationConfig r =>
      have hmatch : Pattern.match taskPushConfigNameMatch r.name = none := hcall
      refine ⟨"Bad resource name " ++ r.name, ?_⟩
      simp only [CompatCall.handlerCall, extractTaskAndConfigId, hmatch]
      rfl
  | listTaskPushNotificationConfig r =>
      have hmatch : Pattern.match taskNameMatch r.parent = none := hcall
      refine ⟨"No task for " ++ r.parent, ?_⟩
      simp only [CompatCall.handlerCall, extractTaskId, hmatch]
      rfl
  | deleteTaskPushNotificationConfig r =>
      have hmatch : Pattern.match taskPushConfigNameMatch r.name = none := hcall
      refine ⟨"Bad resource name " ++ r.name, ?_⟩
      simp only [CompatCall.handlerCall, extractTaskAndConfigId, hmatch]
      rfl
  | _ => exact hcall.elim

/-- Only `getAgentCard` does not go to the request handler. -/
theorem exists_handlerCall [A2aSdk] [CompatSdk] {call : CompatCall}
    (hcall : ∀ r, call ≠ .getAgentCard r) : ∃ request, call.handlerCall = some request := by
  cases call with
  | getAgentCard r => exact absurd rfl (hcall r)
  | _ => exact ⟨_, rfl⟩

end Compat

open Compat

namespace Servicers
variable [A2aSdk] [CompatSdk] {σ : Type} (servicers : Servicers σ)

/-- The call ends with the RPC error of `e`: the code is the one of its class. -/
def Reports (context : Context) (s : σ) (call : CompatCall) (e : A2AError) : Prop :=
  ∃ r, (servicers.v03.serve context s call).result = .error (.rpc r) ∧
    r.code = (Compat.slimErrorCodeMap e.type).getD .unknown

/-- The request handler is not called, and the world is left as `s'`. -/
def Untouched (context : Context) (s : σ) (call : CompatCall) (s' : σ) : Prop :=
  (servicers.v03.serve context s call).state = s' ∧
    ∀ log, (servicers.logged.v03.serve context (s, log) call).state.2 = log

/-- What becomes of the errors of one call. -/
structure FailsCleanly (context : Context) (s : σ) (call : CompatCall) : Prop where
  /-- An A2A error of any step, at any position of a stream, reaches the caller. -/
  reported : ∀ e, (servicers.v03.attempt context s call).result = .error (.a2a e) →
    servicers.Reports context s call e
  /-- No A2A error leaves the method as it is. -/
  never_bare : ∀ e, (servicers.v03.serve context s call).result ≠ .error (.a2a e)
  /-- What is returned as a success is what the steps returned. -/
  no_default : ∀ response, (servicers.v03.serve context s call).result = .ok response →
    (servicers.v03.attempt context s call).result = .ok response
  /-- A context that is not built. -/
  context_refused : ∀ e s', (servicers.v03.contextBuilder context).run s = (.error (.a2a e), s') →
    servicers.Reports context s call e ∧ servicers.Untouched context s call s'
  /-- A request that is not decoded. -/
  request_refused : ∀ c s' e, (servicers.v03.contextBuilder context).run s = (.ok c, s') →
    call.handlerCall = some (.error (.a2a e)) →
      servicers.Reports context s call e ∧ servicers.Untouched context s call s'
  /-- A call of the request handler that fails, or whose events are converted up to one that cannot
  be. -/
  handler_refused : ∀ c s' x e, (servicers.v03.contextBuilder context).run s = (.ok c, s') →
    call.handlerCall = some (.ok x) →
      ((servicers.requestHandler.invokeThrough toProtoEvent (x c)).run s').1 = .error (.a2a e) →
        servicers.Reports context s call e
  /-- A resource name that does not match. -/
  name_refused : ∀ c s', (servicers.v03.contextBuilder context).run s = (.ok c, s') →
    call.Unmatched →
      (∃ r, (servicers.v03.serve context s call).result = .error (.rpc r) ∧
        r.code = .invalidArgument) ∧ servicers.Untouched context s call s'

variable {servicers} {context : Context} {s s' : σ} {call : CompatCall}
  {request : Except PyException (ServerCallContext → HandlerCall)}

/-- An A2A error that ends the steps of a call becomes its RPC error. -/
theorem v03_result_of_attempt (hcall : ∀ r, call ≠ .getAgentCard r) {e : A2AError}
    (he : (servicers.v03.attempt context s call).result = .error (.a2a e)) :
    (servicers.v03.serve context s call).result = .error (.rpc (Compat.slimRPCError e)) := by
  rw [SRPCCompatHandler.serve_eq_reported _ context s hcall]
  simp only [SRPCCompatHandler.reported, he]
  rfl

theorem reports_of_attempt (hcall : ∀ r, call ≠ .getAgentCard r) {e : A2AError}
    (he : (servicers.v03.attempt context s call).result = .error (.a2a e)) :
    servicers.Reports context s call e :=
  ⟨Compat.slimRPCError e, v03_result_of_attempt hcall he, rfl⟩

/-- A call that is not delivered ends as its delivery does, and the request handler is not
called. -/
theorem refused_of_delivery (hrequest : call.handlerCall = some request) {e : A2AError}
    (hdelivery : (servicers.v03.delivery context request).run s = (.error (.a2a e), s')) :
    servicers.Reports context s call e ∧ servicers.Untouched context s call s' := by
  have hcall := CompatCall.ne_getAgentCard hrequest
  have hdelivers : Delivers _ (servicers.v03.delivery context request) _ :=
    servicers.delivers_v03 hrequest
  have hending := hdelivers.undelivered hdelivery
  refine ⟨reports_of_attempt hcall (congrArg Prod.fst hending), ?_, fun log => ?_⟩
  · rw [SRPCCompatHandler.serve_eq_reported _ context s hcall]
    exact congrArg Prod.snd hending
  · rw [servicers.log_v03_serve s log context hrequest, hdelivery]
    exact List.append_nil log

/-- **Malformed and refused requests fail cleanly** on every method of version 0.3 that goes to the
request handler. -/
theorem failsCleanly (hcall : ∀ r, call ≠ .getAgentCard r) :
    servicers.FailsCleanly context s call := by
  obtain ⟨request, hrequest⟩ := exists_handlerCall hcall
  have hdelivers : Delivers _ (servicers.v03.delivery context request) _ :=
    servicers.delivers_v03 hrequest
  have hserve := SRPCCompatHandler.serve_eq_reported servicers.v03 context s hcall
  constructor
  · exact fun e he => reports_of_attempt hcall he
  · intro e
    rw [hserve]
    exact mapError_reportWith_ne Compat.slimRPCError _ e
  · intro response hok
    rw [hserve] at hok
    exact eq_ok_of_mapError hok
  · intro e s' hbuild
    refine refused_of_delivery hrequest ?_
    rw [SRPCCompatHandler.delivery, Co.run_bind_error hbuild]
  · intro c s' e hbuild herror
    obtain rfl : request = .error (.a2a e) := Option.some.inj (hrequest.symm.trans herror)
    exact refused_of_delivery hrequest (SRPCCompatHandler.delivery_run hbuild _)
  · intro c s' x e hbuild hok he
    obtain rfl : request = .ok x := Option.some.inj (hrequest.symm.trans hok)
    exact reports_of_attempt hcall
      (hdelivers.error (SRPCCompatHandler.delivery_run hbuild _) he)
  · intro c s' hbuild hunmatched
    obtain ⟨message, herror⟩ := handlerCall_of_unmatched hunmatched
    obtain rfl : request = .error (invalidParams message) :=
      Option.some.inj (hrequest.symm.trans herror)
    exact refused_of_delivery hrequest (SRPCCompatHandler.delivery_run hbuild _)

end Servicers

/-- Both servers over a request handler that refuses every call with `e`. -/
def refusingServicers (agentCard : AgentCard) (e : A2AError) : Servicers Unit where
  agentCard := agentCard
  requestHandler := .refusing (.a2a e)
  contextBuilder := none
  cardModifier := none
  compatContextBuilder := none
  compatCardModifier := none

/-- A config is asked for by the name of a task. -/
theorem failsCleanly_taskName :
    @Servicers.FailsCleanly standardSdk standardCompatSdk Unit
      (refusingServicers default ⟨.internalError, "unavailable"⟩) ⟨some "alice", none, ∅⟩ ()
      (.getTaskPushNotificationConfig ⟨"tasks/t"⟩) :=
  @Servicers.failsCleanly standardSdk standardCompatSdk Unit _ _ () _ fun _ h => nomatch h

end SlimA2a
