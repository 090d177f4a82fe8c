import SlimA2a.CallContext

/-! # Both servers over one request handler

An agent registers `SRPCHandler` and `SRPCCompatHandler` on one server, over one request handler.

Each RPC is served in two parts.  `delivery` is what happens before the request handler is reached:
the guard, building the call context, decoding the request.  It returns the call that the request
handler is about to receive.  `Delivers` says that a method does nothing but the delivery, that one
call, and steps that leave the world alone; one lemma for each server states it of every method
(`delivers_attempt`), and everything about which calls are received, in which worlds, and how the
method ends when the call fails follows from it. -/

namespace SlimA2a

/-! ### Calling a request handler -/

/-- Call the method of a request handler and drop the answer; a stream is drained. -/
def RequestHandler.invoke {σ : Type} (h : RequestHandler σ) : HandlerCall → Co σ PyException Unit
  | .onMessageSend r c => (h.onMessageSend r c).void
  | .onMessageSendStream r c => (h.onMessageSendStream r c).drain
  | .onCancelTask r c => (h.onCancelTask r c).void
  | .onSubscribeToTask r c => (h.onSubscribeToTask r c).drain
  | .onGetTask r c => (h.onGetTask r c).void
  | .onListTasks r c => (h.onListTasks r c).void
  | .onGetTaskPushNotificationConfig r c => (h.onGetTaskPushNotificationConfig r c).void
  | .onCreateTaskPushNotificationConfig r c => (h.onCreateTaskPushNotificationConfig r c).void
  | .onListTaskPushNotificationConfigs r c => (h.onListTaskPushNotificationConfigs r c).void
  | .onDeleteTaskPushNotificationConfig r c => (h.onDeleteTaskPushNotificationConfig r c).void
  | .onGetExtendedAgentCard r c => (h.onGetExtendedAgentCard r c).void

/-- The same, with each event of a stream converted; the stream ends where this raises. -/
def RequestHandler.invokeThrough {σ β : Type} (h : RequestHandler σ)
    (convert : Event → Except PyException β) : HandlerCall → Co σ PyException Unit
  | .onMessageSendStream r c => ((h.onMessageSendStream r c).mapExcept convert).drain
  | .onSubscribeToTask r c => ((h.onSubscribeToTask r c).mapExcept convert).drain
  | x => h.invoke x

/-- The events that a call yields. -/
def RequestHandler.events {σ : Type} (h : RequestHandler σ) (s : σ) : HandlerCall → List Event
  | .onMessageSendStream r c => ((h.onMessageSendStream r c).run s).items
  | .onSubscribeToTask r c => ((h.onSubscribeToTask r c).run s).items
  | _ => []

/-- Every event that a call yields has a v0.3 form. -/
def RequestHandler.Converts [Conversions03] {σ : Type} (h : RequestHandler σ) (s : σ)
    (x : HandlerCall) : Prop :=
  ∀ event ∈ h.events s x, ∃ response, toProtoEvent event = .ok response

/-- Converting the events makes no difference when they all can be. -/
theorem RequestHandler.Converts.run_invokeThrough [Conversions03] {σ : Type} {h : RequestHandler σ}
    {s : σ} {x : HandlerCall} (hconverts : h.Converts s x) :
    (h.invokeThrough toProtoEvent x).run s = (h.invoke x).run s := by
  cases x with
  | onMessageSendStream r c => exact AsyncGen.run_drain_mapExcept hconverts
  | onSubscribeToTask r c => exact AsyncGen.run_drain_mapExcept hconverts
  | _ => rfl

theorem AsyncGen.run_drain_logged {σ α ℓ : Type} (g : AsyncGen σ PyException α) (x : ℓ) (s : σ)
    (log : List ℓ) :
    (g.logged x).drain.run (s, log) = ((g.drain.run s).1, (g.drain.run s).2, log ++ [x]) := by
  show (((g.logged x).run (s, log)).result, ((g.logged x).run (s, log)).state) = _
  rw [AsyncGen.run_logged]
  rfl

/-- `invoke'` is `invoke` beside a log that records the call. -/
def Records {σ : Type} (invoke : HandlerCall → Co σ PyException Unit)
    (invoke' : HandlerCall → Co (σ × List HandlerCall) PyException Unit) : Prop :=
  ∀ x s log, (invoke' x).run (s, log) =
    (((invoke x).run s).1, ((invoke x).run s).2, log ++ [x])

theorem RequestHandler.records_invoke {σ : Type} (h : RequestHandler σ) :
    Records h.invoke h.logged.invoke := by
  intro x s log
  cases x with
  | onMessageSendStream r c => exact AsyncGen.run_drain_logged _ _ s log
  | onSubscribeToTask r c => exact AsyncGen.run_drain_logged _ _ s log
  | _ => rfl

theorem RequestHandler.records_invokeThrough {σ β : Type} (h : RequestHandler σ)
    (convert : Event → Except PyException β) :
    Records (h.invokeThrough convert) (h.logged.invokeThrough convert) := by
  have hgen (g : AsyncGen σ PyException Event) (x : HandlerCall) (s : σ) (log : List HandlerCall) :
      ((g.logged x).mapExcept convert).drain.run (s, log) =
        (((g.mapExcept convert).drain.run s).1, ((g.mapExcept convert).drain.run s).2,
          log ++ [x]) := by
    rw [AsyncGen.mapExcept_logged]
    exact AsyncGen.run_drain_logged _ x s log
  intro x s log
  cases x with
  | onMessageSendStream r c => exact hgen _ _ s log
  | onSubscribeToTask r c => exact hgen _ _ s log
  | _ => rfl

/-! ### Delivering a call -/

/-- `m` delivers a call to the request handler by the steps `delivery`, and adds nothing to what
`invoke` does to the world. -/
structure Delivers {σ α : Type} (invoke : HandlerCall → Co σ PyException Unit)
    (delivery : Co σ PyException HandlerCall) (m : Co σ PyException α) : Prop where
  undelivered : ∀ {s s' e}, delivery.run s = (.error e, s') → m.run s = (.error e, s')
  state_eq : ∀ {s s' x}, delivery.run s = (.ok x, s') → (m.run s).2 = ((invoke x).run s').2
  error : ∀ {s s' x e}, delivery.run s = (.ok x, s') → ((invoke x).run s').1 = .error e →
    (m.run s).1 = .error e

section delivers
variable {σ α β : Type} {invoke : HandlerCall → Co σ PyException Unit}
  {delivery : Co σ PyException HandlerCall}

/-- It is enough that after the delivery `m` runs as a method of the request handler. -/
theorem delivers_of_run {m : Co σ PyException α}
    (hundelivered : ∀ {s s' e}, delivery.run s = (.error e, s') → m.run s = (.error e, s'))
    (hdelivered : ∀ {s s' x}, delivery.run s = (.ok x, s') →
      ∃ call : Co σ PyException α, invoke x = call.void ∧ m.run s = call.run s') :
    Delivers invoke delivery m := by
  refine ⟨hundelivered, fun hd => ?_, fun hd he => ?_⟩
  · obtain ⟨call, hinvoke, hrun⟩ := hdelivered hd
    rw [hrun, hinvoke]
    rfl
  · obtain ⟨call, hinvoke, hrun⟩ := hdelivered hd
    rw [hinvoke] at he
    rw [hrun]
    exact Co.fst_run_void_error he

/-- A method that awaits what it needs and then calls the handler with it. -/
theorem delivers_bind {c : Co σ PyException α} {entry : α → HandlerCall}
    {f : α → Co σ PyException β} (hentry : ∀ a, invoke (entry a) = (f a).void) :
    Delivers invoke (do return entry (← c)) (c >>= f) := by
  refine delivers_of_run (fun {s s' e} hd => ?_) (fun {s s' x} hd => ?_)
  · rw [Co.run_bind] at hd ⊢
    rcases hc : c.run s with ⟨e' | a, s''⟩
    · rw [hc] at hd
      cases hd
      rfl
    · rw [hc] at hd
      cases hd
  · rw [Co.run_bind] at hd
    rcases hc : c.run s with ⟨e' | a, s''⟩
    · rw [hc] at hd
      cases hd
    · rw [hc] at hd
      cases hd
      exact ⟨f a, hentry a, Co.run_bind_ok hc f⟩

/-- What follows the call may convert its answer or raise. -/
theorem Delivers.bind {m : Co σ PyException α} (hm : Delivers invoke delivery m)
    {f : α → Co σ PyException β} (hf : ∀ a, Co.Still (f a)) :
    Delivers invoke delivery (m >>= f) := by
  refine ⟨fun hd => ?_, fun hd => ?_, fun hd he => ?_⟩
  · exact Co.run_bind_error (hm.undelivered hd) f
  · rw [Co.snd_run_bind_still hf]
    exact hm.state_eq hd
  · have hrun := hm.error hd he
    rw [Co.run_bind]
    rcases hms : m.run _ with ⟨e' | a, s''⟩
    · rw [hms] at hrun
      cases hrun
      rfl
    · rw [hms] at hrun
      cases hrun

/-- The same for an answer that is only converted. -/
theorem Delivers.map {m : Co σ PyException α} (hm : Delivers invoke delivery m) (f : α → β) :
    Delivers invoke delivery (do return f (← m)) :=
  hm.bind fun _ => Co.still_pure _

/-- The same for a method that streams what the handler yields. -/
theorem delivers_drain {c : Co σ PyException α} {entry : α → HandlerCall}
    {g : α → AsyncGen σ PyException β} (hentry : ∀ a, invoke (entry a) = (g a).drain) :
    Delivers invoke (do return entry (← c)) (c >>= fun a => (g a).drain) :=
  delivers_bind fun a => by rw [hentry, AsyncGen.void_drain]

/-- How a call ended, and the world it left. -/
def Outcome.ending {ι ρ : Type} (o : Outcome ι ρ σ) : Except PyException ρ × σ :=
  (o.result, o.state)

theorem Delivers.ofUnary {ι ρ : Type} {m : Co σ PyException α} (hm : Delivers invoke delivery m)
    (wrap : α → ρ) :
    Delivers invoke delivery fun s => (Outcome.ofUnary wrap (m.run s) : Outcome ι ρ σ).ending := by
  have heq : (fun s => (Outcome.ofUnary wrap (m.run s) : Outcome ι ρ σ).ending) =
      (do return wrap (← m) : Co σ PyException ρ) := by
    funext s
    show _ = (m >>= fun a => pure (wrap a)).run s
    rw [Co.run_bind]
    rcases hms : m.run s with ⟨_ | _, _⟩ <;> rfl
  rw [heq]
  exact hm.map wrap

theorem Delivers.ofStream {ι ρ : Type} {g : AsyncGen σ PyException ι}
    (hg : Delivers invoke delivery g.drain) (ended : ρ) :
    Delivers invoke delivery fun s => (Outcome.ofStream ended (g.run s)).ending := by
  have hunary : Delivers invoke delivery fun s =>
      (Outcome.ofUnary (fun _ => ended) (g.drain.run s) : Outcome ι ρ σ).ending :=
    hg.ofUnary fun _ => ended
  exact hunary

/-- The call that a delivery hands over, if it does not fail. -/
def received (delivery : Except PyException HandlerCall × σ) : List HandlerCall :=
  match delivery.1 with
  | .ok x => [x]
  | .error _ => []

theorem mem_received {s : σ} {x : HandlerCall} :
    x ∈ received (delivery.run s) ↔ ∃ s', delivery.run s = (.ok x, s') := by
  rcases delivery.run s with ⟨e | y, s'⟩
  · simp [received]
  · simp [received, eq_comm]

/-- Beside a log, the call that is delivered is the one that the log gains. -/
theorem Delivers.log {invoke' : HandlerCall → Co (σ × List HandlerCall) PyException Unit}
    {delivery' : Co (σ × List HandlerCall) PyException HandlerCall}
    {m : Co (σ × List HandlerCall) PyException α} (hm : Delivers invoke' delivery' m)
    (hrecords : Records invoke invoke') (hdelivery : delivery' = delivery.onFst) (s : σ)
    (log : List HandlerCall) :
    (m.run (s, log)).2.2 = log ++ received (delivery.run s) := by
  subst hdelivery
  rcases hd : delivery.run s with ⟨e | x, s'⟩
  · have hrun : delivery.onFst.run (s, log) = (.error e, s', log) := by rw [Co.run_onFst, hd]
    rw [hm.undelivered hrun]
    exact (List.append_nil log).symm
  · have hrun : delivery.onFst.run (s, log) = (.ok x, s', log) := by rw [Co.run_onFst, hd]
    rw [hm.state_eq hrun, hrecords]
    rfl

end delivers

/-! ### Version 1 -/

/-- The call that a request makes of the request handler. -/
def Call.handlerCall (context : ServerCallContext) : Call → HandlerCall
  | sendMessage r => .onMessageSend r context
  | sendStreamingMessage r => .onMessageSendStream r context
  | cancelTask r => .onCancelTask r context
  | subscribeToTask r => .onSubscribeToTask r context
  | getTask r => .onGetTask r context
  | listTasks r => .onListTasks r context
  | getTaskPushNotificationConfig r => .onGetTaskPushNotificationConfig r context
  | createTaskPushNotificationConfig r => .onCreateTaskPushNotificationConfig r context
  | listTaskPushNotificationConfigs r => .onListTaskPushNotificationConfigs r context
  | deleteTaskPushNotificationConfig r => .onDeleteTaskPushNotificationConfig r context
  | getExtendedAgentCard r => .onGetExtendedAgentCard r context

/-- What the guard of a method raises when it is false. -/
def guarded (guard : Bool) (errorMessage : String) : Except PyException Unit :=
  if guard then .ok () else .error (.a2a ⟨.unsupportedOperationError, errorMessage⟩)

theorem guarded_ok {guard : Bool} {errorMessage : String}
    (hguard : guarded guard errorMessage = .ok ()) : guard = true := by
  cases guard with
  | true => rfl
  | false => cases hguard

/-- The guard of each method; most have none. -/
def Call.guard (card : AgentCard) : Call → Except PyException Unit
  | sendStreamingMessage _ =>
      guarded card.capabilities.streaming SRPCHandler.streamingNotSupported
  | subscribeToTask _ => guarded card.capabilities.streaming SRPCHandler.streamingNotSupported
  | createTaskPushNotificationConfig _ =>
      guarded card.capabilities.pushNotifications SRPCHandler.pushNotificationsNotSupported
  | _ => .ok ()

namespace SRPCHandler
variable {σ : Type} (h : SRPCHandler σ)

/-- What happens before the request handler is reached, up to the call that it receives. -/
def delivery (context : Context) (call : Call) : Co σ PyException HandlerCall := do
  Co.ofExcept (call.guard h.agentCard)
  let serverContext ← h.contextBuilder context
  return call.handlerCall (serverContext.withTenant call.tenant)

variable {h}

/-- A call that is delivered has passed its guard, and carries a context that was built. -/
theorem delivery_ok {context : Context} {call : Call} {s s' : σ} {x : HandlerCall}
    (hdelivery : (h.delivery context call).run s = (.ok x, s')) :
    call.guard h.agentCard = .ok () ∧ ∃ c, (h.contextBuilder context).run s = (.ok c, s') ∧
      x = call.handlerCall (c.withTenant call.tenant) := by
  rw [delivery, Co.run_bind, Co.run_ofExcept] at hdelivery
  cases hguard : call.guard h.agentCard with
  | error e =>
      rw [hguard] at hdelivery
      cases hdelivery
  | ok u =>
      rw [hguard] at hdelivery
      simp only [Co.run_bind] at hdelivery
      rcases hbuild : (h.contextBuilder context).run s with ⟨_ | c, s''⟩
      · rw [hbuild] at hdelivery
        cases hdelivery
      · rw [hbuild] at hdelivery
        cases hdelivery
        exact ⟨rfl, c, rfl, rfl⟩

/-- A guard in front of a method. -/
theorem delivers_validate [A2aSdk] {α : Type} {guard : Bool} {errorMessage : String}
    {d : Co σ PyException HandlerCall} {m : Co σ PyException α}
    (hm : Delivers h.requestHandler.invoke d m) :
    Delivers h.requestHandler.invoke (do Co.ofExcept (guarded guard errorMessage); d)
      (A2aSdk.validate guard errorMessage m) := by
  cases guard with
  | true => exact (A2aSdk.validate_true errorMessage m).symm ▸ hm
  | false =>
      rw [A2aSdk.validate_false]
      refine delivers_of_run (fun hd => ?_) (fun hd => ?_)
      · cases hd
        rfl
      · cases hd

theorem bind_buildCallContext {ρ α : Type} [HasTenant ρ] (context : Context) (request : ρ)
    (k : ServerCallContext → Co σ PyException α) :
    (h.buildCallContext context request >>= k) =
      h.contextBuilder context >>= fun c => k (c.withTenant (HasTenant.tenant request)) :=
  Co.bind_assoc (h.contextBuilder context)
    (fun c => pure (c.withTenant (HasTenant.tenant request))) k

theorem delivers_withContext {ρ α : Type} [HasTenant ρ] {context : Context} {request : ρ}
    {f : ρ → ServerCallContext → Co σ PyException α} {entry : ServerCallContext → HandlerCall}
    (hentry : ∀ c, h.requestHandler.invoke (entry c) = (f request c).void) :
    Delivers h.requestHandler.invoke
      (do return entry ((← h.contextBuilder context).withTenant (HasTenant.tenant request)))
      (h.withContext context request f) := by
  rw [← bind_buildCallContext context request fun c => pure (entry c)]
  exact delivers_bind hentry

theorem delivers_validateGen [A2aSdk] {ρ : Type} [HasTenant ρ] {context : Context} {request : ρ}
    {guard : Bool} {errorMessage : String}
    {f : ρ → ServerCallContext → AsyncGen σ PyException Event}
    {entry : ServerCallContext → HandlerCall}
    (hentry : ∀ c, h.requestHandler.invoke (entry c) = (f request c).drain) :
    Delivers h.requestHandler.invoke
      (do
        Co.ofExcept (guarded guard errorMessage)
        return entry ((← h.contextBuilder context).withTenant (HasTenant.tenant request)))
      (A2aSdk.validateGen guard errorMessage <|
        AsyncGen.awaitThen (h.buildCallContext context request) fun serverContext =>
          (f request serverContext).map A2aSdk.toStreamResponse).drain := by
  have hm : Delivers h.requestHandler.invoke
      (do return entry ((← h.contextBuilder context).withTenant (HasTenant.tenant request)))
      (AsyncGen.awaitThen (h.buildCallContext context request) fun serverContext =>
        (f request serverContext).map A2aSdk.toStreamResponse).drain := by
    rw [← bind_buildCallContext context request fun c => pure (entry c),
      AsyncGen.drain_awaitThen]
    simp only [AsyncGen.drain_map]
    exact delivers_drain hentry
  cases guard with
  | true =>
      rw [A2aSdk.validateGen_true]
      exact hm
  | false =>
      rw [A2aSdk.validateGen_false]
      refine delivers_of_run (fun hd => ?_) (fun hd => ?_)
      · cases hd
        rfl
      · cases hd

theorem still_foundTask [A2aSdk] (task : Option Task) :
    Co.Still (foundTask task : Co σ PyException Task) := by
  cases task with
  | some task => exact Co.still_pure task
  | none => exact fun _ => rfl

/-- Every method of version 1 delivers its call; the one with a card modifier is left out, since the
modifier runs after the request handler. -/
theorem delivers_attempt [A2aSdk] (context : Context) {call : Call}
    (hcall : ∀ r, call ≠ .getExtendedAgentCard r) :
    Delivers h.requestHandler.invoke (h.delivery context call) fun s =>
      (h.attempt context s call).ending := by
  cases call with
  | sendMessage r =>
      refine ((delivers_withContext fun c => rfl).bind fun a => ?_).ofUnary _
      cases a <;> exact Co.still_pure _
  | sendStreamingMessage r => exact (delivers_validateGen fun c => rfl).ofStream _
  | cancelTask r =>
      exact ((delivers_withContext fun c => rfl).bind still_foundTask).ofUnary _
  | subscribeToTask r => exact (delivers_validateGen fun c => rfl).ofStream _
  | getTask r =>
      exact ((delivers_withContext fun c => rfl).bind still_foundTask).ofUnary _
  | listTasks r => exact (delivers_withContext fun c => rfl).ofUnary _
  | getTaskPushNotificationConfig r => exact (delivers_withContext fun c => rfl).ofUnary _
  | createTaskPushNotificationConfig r =>
      exact (delivers_validate (delivers_withContext fun c => rfl)).ofUnary _
  | listTaskPushNotificationConfigs r => exact (delivers_withContext fun c => rfl).ofUnary _
  | deleteTaskPushNotificationConfig r => exact (delivers_withContext fun c => rfl).ofUnary _
  | getExtendedAgentCard r => exact absurd rfl (hcall r)

theorem state_reporting [A2aSdk] {α : Type} (dflt : α) (m : Co σ PyException α) (s : σ) :
    ((reporting dflt m).run s).2 = (m.run s).2 := by
  rw [run_reporting]

theorem state_reportingGen [A2aSdk] (g : AsyncGen σ PyException StreamResponse) (s : σ) :
    ((reportingGen g).run s).state = (g.run s).state := by
  rw [run_reportingGen]

/-- Reporting an error changes the answer only. -/
theorem state_serve [A2aSdk] (context : Context) (s : σ) (call : Call) :
    (h.serve context s call).state = (h.attempt context s call).state := by
  have htask (m : Co σ PyException (Option Task)) : ((reporting default
      (m >>= taskOrNotFound)).run s).2 = ((m >>= foundTask).run s).2 := by
    rw [run_reporting, Co.run_bind, Co.run_bind]
    rcases m.run s with ⟨e | task, s'⟩
    · rfl
    · cases task <;> rfl
  cases call with
  | sendMessage r => exact state_reporting _ _ s
  | sendStreamingMessage r =>
      simp only [serve, attempt, sendStreamingMessage]
      cases h.agentCard.capabilities.streaming with
      | true =>
          simp only [A2aSdk.validateGen_true]
          show ((AsyncGen.awaitThen _ _).run s).state = ((AsyncGen.awaitThen _ _).run s).state
          rw [AsyncGen.run_awaitThen, AsyncGen.run_awaitThen]
          rcases (h.buildCallContext context r).run s with ⟨_ | c, s'⟩
          · rfl
          · exact state_reportingGen _ s'
      | false => simp only [A2aSdk.validateGen_false]
  | cancelTask r => exact htask _
  | subscribeToTask r =>
      simp only [serve, attempt, subscribeToTask]
      cases h.agentCard.capabilities.streaming with
      | true =>
          simp only [A2aSdk.validateGen_true]
          exact state_reportingGen _ s
      | false => simp only [A2aSdk.validateGen_false]
  | getTask r => exact htask _
  | listTasks r => exact state_reporting _ _ s
  | getTaskPushNotificationConfig r => exact state_reporting _ _ s
  | createTaskPushNotificationConfig r =>
      simp only [serve, attempt, createTaskPushNotificationConfig]
      cases h.agentCard.capabilities.pushNotifications with
      | true =>
          simp only [A2aSdk.validate_true]
          exact state_reporting _ _ s
      | false => simp only [A2aSdk.validate_false]
  | listTaskPushNotificationConfigs r => exact state_reporting _ _ s
  | deleteTaskPushNotificationConfig r =>
      refine (state_reporting (⟨⟩ : Empty) _ s).trans ?_
      exact Co.snd_run_bind_still (fun _ => Co.still_pure _) s
  | getExtendedAgentCard r =>
      simp only [serve, attempt, getExtendedAgentCard]
      show (Co.run _ s).2 = (Co.run _ s).2
      rw [Co.run_bind, Co.run_bind, run_reporting]
      rcases (h.withContext context r h.requestHandler.onGetExtendedAgentCard).run s with
        ⟨_ | card, s'⟩ <;> rfl

end SRPCHandler

/-! ### Version 0.3 -/

namespace Compat
section
variable [A2aSdk] [CompatSdk] {σ : Type}

/-- Decode the params, then convert the request with id `0` to version 1. -/
def decoded {π ρ : Type} (params : Except PyException π)
    (convert : Request03 π → Except PyException ρ)
    (entry : ρ → ServerCallContext → HandlerCall) :
    Except PyException (ServerCallContext → HandlerCall) := do
  let params ← params
  let request ← convert ⟨0, params⟩
  return entry request

omit [A2aSdk] [CompatSdk] in
/-- A request that can be decoded was decoded and converted. -/
theorem decoded_ok {π ρ : Type} {params : Except PyException π}
    {convert : Request03 π → Except PyException ρ} {entry : ρ → ServerCallContext → HandlerCall}
    {f : ServerCallContext → HandlerCall} (h : decoded params convert entry = .ok f) :
    ∃ p r, params = .ok p ∧ convert ⟨0, p⟩ = .ok r ∧ f = entry r := by
  cases params with
  | error e => cases h
  | ok p =>
      have hconvert : (do
          let request ← convert ⟨0, p⟩
          return entry request) = Except.ok f := h
      cases hr : convert ⟨0, p⟩ with
      | error e =>
          rw [hr] at hconvert
          cases hconvert
      | ok r =>
          rw [hr] at hconvert
          cases hconvert
          exact ⟨p, r, rfl, hr, rfl⟩

/-- The call that a request makes of the request handler, if it can be decoded; `none` for the one
method that does not go to the request handler. -/
def CompatCall.handlerCall :
    CompatCall → Option (Except PyException (ServerCallContext → HandlerCall))
  | sendMessage r => some <| decoded (Conversions03.fromMessageSendParams r)
      Conversions03.toCoreSendMessageRequest .onMessageSend
  | sendStreamingMessage r => some <| decoded (Conversions03.fromMessageSendParams r)
      Conversions03.toCoreSendMessageRequest .onMessageSendStream
  | getTask r => some <| decoded (Conversions03.fromTaskQueryParams r)
      Conversions03.toCoreGetTaskRequest .onGetTask
  | cancelTask r => some <| decoded (Conversions03.fromTaskIdParams r.name)
      Conversions03.toCoreCancelTaskRequest .onCancelTask
  | taskSubscription r => some <| decoded (Conversions03.fromTaskIdParams r.name)
      Conversions03.toCoreSubscribeToTaskRequest .onSubscribeToTask
  | createTaskPushNotificationConfig r => some <|
      decoded (Conversions03.fromTaskPushNotificationConfigRequest r)
        Conversions03.toCoreCreateTaskPushNotificationConfigRequest
        .onCreateTaskPushNotificationConfig
  | getTaskPushNotificationConfig r => some <|
      decoded (do
          let (taskId, configId) ← extractTaskAndConfigId r.name
          return ⟨taskId, configId⟩)
        Conversions03.toCoreGetTaskPushNotificationConfigRequest .onGetTaskPushNotificationConfig
  | listTaskPushNotificationConfig r => some <|
      decoded (do
          let taskId ← extractTaskId r.parent
          return ⟨taskId⟩)
        Conversions03.toCoreListTaskPushNotificationConfigRequest .onListTaskPushNotificationConfigs
  | getAgentCard _ => none
  | deleteTaskPushNotificationConfig r => some <|
      decoded (do
          let (taskId, configId) ← extractTaskAndConfigId r.name
          return ⟨taskId, configId⟩)
        Conversions03.toCoreDeleteTaskPushNotificationConfigRequest
        .onDeleteTaskPushNotificationConfig

omit [A2aSdk] in
theorem CompatCall.ne_getAgentCard {call : CompatCall}
    {request : Except PyException (ServerCallContext → HandlerCall)}
    (hrequest : call.handlerCall = some request) : ∀ r, call ≠ .getAgentCard r := by
  rintro r rfl
  cases hrequest

omit [A2aSdk] in
theorem CompatCall.eq_getAgentCard {call : CompatCall} (hrequest : call.handlerCall = none) :
    ∃ r, call = .getAgentCard r := by
  cases call with
  | getAgentCard r => exact ⟨r, rfl⟩
  | _ => cases hrequest

namespace SRPCCompatHandler
variable (h : SRPCCompatHandler σ)

/-- What happens before the request handler is reached, up to the call that it receives. -/
def delivery (context : Context) (request : Except PyException (ServerCallContext → HandlerCall)) :
    Co σ PyException HandlerCall := do
  let serverContext ← h.contextBuilder context
  let entry ← Co.ofExcept request
  return entry serverContext

omit [A2aSdk] in
/-- Once the context is built, the delivery depends on the decoding only. -/
theorem delivery_run {h : SRPCCompatHandler σ} {context : Context} {s s' : σ}
    {c : ServerCallContext} (hbuild : (h.contextBuilder context).run s = (.ok c, s'))
    (request : Except PyException (ServerCallContext → HandlerCall)) :
    (h.delivery context request).run s = (request.map fun entry => entry c, s') := by
  rw [delivery, Co.run_bind_ok hbuild]
  cases request <;> rfl

omit [A2aSdk] in
/-- A call that is delivered was decoded, and carries a context that was built. -/
theorem delivery_ok {h : SRPCCompatHandler σ} {context : Context}
    {request : Except PyException (ServerCallContext → HandlerCall)} {s s' : σ} {x : HandlerCall}
    (hdelivery : (h.delivery context request).run s = (.ok x, s')) :
    ∃ c f, (h.contextBuilder context).run s = (.ok c, s') ∧ request = .ok f ∧ x = f c := by
  rw [delivery, Co.run_bind] at hdelivery
  rcases hbuild : (h.contextBuilder context).run s with ⟨_ | c, s''⟩
  · rw [hbuild] at hdelivery
    cases hdelivery
  · rw [hbuild] at hdelivery
    cases request with
    | error e => cases hdelivery
    | ok f =>
        cases hdelivery
        exact ⟨c, f, rfl, rfl, rfl⟩

/-- The outcome with its A2A error reported. -/
def reported {ι ρ : Type} (o : Outcome ι ρ σ) : Outcome ι ρ σ :=
  { o with result := o.result.mapError report }

/-- The events of a streaming method, with no `try` around them. -/
def events {π : Type} (context : Context) (params : Except PyException π)
    (call : Request03 π → ServerCallContext → AsyncGen σ PyException StreamingResponse03) :
    AsyncGen σ PyException V03.StreamResponse :=
  AsyncGen.awaitThen (h.prepare context params) fun (request, serverContext) =>
    (call request serverContext).mapExcept fun response =>
      Conversions03.toProtoStreamResponse response.result

/-- The steps of a call in the order of the source, with no `try` around them. -/
def attempt (context : Context) (s : σ) :
    CompatCall → Outcome V03.StreamResponse CompatResponse σ
  | .sendMessage r => .ofUnary .sendMessageResponse <| Co.run (do
      match ← h.withRequest context (Conversions03.fromMessageSendParams r)
        h.handler03.onMessageSend with
      | .task task => return .task (← Co.ofExcept (Conversions03.toProtoTask task))
      | .message message => return .msg (← Co.ofExcept (Conversions03.toProtoMessage message))) s
  | .sendStreamingMessage r => .ofStream .ended <| AsyncGen.run
      (h.events context (Conversions03.fromMessageSendParams r) h.handler03.onMessageSendStream) s
  | .getTask r => .ofUnary .task <| Co.run (do
      let result ← h.withRequest context (Conversions03.fromTaskQueryParams r)
        h.handler03.onGetTask
      Co.ofExcept (Conversions03.toProtoTask result)) s
  | .cancelTask r => .ofUnary .task <| Co.run (do
      let result ← h.withRequest context (Conversions03.fromTaskIdParams r.name)
        h.handler03.onCancelTask
      Co.ofExcept (Conversions03.toProtoTask result)) s
  | .taskSubscription r => .ofStream .ended <| AsyncGen.run
      (h.events context (Conversions03.fromTaskIdParams r.name) h.handler03.onSubscribeToTask) s
  | .createTaskPushNotificationConfig r => .ofUnary .taskPushNotificationConfig <| Co.run (do
      let result ← h.withRequest context (Conversions03.fromTaskPushNotificationConfigRequest r)
        h.handler03.onCreateTaskPushNotificationConfig
      Co.ofExcept (Conversions03.toProtoTaskPushNotificationConfig result)) s
  | .getTaskPushNotificationConfig r => .ofUnary .taskPushNotificationConfig <| Co.run (do
      let result ← h.withRequest context
        (do
          let (taskId, configId) ← extractTaskAndConfigId r.name
          return ⟨taskId, configId⟩)
        h.handler03.onGetTaskPushNotificationConfig
      Co.ofExcept (Conversions03.toProtoTaskPushNotificationConfig result)) s
  | .listTaskPushNotificationConfig r =>
      .ofUnary .listTaskPushNotificationConfigResponse <| Co.run (do
        let configs ← h.withRequest context
          (do
            let taskId ← extractTaskId r.parent
            return ⟨taskId⟩)
          h.handler03.onListTaskPushNotificationConfigs
        return ⟨← Co.ofExcept
          (configs.mapM Conversions03.toProtoTaskPushNotificationConfig)⟩) s
  | .getAgentCard r => .ofUnary .agentCard ((h.getAgentCard r context).run s)
  | .deleteTaskPushNotificationConfig r => .ofUnary (fun _ => .empty) <|
      (h.withRequest context
        (do
          let (taskId, configId) ← extractTaskAndConfigId r.name
          return ⟨taskId, configId⟩)
        h.handler03.onDeleteTaskPushNotificationConfig).run s

omit [A2aSdk] [CompatSdk] in
theorem ofUnary_reporting {ι ρ α : Type} (wrap : α → ρ) (dflt : α) (m : Co σ PyException α)
    (s : σ) :
    (Outcome.ofUnary wrap ((reporting dflt m).run s) : Outcome ι ρ σ) =
      reported (Outcome.ofUnary wrap (m.run s)) := by
  rw [run_reporting]
  rcases m.run s with ⟨_ | _, _⟩ <;> rfl

omit [A2aSdk] [CompatSdk] in
theorem ofStream_reportingGen {ι ρ : Type} (ended : ρ) (g : AsyncGen σ PyException ι) (s : σ) :
    Outcome.ofStream ended ((reportingGen g).run s) =
      reported (Outcome.ofStream ended (g.run s)) := by
  rw [run_reportingGen]
  rcases g.run s with ⟨_, _ | _, _⟩ <;> rfl

omit [A2aSdk] in
/-- Every method but `getAgentCard` is the attempt inside of one `try`. -/
theorem serve_eq_reported (context : Context) (s : σ) {call : CompatCall}
    (hcall : ∀ r, call ≠ .getAgentCard r) :
    h.serve context s call = reported (h.attempt context s call) := by
  cases call with
  | sendMessage r => exact ofUnary_reporting _ _ _ s
  | sendStreamingMessage r => exact ofStream_reportingGen _ _ s
  | getTask r => exact ofUnary_reporting _ _ _ s
  | cancelTask r => exact ofUnary_reporting _ _ _ s
  | taskSubscription r => exact ofStream_reportingGen _ _ s
  | createTaskPushNotificationConfig r => exact ofUnary_reporting _ _ _ s
  | getTaskPushNotificationConfig r => exact ofUnary_reporting _ _ _ s
  | listTaskPushNotificationConfig r => exact ofUnary_reporting _ _ _ s
  | getAgentCard r => exact absurd rfl (hcall r)
  | deleteTaskPushNotificationConfig r =>
      simp only [serve, attempt, deleteTaskPushNotificationConfig]
      rw [ofUnary_reporting, Co.run_bind]
      rcases (h.withRequest context _ h.handler03.onDeleteTaskPushNotificationConfig).run s
        with ⟨_ | _, _⟩ <;> rfl

/-- Prepare, then convert the request to version 1. -/
def convertRequest {π ρ : Type} (context : Context) (params : Except PyException π)
    (convert : Request03 π → Except PyException ρ) : Co σ PyException (ρ × ServerCallContext) := do
  let (request, serverContext) ← h.prepare context params
  let request ← Co.ofExcept (convert request)
  return (request, serverContext)

omit [A2aSdk] in
theorem delivery_decoded {π ρ : Type} (context : Context) (params : Except PyException π)
    (convert : Request03 π → Except PyException ρ)
    (entry : ρ → ServerCallContext → HandlerCall) :
    h.delivery context (decoded params convert entry) =
      do
        let (request, serverContext) ← h.convertRequest context params convert
        return entry request serverContext := by
  simp only [delivery, convertRequest, prepare, decoded, Co.ofExcept_bind, Co.bind_assoc]
  rfl

variable {h} {requestHandler : RequestHandler σ}

omit [A2aSdk] in
/-- A method that forwards a converted request and converts the answer. -/
theorem delivers_forward {π ρ α β : Type} {context : Context} {params : Except PyException π}
    {convert : Request03 π → Except PyException ρ}
    {f : ρ → ServerCallContext → Co σ PyException α} {respond : α → Except PyException β}
    {entry : ρ → ServerCallContext → HandlerCall}
    (hentry : ∀ r c, requestHandler.invokeThrough toProtoEvent (entry r c) = (f r c).void) :
    Delivers (requestHandler.invokeThrough toProtoEvent)
      (h.delivery context (decoded params convert entry))
      (h.withRequest context params (forward convert f respond)) := by
  have heq : h.withRequest context params (forward convert f respond) =
      (h.convertRequest context params convert >>= fun x => f x.1 x.2) >>= fun answer =>
        Co.ofExcept (respond answer) := by
    simp only [convertRequest, Co.bind_assoc]
    rfl
  have hstep (x : ρ × ServerCallContext) :
      requestHandler.invokeThrough toProtoEvent (entry x.1 x.2) = (f x.1 x.2).void :=
    hentry x.1 x.2
  rw [heq, delivery_decoded]
  exact (delivers_bind hstep).bind fun _ => Co.still_ofExcept _

omit [A2aSdk] in
/-- What a streaming method yields is what the request handler yields, converted. -/
theorem events_forwardGen {π ρ : Type} {context : Context} {params : Except PyException π}
    {convert : Request03 π → Except PyException ρ}
    {f : ρ → ServerCallContext → AsyncGen σ PyException Event} :
    h.events context params (forwardGen convert f compatStreamingResponse) =
      AsyncGen.awaitThen (h.prepare context params) fun (request, serverContext) =>
        AsyncGen.awaitThen (Co.ofExcept (convert request)) fun request =>
          (f request serverContext).mapExcept toProtoEvent := by
  have hconvert : (fun event => compatStreamingResponse event >>= fun response =>
      Conversions03.toProtoStreamResponse response.result) = toProtoEvent :=
    funext compatStreamingResponse_bind
  unfold events forwardGen
  simp only [AsyncGen.mapExcept_awaitThen, AsyncGen.mapExcept_mapExcept, hconvert]

omit [A2aSdk] in
theorem delivers_events {π ρ : Type} {context : Context} {params : Except PyException π}
    {convert : Request03 π → Except PyException ρ}
    {f : ρ → ServerCallContext → AsyncGen σ PyException Event}
    {entry : ρ → ServerCallContext → HandlerCall}
    (hentry : ∀ r c, requestHandler.invokeThrough toProtoEvent (entry r c) =
      ((f r c).mapExcept toProtoEvent).drain) :
    Delivers (requestHandler.invokeThrough toProtoEvent)
      (h.delivery context (decoded params convert entry))
      (h.events context params (forwardGen convert f compatStreamingResponse)).drain := by
  have heq : (h.events context params (forwardGen convert f compatStreamingResponse)).drain =
      h.convertRequest context params convert >>= fun x =>
        ((f x.1 x.2).mapExcept toProtoEvent).drain := by
    rw [events_forwardGen]
    simp only [convertRequest, AsyncGen.drain_awaitThen, Co.bind_assoc]
    rfl
  have hstep (x : ρ × ServerCallContext) :
      requestHandler.invokeThrough toProtoEvent (entry x.1 x.2) =
        ((f x.1 x.2).mapExcept toProtoEvent).drain := hentry x.1 x.2
  rw [heq, delivery_decoded]
  exact delivers_drain hstep

omit [A2aSdk] in
theorem still_toProtoTaskOrMessage (result : TaskOrMessage03) :
    Co.Still (match result with
      | .task task => do return .task (← Co.ofExcept (Conversions03.toProtoTask task))
      | .message message => do return .msg (← Co.ofExcept (Conversions03.toProtoMessage message)) :
        Co σ PyException V03.SendMessageResponse) := by
  cases result <;> exact Co.still_bind (Co.still_ofExcept _) fun _ => Co.still_pure _

omit [A2aSdk] in
/-- Every method of version 0.3 that goes to the request handler delivers its call. -/
theorem delivers_attempt {context : Context} {call : CompatCall}
    (hforwards : h.handler03 = RequestHandler03.forwarding requestHandler)
    {request : Except PyException (ServerCallContext → HandlerCall)}
    (hrequest : call.handlerCall = some request) :
    Delivers (requestHandler.invokeThrough toProtoEvent) (h.delivery context request)
      fun s => (h.attempt context s call).ending := by
  cases call with
  | getAgentCard r => cases hrequest
  | sendMessage r =>
      cases hrequest
      simp only [attempt, hforwards]
      exact ((delivers_forward fun r c => rfl).bind still_toProtoTaskOrMessage).ofUnary _
  | sendStreamingMessage r =>
      cases hrequest
      simp only [attempt, hforwards]
      exact (delivers_events fun r c => rfl).ofStream _
  | getTask r =>
      cases hrequest
      simp only [attempt, hforwards]
      exact ((delivers_forward fun r c => rfl).bind fun _ => Co.still_ofExcept _).ofUnary _
  | cancelTask r =>
      cases hrequest
      simp only [attempt, hforwards]
      exact ((delivers_forward fun r c => rfl).bind fun _ => Co.still_ofExcept _).ofUnary _
  | taskSubscription r =>
      cases hrequest
      simp only [attempt, hforwards]
      exact (delivers_events fun r c => rfl).ofStream _
  | createTaskPushNotificationConfig r =>
      cases hrequest
      simp only [attempt, hforwards]
      exact ((delivers_forward fun r c => rfl).bind fun _ => Co.still_ofExcept _).ofUnary _
  | getTaskPushNotificationConfig r =>
      cases hrequest
      simp only [attempt, hforwards]
      exact ((delivers_forward fun r c => rfl).bind fun _ => Co.still_ofExcept _).ofUnary _
  | listTaskPushNotificationConfig r =>
      cases hrequest
      simp only [attempt, hforwards]
      exact ((delivers_forward fun r c => rfl).bind fun _ =>
        Co.still_bind (Co.still_ofExcept _) fun _ => Co.still_pure _).ofUnary _
  | deleteTaskPushNotificationConfig r =>
      cases hrequest
      simp only [attempt, hforwards]
      exact (delivers_forward fun r c => rfl).ofUnary _

end SRPCCompatHandler
end
end Compat

/-! ### One request handler behind both servers -/

/-- What the two servers of an agent are built from.  They share the card and the request handler;
each has a context builder and a card modifier of its own, or none. -/
structure Servicers (σ : Type) where
  agentCard : AgentCard
  requestHandler : RequestHandler σ
  contextBuilder : Option (CallContextBuilder σ)
  cardModifier : Option (AgentCard → Co σ PyException AgentCard)
  compatContextBuilder : Option (CallContextBuilder σ)
  compatCardModifier : Option (AgentCard → Co σ PyException AgentCard)

namespace Servicers
variable [A2aSdk] [CompatSdk] {σ : Type} (servicers : Servicers σ)

/-- The server of version 1. -/
def v1 : SRPCHandler σ :=
  .init servicers.agentCard servicers.requestHandler servicers.contextBuilder
    servicers.cardModifier

/-- The server of version 0.3. -/
def v03 : Compat.SRPCCompatHandler σ :=
  .init servicers.agentCard servicers.requestHandler servicers.compatContextBuilder
    servicers.compatCardModifier

theorem handler03_eq :
    servicers.v03.handler03 = RequestHandler03.forwarding servicers.requestHandler :=
  requestHandler03_eq servicers.requestHandler

/-- The server of version 0.3 delivers its calls, each event through its conversion. -/
theorem delivers_v03 {context : Context} {call : Compat.CompatCall}
    {request : Except PyException (ServerCallContext → HandlerCall)}
    (hrequest : call.handlerCall = some request) :
    Delivers (servicers.requestHandler.invokeThrough toProtoEvent)
      (servicers.v03.delivery context request)
      fun s => (servicers.v03.attempt context s call).ending :=
  Compat.SRPCCompatHandler.delivers_attempt servicers.handler03_eq hrequest

/-- The same servers, with the request handler beside a log of its calls. -/
def logged : Servicers (σ × List HandlerCall) where
  agentCard := servicers.agentCard
  requestHandler := servicers.requestHandler.logged
  contextBuilder := servicers.contextBuilder.map fun build context => (build context).onFst
  cardModifier := servicers.cardModifier.map fun cardModifier card => (cardModifier card).onFst
  compatContextBuilder :=
    servicers.compatContextBuilder.map fun build context => (build context).onFst
  compatCardModifier :=
    servicers.compatCardModifier.map fun cardModifier card => (cardModifier card).onFst

/-- The world that an RPC leaves. -/
def step (s : σ) (context : Context) : Rpc → σ
  | .v1 call => (servicers.v1.serve context s call).state
  | .v03 call => (servicers.v03.serve context s call).state

/-- How an RPC gets to the request handler; `none` where it never does. -/
def delivery (context : Context) : Rpc → Option (Co σ PyException HandlerCall)
  | .v1 call => some (servicers.v1.delivery context call)
  | .v03 call => call.handlerCall.map (servicers.v03.delivery context)

/-- The calls that the request handler receives in an RPC: one or none. -/
def receives (context : Context) (s : σ) (rpc : Rpc) : List HandlerCall :=
  match servicers.delivery context rpc with
  | some delivery => received (delivery.run s)
  | none => []

omit [CompatSdk] in
theorem v1_delivery_logged (context : Context) (call : Call) :
    servicers.logged.v1.delivery context call =
      (servicers.v1.delivery context call).onFst := by
  have hbuild : servicers.logged.v1.contextBuilder context =
      (servicers.v1.contextBuilder context).onFst := by
    simp only [v1, logged, SRPCHandler.init]
    cases servicers.contextBuilder <;> rfl
  simp only [SRPCHandler.delivery, hbuild, Co.onFst_bind]
  rfl

theorem v03_delivery_logged (context : Context)
    (request : Except PyException (ServerCallContext → HandlerCall)) :
    servicers.logged.v03.delivery context request =
      (servicers.v03.delivery context request).onFst := by
  have hbuild : servicers.logged.v03.contextBuilder context =
      (servicers.v03.contextBuilder context).onFst := by
    simp only [v03, logged, Compat.SRPCCompatHandler.init]
    cases servicers.compatContextBuilder <;> rfl
  simp only [Compat.SRPCCompatHandler.delivery, hbuild, Co.onFst_bind]
  rfl

/-- A card modifier does not see the log. -/
theorem log_getAgentCard (s : σ × List HandlerCall) (context : Context)
    (r : V03.GetAgentCardRequest) :
    ((servicers.logged.v03.getAgentCard r context).run s).2.2 = s.2 := by
  have hconvert (card : AgentCard) : Co.Still (Co.ofExcept (σ := σ × List HandlerCall)
      (Conversions03.toCompatAgentCard card) >>= fun card =>
        Co.ofExcept (Conversions03.toProtoAgentCard card)) :=
    Co.still_decode _ _
  unfold Compat.SRPCCompatHandler.getAgentCard
  simp only [v03, logged, Compat.SRPCCompatHandler.init]
  cases servicers.compatCardModifier with
  | none => exact congrArg Prod.snd (hconvert servicers.agentCard s)
  | some cardModifier =>
      show (Co.run ((cardModifier servicers.agentCard).onFst >>= _) s).2.2 = s.2
      rw [Co.snd_run_bind_still hconvert]
      rfl

omit [CompatSdk] in
/-- One RPC of version 1 adds to the log what the request handler receives in it. -/
theorem log_v1_serve (s : σ) (log : List HandlerCall) (context : Context) (call : Call) :
    (servicers.logged.v1.serve context (s, log) call).state.2 =
      log ++ received ((servicers.v1.delivery context call).run s) := by
  have hdelivery := servicers.v1_delivery_logged context call
  rw [SRPCHandler.state_serve]
  by_cases hcall : ∃ r, call = .getExtendedAgentCard r
  · obtain ⟨r, rfl⟩ := hcall
    have hdelivers : Delivers servicers.requestHandler.logged.invoke
        (servicers.logged.v1.delivery context (.getExtendedAgentCard r))
        (servicers.logged.v1.withContext context r
          servicers.requestHandler.logged.onGetExtendedAgentCard) :=
      SRPCHandler.delivers_withContext (h := servicers.logged.v1) fun c => rfl
    refine (Co.snd_run_bind ?_ (s, log)).trans
      (hdelivers.log servicers.requestHandler.records_invoke hdelivery s log)
    rintro card ⟨s, log⟩
    simp only [v1, logged, SRPCHandler.init]
    cases servicers.cardModifier <;> rfl
  · have hdelivers : Delivers servicers.requestHandler.logged.invoke
        (servicers.logged.v1.delivery context call) fun s =>
          (servicers.logged.v1.attempt context s call).ending :=
      SRPCHandler.delivers_attempt (h := servicers.logged.v1) context fun r hr => hcall ⟨r, hr⟩
    exact hdelivers.log servicers.requestHandler.records_invoke hdelivery s log

/-- One RPC of version 0.3 adds to the log what the request handler receives in it. -/
theorem log_v03_serve (s : σ) (log : List HandlerCall) (context : Context)
    {call : Compat.CompatCall}
    {request : Except PyException (ServerCallContext → HandlerCall)}
    (hrequest : call.handlerCall = some request) :
    (servicers.logged.v03.serve context (s, log) call).state.2 =
      log ++ received ((servicers.v03.delivery context request).run s) := by
  rw [Compat.SRPCCompatHandler.serve_eq_reported _ context _
    (Compat.CompatCall.ne_getAgentCard hrequest)]
  exact (servicers.logged.delivers_v03 hrequest).log
    (servicers.requestHandler.records_invokeThrough toProtoEvent)
    (servicers.v03_delivery_logged context request) s log

/-- One RPC adds to the log what the request handler receives in it, and nothing else. -/
theorem log_step (s : σ) (log : List HandlerCall) (context : Context) (rpc : Rpc) :
    (servicers.logged.step (s, log) context rpc).2 = log ++ servicers.receives context s rpc := by
  cases rpc with
  | v1 call => exact servicers.log_v1_serve s log context call
  | v03 call =>
      cases hrequest : call.handlerCall with
      | some request =>
          refine (servicers.log_v03_serve s log context hrequest).trans ?_
          simp only [receives, delivery, hrequest, Option.map_some]
      | none =>
          obtain ⟨r, rfl⟩ := Compat.CompatCall.eq_getAgentCard hrequest
          refine (servicers.log_getAgentCard (s, log) context r).trans ?_
          exact (List.append_nil log).symm

end Servicers
end SlimA2a
