import SlimA2a.ErrorCodes
import SlimA2a.ServerStreams

/-! # What the request handler answers

Between the network and the request handler, a server decodes, calls and converts.  `answer` is the
request handler's side of that: the events it yields, what it returns and the world it leaves.  Its
parameter is the server's conversion of an event, since a stream ends at an event that has no form
in the version that the server speaks.

Both servers do the same three things: they deliver a call, take the answer, and convert it
(`SRPCHandler.attempt_eq`, `SRPCCompatHandler.attempt_eq`).  For version 1 the conversion is where
the card modifier runs.  An exception that leaves a method of version 1 is either reported by its
`try` block or not caught by any (`SRPCHandler.serve_eq`). -/

namespace SlimA2a

/-- What a method of a request handler returns; a stream returns nothing when it ends. -/
inductive Answer where
  | taskOrMessage (x : TaskOrMessage)
  | task (task : Option Task)
  | listTasksResponse (response : ListTasksResponse)
  | taskPushNotificationConfig (config : TaskPushNotificationConfig)
  | listTaskPushNotificationConfigsResponse (response : ListTaskPushNotificationConfigsResponse)
  | deleted
  | agentCard (card : AgentCard)
  | ended
deriving DecidableEq

section answers
variable {σ α β γ ι ρ : Type}

/-- Call the method of a request handler and keep its answer, each event of a stream converted. -/
def RequestHandler.answer (h : RequestHandler σ) (convert : Event → Except PyException ι) (s : σ) :
    HandlerCall → Outcome ι Answer σ
  | .onMessageSend r c => .ofUnary .taskOrMessage ((h.onMessageSend r c).run s)
  | .onMessageSendStream r c =>
      .ofStream .ended (((h.onMessageSendStream r c).mapExcept convert).run s)
  | .onCancelTask r c => .ofUnary .task ((h.onCancelTask r c).run s)
  | .onSubscribeToTask r c =>
      .ofStream .ended (((h.onSubscribeToTask r c).mapExcept convert).run s)
  | .onGetTask r c => .ofUnary .task ((h.onGetTask r c).run s)
  | .onListTasks r c => .ofUnary .listTasksResponse ((h.onListTasks r c).run s)
  | .onGetTaskPushNotificationConfig r c =>
      .ofUnary .taskPushNotificationConfig ((h.onGetTaskPushNotificationConfig r c).run s)
  | .onCreateTaskPushNotificationConfig r c =>
      .ofUnary .taskPushNotificationConfig ((h.onCreateTaskPushNotificationConfig r c).run s)
  | .onListTaskPushNotificationConfigs r c =>
      .ofUnary .listTaskPushNotificationConfigsResponse
        ((h.onListTaskPushNotificationConfigs r c).run s)
  | .onDeleteTaskPushNotificationConfig r c =>
      .ofUnary (fun _ => .deleted) ((h.onDeleteTaskPushNotificationConfig r c).run s)
  | .onGetExtendedAgentCard r c => .ofUnary .agentCard ((h.onGetExtendedAgentCard r c).run s)

/-- Deliver a call, and let the request handler answer it. -/
def RequestHandler.answerTo (h : RequestHandler σ) (convert : Event → Except PyException ι)
    (delivery : Co σ PyException HandlerCall) (s : σ) : Outcome ι Answer σ :=
  match delivery.run s with
  | (.ok x, s') => h.answer convert s' x
  | (.error e, s') => ⟨[], .error e, s'⟩

/-- Go on with the result of an outcome. -/
def Outcome.andThen {τ : Type} (respond : ρ → Co σ PyException τ) (o : Outcome ι ρ σ) :
    Outcome ι τ σ :=
  match o.result with
  | .ok a => ⟨o.items, ((respond a).run o.state).1, ((respond a).run o.state).2⟩
  | .error e => ⟨o.items, .error e, o.state⟩

/-- Replace the exception of an outcome. -/
def Outcome.mapError {ι ρ : Type} (f : PyException → PyException) (o : Outcome ι ρ σ) :
    Outcome ι ρ σ :=
  { o with result := o.result.mapError f }

variable {h : RequestHandler σ} {convert : Event → Except PyException ι}

/-- Await what a call needs, make the call, and go on with its answer. -/
theorem ofUnary_bind {c : Co σ PyException α} {entry : α → HandlerCall}
    {f : α → Co σ PyException β} {post : β → Co σ PyException γ} {wrap : γ → ρ}
    {answer : β → Answer} {respond : Answer → Co σ PyException ρ}
    (hentry : ∀ a s, h.answer convert s (entry a) = .ofUnary answer ((f a).run s))
    (hrespond : ∀ b, respond (answer b) = do return wrap (← post b)) (s : σ) :
    (Outcome.ofUnary wrap ((c >>= f >>= post).run s) : Outcome ι ρ σ) =
      (h.answerTo convert (do return entry (← c)) s).andThen respond := by
  unfold RequestHandler.answerTo
  rw [Co.run_bind_pure, Co.bind_assoc]
  rcases hc : c.run s with ⟨e | a, s'⟩
  · rw [Co.run_bind_error hc]
    rfl
  · rw [Co.run_bind_ok hc]
    dsimp only [Except.map]
    rw [hentry]
    rcases hf : (f a).run s' with ⟨e | b, s''⟩
    · rw [Co.run_bind_error hf]
      rfl
    · rw [Co.run_bind_ok hf]
      simp only [Outcome.andThen, Outcome.ofUnary, Except.map, hrespond, Co.run_bind]
      rcases (post b).run s'' with ⟨_ | _, _⟩ <;> rfl

/-- The same for a method that yields the converted events. -/
theorem ofStream_awaitThen {c : Co σ PyException α} {entry : α → HandlerCall}
    {g : α → AsyncGen σ PyException Event} {ended : ρ} {respond : Answer → Co σ PyException ρ}
    (hentry : ∀ a s, h.answer convert s (entry a) =
      .ofStream .ended (((g a).mapExcept convert).run s))
    (hrespond : respond .ended = pure ended) (s : σ) :
    Outcome.ofStream ended ((AsyncGen.awaitThen c fun a => (g a).mapExcept convert).run s) =
      (h.answerTo convert (do return entry (← c)) s).andThen respond := by
  unfold RequestHandler.answerTo
  rw [Co.run_bind_pure]
  rcases hc : c.run s with ⟨e | a, s'⟩
  · rw [AsyncGen.run_awaitThen_error hc]
    rfl
  · rw [AsyncGen.run_awaitThen_ok hc]
    dsimp only [Except.map]
    rw [hentry]
    unfold Outcome.andThen Outcome.ofStream
    cases (((g a).mapExcept convert).run s').result with
    | error e => rfl
    | ok u =>
        simp only [Except.map, hrespond]
        rfl

end answers

/-! ### Version 1 -/

section v1
variable [A2aSdk] {σ : Type}

/-- An event as version 1 streams it; every event has a form there. -/
def streamed (event : Event) : Except PyException StreamResponse :=
  .ok (A2aSdk.toStreamResponse event)

/-- The response for an answer, once the card modifier ran. -/
def Answer.response : Answer → Except PyException Response
  | .taskOrMessage (.task t) => .ok (.sendMessageResponse (.task t))
  | .taskOrMessage (.message m) => .ok (.sendMessageResponse (.message m))
  | .task (some t) => .ok (.task t)
  | .task none => .error (.a2a taskNotFoundError)
  | .listTasksResponse response => .ok (.listTasksResponse response)
  | .taskPushNotificationConfig config => .ok (.taskPushNotificationConfig config)
  | .listTaskPushNotificationConfigsResponse response =>
      .ok (.listTaskPushNotificationConfigsResponse response)
  | .deleted => .ok .empty
  | .agentCard card => .ok (.agentCard card)
  | .ended => .ok .ended

namespace SRPCHandler
variable (h : SRPCHandler σ)

/-- What the server makes of an answer. -/
def respond : Answer → Co σ PyException Response
  | .agentCard card =>
      match h.cardModifier with
      | some cardModifier => do return .agentCard (← cardModifier card)
      | none => pure (.agentCard card)
  | answer => Co.ofExcept answer.response

omit [A2aSdk] in
theorem delivery_eq {ρ : Type} [HasTenant ρ] {context : Context} {call : Call} {request : ρ}
    (hguard : call.guard h.agentCard = .ok ()) (htenant : call.tenant = HasTenant.tenant request) :
    h.delivery context call =
      do return call.handlerCall (← h.buildCallContext context request) := by
  unfold delivery
  rw [hguard, htenant, bind_buildCallContext]
  rfl

variable {h}

/-- A method that calls the request handler and converts its answer. -/
theorem ofUnary_withContext {ρ α β : Type} [HasTenant ρ] {context : Context} {call : Call}
    {request : ρ} {f : ρ → ServerCallContext → Co σ PyException α}
    {convert : α → Co σ PyException β} {wrap : β → Response} {answer : α → Answer}
    (hguard : call.guard h.agentCard = .ok ()) (htenant : call.tenant = HasTenant.tenant request)
    (hentry : ∀ c s, h.requestHandler.answer streamed s (call.handlerCall c) =
      .ofUnary answer ((f request c).run s))
    (hrespond : ∀ a, h.respond (answer a) = do return wrap (← convert a)) (s : σ) :
    (Outcome.ofUnary wrap ((h.withContext context request f >>= convert).run s) :
        Outcome StreamResponse Response σ) =
      (h.requestHandler.answerTo streamed (h.delivery context call) s).andThen h.respond := by
  rw [h.delivery_eq hguard htenant]
  exact ofUnary_bind hentry hrespond s

/-- The same for a method that returns the answer as it is. -/
theorem ofUnary_withContext_pure {ρ α : Type} [HasTenant ρ] {context : Context} {call : Call}
    {request : ρ} {f : ρ → ServerCallContext → Co σ PyException α} {wrap : α → Response}
    {answer : α → Answer}
    (hguard : call.guard h.agentCard = .ok ()) (htenant : call.tenant = HasTenant.tenant request)
    (hentry : ∀ c s, h.requestHandler.answer streamed s (call.handlerCall c) =
      .ofUnary answer ((f request c).run s))
    (hrespond : ∀ a, h.respond (answer a) = pure (wrap a)) (s : σ) :
    (Outcome.ofUnary wrap ((h.withContext context request f).run s) :
        Outcome StreamResponse Response σ) =
      (h.requestHandler.answerTo streamed (h.delivery context call) s).andThen h.respond := by
  rw [← Co.bind_pure (h.withContext context request f)]
  exact ofUnary_withContext hguard htenant hentry hrespond s

/-- A guard that is false refuses the call before it is delivered. -/
theorem answerTo_of_guard {context : Context} {call : Call} {e : PyException}
    (hguard : call.guard h.agentCard = .error e) (s : σ) :
    h.requestHandler.answerTo streamed (h.delivery context call) s = ⟨[], .error e, s⟩ := by
  unfold RequestHandler.answerTo delivery
  rw [hguard]
  rfl

theorem ofStream_validateGen {ρ : Type} [HasTenant ρ] {context : Context} {call : Call}
    {request : ρ} {g : ρ → ServerCallContext → AsyncGen σ PyException Event}
    (hguard : call.guard h.agentCard =
      guarded h.agentCard.capabilities.streaming streamingNotSupported)
    (htenant : call.tenant = HasTenant.tenant request)
    (hentry : ∀ c s, h.requestHandler.answer streamed s (call.handlerCall c) =
      .ofStream .ended (((g request c).mapExcept streamed).run s)) (s : σ) :
    Outcome.ofStream Response.ended
        ((A2aSdk.validateGen h.agentCard.capabilities.streaming streamingNotSupported <|
          AsyncGen.awaitThen (h.buildCallContext context request) fun serverContext =>
            (g request serverContext).map A2aSdk.toStreamResponse).run s) =
      (h.requestHandler.answerTo streamed (h.delivery context call) s).andThen h.respond := by
  cases hstreaming : h.agentCard.capabilities.streaming with
  | true =>
      rw [hstreaming] at hguard
      rw [h.delivery_eq hguard htenant, A2aSdk.validateGen_true]
      simp only [← AsyncGen.mapExcept_ok]
      have hrespond : h.respond .ended = pure Response.ended := rfl
      exact ofStream_awaitThen hentry hrespond s
  | false =>
      rw [hstreaming] at hguard
      rw [answerTo_of_guard hguard, A2aSdk.validateGen_false]
      rfl

/-- **A call of version 1 is a delivery, the answer of the request handler, and its conversion.** -/
theorem attempt_eq (context : Context) (s : σ) (call : Call) :
    h.attempt context s call =
      (h.requestHandler.answerTo streamed (h.delivery context call) s).andThen h.respond := by
  cases call with
  | sendMessage r =>
      refine ofUnary_withContext rfl rfl (fun _ _ => rfl) (fun x => ?_) s
      cases x <;> rfl
  | sendStreamingMessage r => exact ofStream_validateGen rfl rfl (fun _ _ => rfl) s
  | cancelTask r =>
      refine ofUnary_withContext rfl rfl (fun _ _ => rfl) (fun task => ?_) s
      cases task <;> rfl
  | subscribeToTask r => exact ofStream_validateGen rfl rfl (fun _ _ => rfl) s
  | getTask r =>
      refine ofUnary_withContext rfl rfl (fun _ _ => rfl) (fun task => ?_) s
      cases task <;> rfl
  | listTasks r => exact ofUnary_withContext_pure rfl rfl (fun _ _ => rfl) (fun _ => rfl) s
  | getTaskPushNotificationConfig r =>
      exact ofUnary_withContext_pure rfl rfl (fun _ _ => rfl) (fun _ => rfl) s
  | createTaskPushNotificationConfig r =>
      cases hpush : h.agentCard.capabilities.pushNotifications with
      | true =>
          have hguard : (Call.createTaskPushNotificationConfig r).guard h.agentCard = .ok () := by
            rw [Call.guard, hpush]
            rfl
          rw [attempt, hpush, A2aSdk.validate_true]
          exact ofUnary_withContext_pure hguard rfl (fun _ _ => rfl) (fun _ => rfl) s
      | false =>
          have hguard : (Call.createTaskPushNotificationConfig r).guard h.agentCard =
              guarded false pushNotificationsNotSupported := by
            rw [Call.guard, hpush]
          rw [attempt, hpush, A2aSdk.validate_false, answerTo_of_guard hguard]
          rfl
  | listTaskPushNotificationConfigs r =>
      exact ofUnary_withContext_pure rfl rfl (fun _ _ => rfl) (fun _ => rfl) s
  | deleteTaskPushNotificationConfig r =>
      exact ofUnary_withContext_pure rfl rfl (fun _ _ => rfl) (fun _ => rfl) s
  | getExtendedAgentCard r =>
      refine ofUnary_withContext rfl rfl (fun _ _ => rfl) (fun card => ?_) s
      unfold respond
      cases h.cardModifier <;> rfl

/-- Outside of the `try` blocks the method is the attempt, and its A2A error stays as it is. -/
theorem serve_eq_attempt {context : Context} {s : σ} {call : Call}
    (hcovered : ¬ h.Covered context s call) :
    h.serve context s call = h.attempt context s call := by
  cases call with
  | sendStreamingMessage r =>
      by_cases hstreaming : h.agentCard.capabilities.streaming = true
      · simp only [Covered, hstreaming, true_and, not_forall, not_not] at hcovered
        obtain ⟨e, s', hbuild⟩ := hcovered
        have hctx : (h.buildCallContext context r).run s = (.error (.a2a e), s') := by
          rw [buildCallContext_run, hbuild]
          rfl
        simp only [serve, attempt, sendStreamingMessage, hstreaming, A2aSdk.validateGen_true,
          AsyncGen.run_awaitThen_error hctx]
      · rw [Bool.not_eq_true] at hstreaming
        simp only [serve, attempt, sendStreamingMessage, hstreaming, A2aSdk.validateGen_false]
  | subscribeToTask r =>
      have hstreaming : h.agentCard.capabilities.streaming = false :=
        Bool.not_eq_true _ ▸ hcovered
      simp only [serve, attempt, subscribeToTask, hstreaming, A2aSdk.validateGen_false]
  | createTaskPushNotificationConfig r =>
      have hpush : h.agentCard.capabilities.pushNotifications = false :=
        Bool.not_eq_true _ ▸ hcovered
      simp only [serve, attempt, createTaskPushNotificationConfig, hpush, A2aSdk.validate_false]
  | getExtendedAgentCard r =>
      simp only [Covered, not_forall, not_not] at hcovered
      obtain ⟨card, s', hcard, cardModifier, hmodifier, e, s'', hm⟩ := hcovered
      simp only [serve, attempt, getExtendedAgentCard, hmodifier,
        Co.run_bind_ok (run_reporting_ok hcard), Co.run_bind_ok hcard]
  | _ => exact absurd trivial hcovered

end SRPCHandler
end v1

/-! ### Version 0.3 -/

section v03
open Compat
variable [A2aSdk] [CompatSdk] {σ : Type}

/-- The response for a task or a message. -/
def toProtoResponse : TaskOrMessage03 → Except PyException V03.SendMessageResponse
  | .task task => (Conversions03.toProtoTask task).map .task
  | .message message => (Conversions03.toProtoMessage message).map .msg

/-- The response for the configs of a task. -/
def toProtoConfigs (configs : List Types03.TaskPushNotificationConfig) :
    Except PyException V03.ListTaskPushNotificationConfigResponse :=
  (configs.mapM Conversions03.toProtoTaskPushNotificationConfig).map fun configs => ⟨configs⟩

/-- The response for an answer.  Version 0.3 does not list tasks. -/
def Answer.compatResponse : Answer → Except PyException CompatResponse
  | .taskOrMessage x => (compatTaskOrMessage x >>= toProtoResponse).map .sendMessageResponse
  | .task found => (compatTask found >>= Conversions03.toProtoTask).map .task
  | .listTasksResponse _ =>
      .error (.exception .notImplementedError "ListTasks is not supported in A2A v0.3 SlimRPC.")
  | .taskPushNotificationConfig config =>
      (Conversions03.toCompatTaskPushNotificationConfig config >>=
        Conversions03.toProtoTaskPushNotificationConfig).map .taskPushNotificationConfig
  | .listTaskPushNotificationConfigsResponse response =>
      (Conversions03.toCompatListTaskPushNotificationConfigs response >>=
        toProtoConfigs).map .listTaskPushNotificationConfigResponse
  | .deleted => .ok .empty
  | .agentCard card =>
      (Conversions03.toCompatAgentCard card >>= Conversions03.toProtoAgentCard).map .agentCard
  | .ended => .ok .ended

namespace Compat.SRPCCompatHandler

/-- What the server makes of an answer. -/
def respond (answer : Answer) : Co σ PyException CompatResponse := Co.ofExcept answer.compatResponse

variable {h : SRPCCompatHandler σ} {requestHandler : RequestHandler σ}

omit [A2aSdk] in
/-- A method that forwards a converted request and converts the answer, in two steps: the first is
the one of `RequestHandler03`. -/
theorem ofUnary_withRequest {π ρ α β γ : Type} {context : Context} {params : Except PyException π}
    {convert : Request03 π → Except PyException ρ}
    {f : ρ → ServerCallContext → Co σ PyException α} {entry : ρ → ServerCallContext → HandlerCall}
    {post : α → Except PyException β} {k : β → Co σ PyException γ}
    {toProto : β → Except PyException γ} {wrap : γ → CompatResponse} {answer : α → Answer}
    (hentry : ∀ r c s, requestHandler.answer toProtoEvent s (entry r c) =
      .ofUnary answer ((f r c).run s))
    (hk : ∀ b, k b = Co.ofExcept (toProto b))
    (hrespond : ∀ a, (answer a).compatResponse = (post a >>= toProto).map wrap) (s : σ) :
    (Outcome.ofUnary wrap ((h.withRequest context params (forward convert f post) >>= k).run s) :
        Outcome V03.StreamResponse CompatResponse σ) =
      (requestHandler.answerTo toProtoEvent
        (h.delivery context (decoded params convert entry)) s).andThen respond := by
  have heq : h.withRequest context params (forward convert f post) >>= k =
      h.convertRequest context params convert >>= (fun x => f x.1 x.2) >>= fun a =>
        Co.ofExcept (post a >>= toProto) := by
    simp only [withRequest, forward, convertRequest, Co.bind_assoc, Co.ofExcept_bind, funext hk]
    rfl
  rw [heq, delivery_decoded]
  refine ofUnary_bind (fun x s => hentry x.1 x.2 s) (fun a => ?_) s
  rw [respond, hrespond, Co.ofExcept_map]

omit [A2aSdk] in
theorem ofStream_events {π ρ : Type} {context : Context} {params : Except PyException π}
    {convert : Request03 π → Except PyException ρ}
    {g : ρ → ServerCallContext → AsyncGen σ PyException Event}
    {entry : ρ → ServerCallContext → HandlerCall}
    (hentry : ∀ r c s, requestHandler.answer toProtoEvent s (entry r c) =
      .ofStream .ended (((g r c).mapExcept toProtoEvent).run s)) (s : σ) :
    Outcome.ofStream CompatResponse.ended
        ((h.events context params (forwardGen convert g compatStreamingResponse)).run s) =
      (requestHandler.answerTo toProtoEvent
        (h.delivery context (decoded params convert entry)) s).andThen respond := by
  have heq : (h.events context params (forwardGen convert g compatStreamingResponse)).run s =
      (AsyncGen.awaitThen (h.convertRequest context params convert) fun x =>
        (g x.1 x.2).mapExcept toProtoEvent).run s := by
    rw [events_forwardGen]
    unfold convertRequest
    rw [AsyncGen.run_awaitThen, AsyncGen.run_awaitThen, Co.run_bind]
    rcases (h.prepare context params).run s with ⟨_ | ⟨request, serverContext⟩, s'⟩
    · rfl
    · dsimp only
      rw [AsyncGen.run_awaitThen, Co.run_bind]
      cases convert request <;> rfl
  rw [heq, delivery_decoded]
  have hrespond : (respond .ended : Co σ PyException CompatResponse) = pure .ended := rfl
  exact ofStream_awaitThen (fun x s => hentry x.1 x.2 s) hrespond s

omit [A2aSdk] in
/-- **A call of version 0.3 is a delivery, the request handler's answer, and its conversion.** -/
theorem attempt_eq {context : Context} {call : CompatCall}
    (hforwards : h.handler03 = RequestHandler03.forwarding requestHandler)
    {request : Except PyException (ServerCallContext → HandlerCall)}
    (hrequest : call.handlerCall = some request) (s : σ) :
    h.attempt context s call =
      (requestHandler.answerTo toProtoEvent (h.delivery context request) s).andThen respond := by
  cases call with
  | sendMessage r =>
      cases hrequest
      simp only [attempt, hforwards]
      refine ofUnary_withRequest (fun _ _ _ => rfl) (fun result => ?_) (fun _ => rfl) s
      cases result with
      | task task => exact (Co.ofExcept_map (Conversions03.toProtoTask task) _).symm
      | message message => exact (Co.ofExcept_map (Conversions03.toProtoMessage message) _).symm
  | sendStreamingMessage r =>
      cases hrequest
      simp only [attempt, hforwards]
      exact ofStream_events (fun _ _ _ => rfl) s
  | getTask r =>
      cases hrequest
      simp only [attempt, hforwards]
      exact ofUnary_withRequest (fun _ _ _ => rfl) (fun _ => rfl) (fun _ => rfl) s
  | cancelTask r =>
      cases hrequest
      simp only [attempt, hforwards]
      exact ofUnary_withRequest (fun _ _ _ => rfl) (fun _ => rfl) (fun _ => rfl) s
  | taskSubscription r =>
      cases hrequest
      simp only [attempt, hforwards]
      exact ofStream_events (fun _ _ _ => rfl) s
  | createTaskPushNotificationConfig r =>
      cases hrequest
      simp only [attempt, hforwards]
      exact ofUnary_withRequest (fun _ _ _ => rfl) (fun _ => rfl) (fun _ => rfl) s
  | getTaskPushNotificationConfig r =>
      cases hrequest
      simp only [attempt, hforwards]
      exact ofUnary_withRequest (fun _ _ _ => rfl) (fun _ => rfl) (fun _ => rfl) s
  | listTaskPushNotificationConfig r =>
      cases hrequest
      simp only [attempt, hforwards]
      have hk (configs : List Types03.TaskPushNotificationConfig) :
          (do
            return ⟨← Co.ofExcept
              (configs.mapM Conversions03.toProtoTaskPushNotificationConfig)⟩ :
            Co σ PyException V03.ListTaskPushNotificationConfigResponse) =
          Co.ofExcept (toProtoConfigs configs) := (Co.ofExcept_map _ _).symm
      exact ofUnary_withRequest (fun _ _ _ => rfl) hk (fun _ => rfl) s
  | getAgentCard r => cases hrequest
  | deleteTaskPushNotificationConfig r =>
      cases hrequest
      simp only [attempt, hforwards]
      rw [← Co.bind_pure (h.withRequest context _ _)]
      have hk (u : Unit) : (pure u : Co σ PyException Unit) = Co.ofExcept (.ok u) := rfl
      exact ofUnary_withRequest (fun _ _ _ => rfl) hk (fun _ => rfl) s

/-- The card that is served, which is no answer of the request handler. -/
def servedCard (h : SRPCCompatHandler σ) : Co σ PyException CompatResponse :=
  match h.cardModifier with
  | some cardModifier => cardModifier h.agentCard >>= fun card => respond (.agentCard card)
  | none => respond (.agentCard h.agentCard)

end Compat.SRPCCompatHandler
end v03

end SlimA2a
