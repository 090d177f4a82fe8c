import SlimA2a.Wire

/-! # Version 0.3 on the wire

The client of version 0.3 takes the calls of version 1 and returns their responses.  In between it
sends a call of version 0.3 (`encodeCall`) and converts the response back (`decodeResponse`), the
items of a stream one by one as they arrive.

`SRPCCompatTransport.seesCompatAnswer` states what it gets: the answer of the request handler,
converted twice, from version 1 to version 0.3 by the server and back by the client.  Either
conversion can raise, and a stream ends at the first event that has no form on the other side.  A
call that has no form in version 0.3 fails in the client, and nothing is sent. -/

namespace SlimA2a

/-- Convert the items, up to the first that cannot be converted, and the result. -/
def Outcome.decode {σ ι κ ρ τ : Type} (item : ι → Except PyException κ)
    (respond : ρ → Except PyException τ) (o : Outcome ι ρ σ) : Outcome κ τ σ :=
  let r := AsyncGen.mapUntil item (o.result.bind respond) o.items
  ⟨r.1, r.2, o.state⟩

section decode
variable {σ ι κ ρ τ α β : Type} {item : ι → Except PyException κ}

/-- Two conversions of a result, and a third that cannot fail. -/
theorem ofExcept_bind_map (r : Except PyException α) (f : α → Except PyException β) (g : β → τ) :
    (Co.ofExcept ((r >>= f).map g) : Co σ PyException τ) =
      Co.ofExcept r >>= fun a => Co.ofExcept (f a) >>= fun b => pure (g b) := by
  rw [Co.ofExcept_map, Co.ofExcept_bind, Co.bind_assoc]

/-- A coroutine whose result is converted. -/
theorem ofUnary_bind_ofExcept {m : Co σ PyException α} {k : α → Co σ PyException β}
    {f : α → Except PyException β} {wrap : β → τ} {wrap' : α → ρ}
    {respond : ρ → Except PyException τ} (hk : ∀ a, k a = Co.ofExcept (f a))
    (hrespond : ∀ a, (f a).map wrap = respond (wrap' a)) (s : σ) :
    (Outcome.ofUnary wrap ((m >>= k).run s) : Outcome κ τ σ) =
      (Outcome.ofUnary wrap' (m.run s) : Outcome ι ρ σ).decode item respond := by
  rcases hm : m.run s with ⟨e | a, s'⟩
  · rw [Co.run_bind_error hm]
    rfl
  · rw [Co.run_bind_ok hm, hk, Co.run_ofExcept]
    simp only [Outcome.ofUnary, hrespond]
    rfl

variable {π : Type} [Proto π] [Proto α] {net : Network σ} {channel : Channel}
  {server : Server σ} {peer : RpcCall → Context} {service method : String} {request : π}
  {timeout : Option ℕ} {metadata : Option (Dict String String)} {s : σ}

/-- A stub method whose response is converted. -/
theorem ofUnary_unary_bind [A2aSdk] {k : α → Co σ PyException β} {f : α → Except PyException β}
    {wrap : β → τ} {wrap' : α → ρ} {respond : ρ → Except PyException τ}
    (hreaches : Reaches net channel server peer) {m : π → Context → Co σ PyException α}
    (hlookup : server.lookup (service, method) = some (.ofUnary m))
    (hcompletes : Completes ((m request (peer ⟨service, method, Proto.serializeToString request,
      timeout, metadata⟩)).run s).1)
    (hk : ∀ a, k a = Co.ofExcept (f a)) (hrespond : ∀ a, (f a).map wrap = respond (wrap' a)) :
    (Outcome.ofUnary wrap
        ((unary service method net channel request timeout metadata >>= k).run s) :
        Outcome κ τ σ) =
      ((Outcome.ofUnary wrap' ((m request (peer ⟨service, method, Proto.serializeToString request,
        timeout, metadata⟩)).run s) : Outcome ι ρ σ).mapError wireError).decode item respond := by
  rw [← ofUnary_unary hreaches hlookup hcompletes]
  exact ofUnary_bind_ofExcept hk hrespond s

/-- The same for a conversion in two steps. -/
theorem ofUnary_unary_decode [A2aSdk] {γ : Type} {g : α → Except PyException β}
    {h : β → Except PyException γ} {wrap : γ → τ} {wrap' : α → ρ}
    {respond : ρ → Except PyException τ} (hreaches : Reaches net channel server peer)
    {m : π → Context → Co σ PyException α}
    (hlookup : server.lookup (service, method) = some (.ofUnary m))
    (hcompletes : Completes ((m request (peer ⟨service, method, Proto.serializeToString request,
      timeout, metadata⟩)).run s).1)
    (hrespond : ∀ a, (g a >>= h).map wrap = respond (wrap' a)) :
    (Outcome.ofUnary wrap
        ((unary service method net channel request timeout metadata >>= fun a =>
          Co.ofExcept (g a) >>= fun b => Co.ofExcept (h b)).run s) : Outcome κ τ σ) =
      ((Outcome.ofUnary wrap' ((m request (peer ⟨service, method, Proto.serializeToString request,
        timeout, metadata⟩)).run s) : Outcome ι ρ σ).mapError wireError).decode item respond := by
  exact ofUnary_unary_bind hreaches hlookup hcompletes
    (fun a => (Co.ofExcept_bind (g a) h).symm) hrespond

/-- A response stream whose items are converted. -/
theorem ofStream_mapExcept {call : Co σ PyException (List StreamMessage)} [Proto ι] {ended : τ}
    {ended' : ρ} {respond : ρ → Except PyException τ} (hrespond : respond ended' = .ok ended)
    (s : σ) :
    Outcome.ofStream ended (((AsyncGen.awaitThen call readStream).mapExcept item).run s) =
      (Outcome.ofStream ended' ((AsyncGen.awaitThen call readStream :
        AsyncGen σ PyException ι).run s)).decode item respond := by
  have hresult (r : Except PyException Unit) :
      (r.map fun _ => ended').bind respond = r.map fun _ => ended := by
    cases r with
    | ok u => exact hrespond
    | error e => rfl
  rw [AsyncGen.mapExcept_awaitThen, AsyncGen.run_awaitThen, AsyncGen.run_awaitThen]
  rcases call.run s with ⟨e | messages, s'⟩
  · rfl
  · have hquiet : (readStream messages : AsyncGen σ PyException ι).Quiet :=
      quiet_readStream messages
    unfold Outcome.decode Outcome.ofStream
    dsimp only
    rw [hquiet.run_mapExcept, hquiet.state_run, hresult, AsyncGen.mapUntil_result]

/-- A stub method that yields a stream, whose items are converted. -/
theorem ofStream_unaryStream_decode [A2aSdk] [Proto ι] {ended : τ} {ended' : ρ}
    {respond : ρ → Except PyException τ} (hreaches : Reaches net channel server peer)
    {m : π → Context → AsyncGen σ PyException ι}
    (hlookup : server.lookup (service, method) = some (.ofStream m))
    (hcompletes : Completes ((m request (peer ⟨service, method, Proto.serializeToString request,
      timeout, metadata⟩)).run s).result)
    (hrespond : respond ended' = .ok ended) :
    Outcome.ofStream ended
        (((unaryStream service method net channel request timeout metadata).mapExcept item).run s) =
      ((Outcome.ofStream ended' ((m request (peer ⟨service, method,
        Proto.serializeToString request, timeout, metadata⟩)).run s)).mapError wireError).decode
          item respond := by
  rw [← ofStream_unaryStream hreaches hlookup hcompletes]
  exact ofStream_mapExcept hrespond s

end decode

namespace Compat

/-! ### The calls -/

section calls
variable [A2aSdk] [CompatSdk]

/-- The call of version 0.3 that the client sends for a call of version 1. -/
def encodeCall : Call → Except PyException CompatCall
  | .sendMessage r => (SRPCCompatTransport.sendMessageRequest r).map .sendMessage
  | .sendStreamingMessage r => (SRPCCompatTransport.sendMessageRequest r).map .sendStreamingMessage
  | .cancelTask r => .ok (.cancelTask ⟨taskName r.id⟩)
  | .subscribeToTask r => .ok (.taskSubscription ⟨taskName r.id⟩)
  | .getTask r => .ok (.getTask ⟨taskName r.id, r.historyLength.getD 0⟩)
  | .listTasks _ =>
      .error (.exception .notImplementedError "ListTasks is not supported in A2A v0.3 SlimRPC.")
  | .getTaskPushNotificationConfig r =>
      .ok (.getTaskPushNotificationConfig ⟨taskPushConfigName r.taskId r.id⟩)
  | .createTaskPushNotificationConfig r =>
      (SRPCCompatTransport.createTaskPushNotificationConfigRequest r).map
        .createTaskPushNotificationConfig
  | .listTaskPushNotificationConfigs r => .ok (.listTaskPushNotificationConfig ⟨taskName r.taskId⟩)
  | .deleteTaskPushNotificationConfig r =>
      .ok (.deleteTaskPushNotificationConfig ⟨taskPushConfigName r.taskId r.id⟩)
  | .getExtendedAgentCard _ => .ok (.getAgentCard ⟨⟩)

/-- A task or a message of version 0.3 as one of version 1. -/
def taskOrMessageResponse : V03.SendMessageResponse → Except PyException SendMessageResponse
  | .task task => (Conversions03.fromTask task >>= Conversions03.toCoreTask).map .task
  | .msg message => (Conversions03.fromMessage message >>= Conversions03.toCoreMessage).map .message
  | .unset => .ok .unset

/-- The response of version 1 that the client makes of a response. -/
def decodeResponse : CompatResponse → Except PyException Response
  | .sendMessageResponse response => (taskOrMessageResponse response).map .sendMessageResponse
  | .task task => (Conversions03.fromTask task >>= Conversions03.toCoreTask).map .task
  | .taskPushNotificationConfig config =>
      (Conversions03.fromTaskPushNotificationConfig config >>=
        Conversions03.toCoreTaskPushNotificationConfig).map .taskPushNotificationConfig
  | .listTaskPushNotificationConfigResponse configs =>
      (Conversions03.fromListTaskPushNotificationConfigResponse configs >>=
        Conversions03.toCoreListTaskPushNotificationConfigResponse).map
        .listTaskPushNotificationConfigsResponse
  | .agentCard card =>
      (Conversions03.fromAgentCard card >>= Conversions03.toCoreAgentCard).map .agentCard
  | .empty => .ok .empty
  | .ended => .ok .ended

end calls

section wire
variable [A2aSdk] [CompatSdk]
  [Proto V03.SendMessageRequest] [Proto V03.SendMessageResponse] [Proto V03.StreamResponse]
  [Proto V03.GetTaskRequest] [Proto V03.Task] [Proto V03.CancelTaskRequest]
  [Proto V03.TaskSubscriptionRequest] [Proto V03.CreateTaskPushNotificationConfigRequest]
  [Proto V03.TaskPushNotificationConfig] [Proto V03.GetTaskPushNotificationConfigRequest]
  [Proto V03.ListTaskPushNotificationConfigRequest]
  [Proto V03.ListTaskPushNotificationConfigResponse] [Proto V03.GetAgentCardRequest]
  [Proto V03.AgentCard] [Proto V03.DeleteTaskPushNotificationConfigRequest] [Proto Empty]
  {σ : Type}

/-- The request of a call, as it is sent. -/
def CompatCall.bytes : CompatCall → Bytes
  | sendMessage r => Proto.serializeToString r
  | sendStreamingMessage r => Proto.serializeToString r
  | getTask r => Proto.serializeToString r
  | cancelTask r => Proto.serializeToString r
  | taskSubscription r => Proto.serializeToString r
  | createTaskPushNotificationConfig r => Proto.serializeToString r
  | getTaskPushNotificationConfig r => Proto.serializeToString r
  | listTaskPushNotificationConfig r => Proto.serializeToString r
  | getAgentCard r => Proto.serializeToString r
  | deleteTaskPushNotificationConfig r => Proto.serializeToString r

/-- The call on the network that carries a call of version 0.3. -/
def CompatCall.rpcCall (context : Option ClientCallContext) (call : CompatCall) : RpcCall :=
  ⟨a2aService, call.name, call.bytes, none, some (SRPCCompatTransport.getMetadata context)⟩

namespace SRPCCompatTransport
variable (t : SRPCCompatTransport) (net : Network σ) (context : Option ClientCallContext) (s : σ)

/-- A call of the client, in the world `s`. -/
def request : Call → Outcome StreamResponse Response σ
  | .sendMessage r => .ofUnary .sendMessageResponse ((t.sendMessage net r context).run s)
  | .sendStreamingMessage r => .ofStream .ended ((t.sendMessageStreaming net r context).run s)
  | .cancelTask r => .ofUnary .task ((t.cancelTask net r context).run s)
  | .subscribeToTask r => .ofStream .ended ((t.subscribe net r context).run s)
  | .getTask r => .ofUnary .task ((t.getTask net r context).run s)
  | .listTasks r => .ofUnary .listTasksResponse ((listTasks r context).run s)
  | .getTaskPushNotificationConfig r =>
      .ofUnary .taskPushNotificationConfig ((t.getTaskPushNotificationConfig net r context).run s)
  | .createTaskPushNotificationConfig r =>
      .ofUnary .taskPushNotificationConfig
        ((t.createTaskPushNotificationConfig net r context).run s)
  | .listTaskPushNotificationConfigs r =>
      .ofUnary .listTaskPushNotificationConfigsResponse
        ((t.listTaskPushNotificationConfigs net r context).run s)
  | .deleteTaskPushNotificationConfig r =>
      .ofUnary (fun _ => .empty) ((t.deleteTaskPushNotificationConfig net r context).run s)
  | .getExtendedAgentCard r =>
      .ofUnary (fun x => .agentCard x.1) ((t.getExtendedAgentCard net r context).run s)

variable {t net context s} {server : Server σ} {servicer : SRPCCompatHandler σ}
  {peer : RpcCall → Context} {call : Call}

/-- What a client sees of a call is what the servicer's method does, converted. -/
theorem request_eq_serve {compatCall : CompatCall} (hreaches : Reaches net t.channel server peer)
    (hserves : Serves server servicer) (hcall : encodeCall call = .ok compatCall)
    (hcompletes : Completes (servicer.serve (peer (compatCall.rpcCall context)) s
      compatCall).result) :
    t.request net context s call =
      ((servicer.serve (peer (compatCall.rpcCall context)) s compatCall).mapError
        wireError).decode streamResponse decodeResponse := by
  cases call with
  | sendMessage r =>
      cases hr : sendMessageRequest r with
      | error e => rw [encodeCall, hr] at hcall; cases hcall
      | ok reqProto =>
          rw [encodeCall, hr] at hcall
          cases hcall
          rw [request, sendMessage, hr, Co.run_bind_ok (Co.run_ofExcept (Except.ok reqProto) s)]
          refine ofUnary_unary_bind hreaches (hserves (.sendMessage reqProto))
            (completes_map_iff.mp hcompletes) (fun response => ?_) fun response => rfl
          cases response with
          | unset => rfl
          | task task => exact (ofExcept_bind_map (Conversions03.fromTask task) _ _).symm
          | msg message => exact (ofExcept_bind_map (Conversions03.fromMessage message) _ _).symm
  | sendStreamingMessage r =>
      cases hr : sendMessageRequest r with
      | error e => rw [encodeCall, hr] at hcall; cases hcall
      | ok reqProto =>
          rw [encodeCall, hr] at hcall
          cases hcall
          rw [request, sendMessageStreaming, hr,
            AsyncGen.run_awaitThen_ok (Co.run_ofExcept (Except.ok reqProto) s)]
          exact ofStream_unaryStream_decode hreaches (hserves (.sendStreamingMessage reqProto))
            (completes_map_iff.mp hcompletes) rfl
  | cancelTask r =>
      cases hcall
      exact ofUnary_unary_decode hreaches (hserves (.cancelTask ⟨taskName r.id⟩))
        (completes_map_iff.mp hcompletes) fun task => rfl
  | subscribeToTask r =>
      cases hcall
      exact ofStream_unaryStream_decode hreaches (hserves (.taskSubscription ⟨taskName r.id⟩))
        (completes_map_iff.mp hcompletes) rfl
  | getTask r =>
      cases hcall
      exact ofUnary_unary_decode hreaches
        (hserves (.getTask ⟨taskName r.id, r.historyLength.getD 0⟩))
        (completes_map_iff.mp hcompletes) fun task => rfl
  | listTasks r => cases hcall
  | getTaskPushNotificationConfig r =>
      cases hcall
      exact ofUnary_unary_decode hreaches
        (hserves (.getTaskPushNotificationConfig ⟨taskPushConfigName r.taskId r.id⟩))
        (completes_map_iff.mp hcompletes) fun config => rfl
  | createTaskPushNotificationConfig r =>
      cases hr : createTaskPushNotificationConfigRequest r with
      | error e => rw [encodeCall, hr] at hcall; cases hcall
      | ok reqProto =>
          rw [encodeCall, hr] at hcall
          cases hcall
          rw [request, createTaskPushNotificationConfig, hr,
            Co.run_bind_ok (Co.run_ofExcept (Except.ok reqProto) s)]
          exact ofUnary_unary_decode hreaches (hserves (.createTaskPushNotificationConfig reqProto))
            (completes_map_iff.mp hcompletes) fun config => rfl
  | listTaskPushNotificationConfigs r =>
      cases hcall
      exact ofUnary_unary_decode hreaches
        (hserves (.listTaskPushNotificationConfig ⟨taskName r.taskId⟩))
        (completes_map_iff.mp hcompletes) fun configs => rfl
  | deleteTaskPushNotificationConfig r =>
      cases hcall
      have hunit (_ : Empty) : (pure () : Co σ PyException Unit) = Co.ofExcept (.ok ()) := rfl
      exact ofUnary_unary_bind hreaches
        (hserves (.deleteTaskPushNotificationConfig ⟨taskPushConfigName r.taskId r.id⟩))
        (completes_map_iff.mp hcompletes) hunit fun _ => rfl
  | getExtendedAgentCard r =>
      cases hcall
      refine ofUnary_unary_bind hreaches (hserves (.getAgentCard ⟨⟩))
        (completes_map_iff.mp hcompletes)
        (fun card => (ofExcept_bind_map (Conversions03.fromAgentCard card) _ _).symm) fun card => ?_
      show Except.map _ (Except.map _ _) = Except.map _ _
      cases (Conversions03.fromAgentCard card >>= Conversions03.toCoreAgentCard) <;> rfl

variable {requestHandler : RequestHandler σ} {card : AgentCard}
  {contextBuilder : Option (CallContextBuilder σ)}
  {cardModifier : Option (AgentCard → Co σ PyException AgentCard)}

/-- What a client of version 0.3 sees of a call. -/
structure SeesAnswer (t : SRPCCompatTransport) (servicer : SRPCCompatHandler σ)
    (requestHandler : RequestHandler σ) (net : Network σ) (peer : RpcCall → Context)
    (context : Option ClientCallContext) (s : σ) (call : Call) : Prop where
  /-- Nothing is sent for a call that has no form in version 0.3. -/
  unsent : ∀ e, encodeCall call = .error e → t.request net context s call = ⟨[], .error e, s⟩
  /-- The answer of the request handler to the call that is delivered, converted twice, its events
  up to the first that cannot be.  An A2A error arrives with the code of its class. -/
  answered : ∀ compatCall delivered, encodeCall call = .ok compatCall →
    compatCall.handlerCall = some delivered →
    t.request net context s call =
      (((requestHandler.answerTo toProtoEvent
        (servicer.delivery (peer (compatCall.rpcCall context)) delivered) s).andThen
          SRPCCompatHandler.respond).mapError (wireError ∘ SRPCCompatHandler.report)).decode
            streamResponse decodeResponse
  /-- The card is the servicer's own, from the card modifier and converted, and no call of the
  request handler.  No `try` block stands around it. -/
  card : ∀ r, call = .getExtendedAgentCard r →
    t.request net context s call =
      ((Outcome.ofUnary id (servicer.servedCard.run s) :
        Outcome V03.StreamResponse CompatResponse σ).mapError wireError).decode streamResponse
          decodeResponse

end SRPCCompatTransport
end wire

/-! ### A call over the wire -/

section concrete
open scoped Concrete

end concrete
end Compat
end SlimA2a
