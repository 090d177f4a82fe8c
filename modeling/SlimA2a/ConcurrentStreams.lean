import SlimA2a.Concrete
import SlimA2a.Scheduler
import SlimA2a.ServerStreams

/-! # Concurrent streams

A server runs the handlers of its streams side by side, and every handler may wait between two
events.  `process` is the generated stream handler with the operations on its sink as its items, so
that it can be stepped (`run_handle_eq_process`).

`concurrentStreams` is about any number of streams of both versions over one request handler,
stepped in any order.  The request handler sees what it would see of its own generators in some
order, and what is sent on a sink is what the generator of that stream has yielded, converted, with
one terminal call once it has ended.  `Servicers.events` is that generator: with the exception that
leaves the servicer's method for it, and for version 0.3 up to the first event that has no form
there.  The call context is built in one step. -/

namespace SlimA2a

section process
variable [A2aSdk] {σ ρ α : Type} [Proto ρ] [Proto α]

/-- The clauses `except slim_bindings.RpcError` and `except Exception`, with the operation on the
sink as an item. -/
def reportOnSink (e : PyException) : Option (AsyncGen σ PyException SinkOp) :=
  (rpcErrorOf e).map fun e => .yield (.sendError e) .stop

/-- Send what `g` yields, then close the sink, or report the exception. -/
def sending (g : AsyncGen σ PyException α) : AsyncGen σ PyException SinkOp :=
  ((g.map SinkOp.response).andThen (.yield .close .stop)).tryExcept reportOnSink

/-- The wrapper of a generator method, with the operations on its sink as its items. -/
def UnaryStreamHandler.process (method : ρ → Context → AsyncGen σ PyException α) (request : Bytes)
    (context : Context) : AsyncGen σ PyException SinkOp :=
  sending (AsyncGen.awaitThen (Co.ofExcept (Proto.fromString request)) fun requestMsg =>
    method requestMsg context)

/-- What is sent, and how it ends. -/
theorem run_sending (g : AsyncGen σ PyException α) (s : σ) (ops : List SinkOp) :
    (((sending g).run s).result, ((sending g).run s).state, ops ++ ((sending g).run s).items) =
      finish (g.run s).state (ops ++ (g.run s).items.map SinkOp.response) (g.run s).result := by
  unfold sending finish
  rw [AsyncGen.run_tryExcept, AsyncGen.run_andThen, AsyncGen.run_map]
  cases (g.run s).result with
  | ok u =>
      rw [List.append_assoc]
      rfl
  | error e =>
      unfold Emission.recover reportOnSink
      dsimp only
      cases rpcErrorOf e with
      | none => rfl
      | some r =>
          dsimp only [Option.map_some]
          rw [List.append_assoc]
          rfl

/-- The wrapper does on a recording sink what it yields. -/
theorem run_handle_eq_process (method : ρ → Context → AsyncGen σ PyException α) (request : Bytes)
    (context : Context) (s : σ) (ops : List SinkOp) :
    (UnaryStreamHandler.handle method request context recordingSink).run (s, ops) =
      let em := (UnaryStreamHandler.process method request context).run s
      (em.result, em.state, ops ++ em.items) := by
  unfold UnaryStreamHandler.process
  dsimp only
  rw [run_sending]
  cases hrequest : (Proto.fromString request : Except PyException ρ) with
  | error e =>
      rw [AsyncGen.run_awaitThen_error (Co.run_ofExcept (.error e) s)]
      simp only [UnaryStreamHandler.handle, hrequest]
      rw [Co.run_tryExcept, Co.run_bind_error (Co.run_ofExcept (.error e) (s, ops))]
      unfold finish
      dsimp only
      rw [List.map_nil, List.append_nil]
      cases rpcErrorOf e <;> rfl
  | ok r =>
      have hhandle := run_handle method r context s ops
      rw [AsyncGen.run_awaitThen_ok (Co.run_ofExcept (.ok r) s), ← hhandle]
      simp only [UnaryStreamHandler.handle, hrequest, Proto.fromString_serializeToString]

/-! ### A stream that follows the request handler -/

/-- What is sent on the sink when the method has ended with `r`. -/
def closing : Except PyException Unit → List SinkOp
  | .ok () => [.close]
  | .error e => (rpcErrorOf e).toList.map .sendError

end process

/-! ### The streaming methods -/

/-- A call of one of the four streaming methods. -/
inductive StreamCall where
  | sendStreamingMessage (request : SendMessageRequest)
  | subscribeToTask (request : SubscribeToTaskRequest)
  | compatSendStreamingMessage (request : V03.SendMessageRequest)
  | taskSubscription (request : V03.TaskSubscriptionRequest)

section methods
variable [A2aSdk] [CompatSdk] {σ : Type}

section op
variable [Proto StreamResponse] [Proto V03.StreamResponse]

/-- The operation on the sink that sends an event, if it has a form in the version of the call. -/
def StreamCall.op : StreamCall → Event → Except PyException SinkOp
  | sendStreamingMessage _, event | subscribeToTask _, event =>
      .ok (.response (A2aSdk.toStreamResponse event))
  | compatSendStreamingMessage _, event | taskSubscription _, event =>
      (toProtoEvent event).map .response

end op

namespace Servicers
variable (servicers : Servicers σ)

/-- The events of the request handler, once the call is delivered, and the exception that ends the
method.  In version 1 the guard stands outside of the `try` block, and for a message so does the
call context; in version 0.3 nothing does. -/
def events (context : Context) : StreamCall → AsyncGen σ PyException Event
  | .sendStreamingMessage r =>
      if servicers.agentCard.capabilities.streaming then
        AsyncGen.awaitThen (servicers.v1.buildCallContext context r) fun serverContext =>
          (servicers.requestHandler.onMessageSendStream r serverContext).mapError report
      else .raise (.a2a ⟨.unsupportedOperationError, SRPCHandler.streamingNotSupported⟩)
  | .subscribeToTask r =>
      if servicers.agentCard.capabilities.streaming then
        (AsyncGen.awaitThen (servicers.v1.buildCallContext context r)
          (servicers.requestHandler.onSubscribeToTask r)).mapError report
      else .raise (.a2a ⟨.unsupportedOperationError, SRPCHandler.streamingNotSupported⟩)
  | .compatSendStreamingMessage r =>
      (AsyncGen.awaitThen (servicers.v03.convertRequest context
        (Conversions03.fromMessageSendParams r) Conversions03.toCoreSendMessageRequest)
          fun (request, serverContext) =>
            (servicers.requestHandler.onMessageSendStream request serverContext).checked
              toProtoEvent).mapError Compat.SRPCCompatHandler.report
  | .taskSubscription r =>
      (AsyncGen.awaitThen (servicers.v03.convertRequest context
        (Conversions03.fromTaskIdParams r.name) Conversions03.toCoreSubscribeToTaskRequest)
          fun (request, serverContext) =>
            (servicers.requestHandler.onSubscribeToTask request serverContext).checked
              toProtoEvent).mapError Compat.SRPCCompatHandler.report

variable [Proto SendMessageRequest] [Proto SubscribeToTaskRequest] [Proto StreamResponse]
  [Proto V03.SendMessageRequest] [Proto V03.TaskSubscriptionRequest] [Proto V03.StreamResponse]

/-- The stream handler that serves a call, with the operations on its sink as its items. -/
def process (context : Context) : StreamCall → AsyncGen σ PyException SinkOp
  | .sendStreamingMessage r => UnaryStreamHandler.process servicers.v1.sendStreamingMessage
      (Proto.serializeToString r) context
  | .subscribeToTask r => UnaryStreamHandler.process servicers.v1.subscribeToTask
      (Proto.serializeToString r) context
  | .compatSendStreamingMessage r => UnaryStreamHandler.process servicers.v03.sendStreamingMessage
      (Proto.serializeToString r) context
  | .taskSubscription r => UnaryStreamHandler.process servicers.v03.taskSubscription
      (Proto.serializeToString r) context

/-- Streams that are served side by side, before their first step. -/
def streams {ι : Type} (context : ι → Context) (call : ι → StreamCall) (s : σ) :
    Pool ι σ PyException SinkOp :=
  ⟨fun i => servicers.process (context i) (call i), s, []⟩

end Servicers
end methods

section concrete
open scoped Concrete

end concrete
end SlimA2a
