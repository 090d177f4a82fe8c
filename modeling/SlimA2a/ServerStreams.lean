import SlimA2a.Concrete
import SlimA2a.Slimrpc

/-! # Server streams

What the four streaming methods yield, and what the generated stream handler sends.

Once the call context and the request are built, a method delivers the events of the request handler
(`DeliversStream`): it yields each of them, converted, and ends as they end, with an A2A error
replaced by the `RpcError` of its class.  The generated handler sends what the method yields and
then makes one terminal call on the sink.  The exception to this is an event stream that ends with
an exception outside of `Exception`, such as a cancellation: `except Exception` does not catch it,
and the handler ends with it without a terminal call. -/

namespace SlimA2a

/-! ### The generated stream handler -/

/-- The sink operation that sends a response. -/
def SinkOp.response {α : Type} [Proto α] (response : α) : SinkOp :=
  .send (Proto.serializeToString response)

/-- A call that ends the stream. -/
def SinkOp.IsTerminal : SinkOp → Prop
  | .send _ => False
  | .close => True
  | .sendError _ => True

/-- The sends, then one terminal call. -/
def EndsOnce (sends ops : List SinkOp) : Prop := ∃ op : SinkOp, op.IsTerminal ∧ ops = sends ++ [op]

theorem not_endsOnce_self (sends : List SinkOp) : ¬ EndsOnce sends sends := by
  rintro ⟨op, -, hops⟩
  have hlength := congrArg List.length hops
  rw [List.length_append, List.length_singleton] at hlength
  omega

theorem foldl_send {α : Type} (f : α → SinkOp) (items : List α) :
    ∀ ops : List SinkOp, items.foldl (fun ops a => ops ++ [f a]) ops = ops ++ items.map f := by
  induction items with
  | nil => exact fun ops => (List.append_nil ops).symm
  | cons a items ih =>
      intro ops
      rw [List.foldl_cons, ih, List.map_cons, List.append_assoc, List.singleton_append]

section handle
variable [A2aSdk] {σ ρ α : Type} [Proto ρ] [Proto α]

/-- What the handler does after it sent the responses, by how the method ended. -/
def finish (state : σ) (ops : List SinkOp) :
    Except PyException Unit → Except PyException Unit × σ × List SinkOp
  | .ok () => (.ok (), state, ops ++ [.close])
  | .error e =>
      match rpcErrorOf e with
      | some r => (.ok (), state, ops ++ [.sendError r])
      | none => (.error e, state, ops)

omit [A2aSdk] [Proto ρ] in
/-- The loop over a generator sends each of its items. -/
theorem run_forEach_send (g : AsyncGen σ PyException α) (s : σ) (ops : List SinkOp) :
    (g.onFst.forEach fun response =>
      (recordingSink.sendAsync (Proto.serializeToString response)).onSnd).run (s, ops) =
        ((g.run s).result, (g.run s).state, ops ++ (g.run s).items.map SinkOp.response) := by
  rw [← foldl_send]
  exact AsyncGen.run_forEach_onSnd (fun (a : α) (ops : List SinkOp) => ops ++ [SinkOp.response a])
    g s ops

/-- The handler sends what the method yields, in order, and then finishes. -/
theorem run_handle (method : ρ → Context → AsyncGen σ PyException α) (request : ρ)
    (context : Context) (s : σ) (ops : List SinkOp) :
    (UnaryStreamHandler.handle method (Proto.serializeToString request) context recordingSink).run
        (s, ops) =
      finish ((method request context).run s).state
        (ops ++ ((method request context).run s).items.map SinkOp.response)
        ((method request context).run s).result := by
  have hforEach := run_forEach_send (method request context) s ops
  have hbody : (do
      let requestMsg ← Co.ofExcept (Proto.fromString (Proto.serializeToString request))
      (method requestMsg context).onFst.forEach fun response =>
        (recordingSink.sendAsync (Proto.serializeToString response)).onSnd
      recordingSink.closeAsync.onSnd : Co (σ × List SinkOp) PyException Unit).run (s, ops) =
        (do
          (method request context).onFst.forEach fun response =>
            (recordingSink.sendAsync (Proto.serializeToString response)).onSnd
          recordingSink.closeAsync.onSnd : Co (σ × List SinkOp) PyException Unit).run (s, ops) := by
    rw [Proto.fromString_serializeToString]
    rfl
  unfold UnaryStreamHandler.handle
  rw [Co.run_tryExcept, hbody]
  cases hresult : ((method request context).run s).result with
  | ok u =>
      rw [hresult] at hforEach
      rw [Co.run_bind_ok hforEach]
      rfl
  | error e =>
      rw [hresult] at hforEach
      rw [Co.run_bind_error hforEach]
      unfold finish
      dsimp only
      cases rpcErrorOf e <;> rfl

/-! ### Relaying -/

/-- What a streaming method and the handler around it do with the events of the request handler. -/
structure DeliversStream (code : A2AErrorType → Option RpcCode) (convert : Event → α)
    (method : ρ → Context → AsyncGen σ PyException α) (request : ρ) (context : Context) (s : σ)
    (events : Emission σ PyException Event) : Prop where
  items : ((method request context).run s).items = events.items.map convert
  ended : events.result = .ok () → ((method request context).run s).result = .ok ()
  failed : ∀ e, events.result = .error (.a2a e) →
    ∃ r, ((method request context).run s).result = .error (.rpc r) ∧
      r.code = (code e.type).getD .unknown
  other : ∀ e, events.result = .error e → (∀ a, e ≠ .a2a a) →
    ((method request context).run s).result = .error e
  /-- The events ended: one send for each of them, then `close`. -/
  closed : events.result = .ok () → ∀ ops,
    (UnaryStreamHandler.handle method (Proto.serializeToString request) context recordingSink).run
        (s, ops) =
      (.ok (), events.state, ops ++ events.items.map (.response ∘ convert) ++ [.close])
  /-- They ended with an `Exception`: one send for each of them, then an error. -/
  sentError : ∀ e, events.result = .error e → (∀ type, e ≠ .base type) → ∃ r, ∀ ops,
    (UnaryStreamHandler.handle method (Proto.serializeToString request) context recordingSink).run
        (s, ops) =
      (.ok (), events.state, ops ++ events.items.map (.response ∘ convert) ++ [.sendError r])
  /-- They ended with another `BaseException`: the sends, and the handler ends with it. -/
  escaped : ∀ type, events.result = .error (.base type) → ∀ ops,
    (UnaryStreamHandler.handle method (Proto.serializeToString request) context recordingSink).run
        (s, ops) =
      (.error (.base type), events.state, ops ++ events.items.map (.response ∘ convert))
  endsOnce_iff : EndsOnce (events.items.map (.response ∘ convert))
    ((UnaryStreamHandler.handle method (Proto.serializeToString request) context
      recordingSink).run (s, [])).2.2 ↔ ∀ type, events.result ≠ .error (.base type)

/-- A method that relays the events, and reports their A2A error, delivers the stream. -/
theorem deliversStream_of_run {code : A2AErrorType → Option RpcCode}
    {rpcError : A2AError → RpcError}
    (hcode : ∀ e, (rpcError e).code = (code e.type).getD .unknown) {convert : Event → α}
    {method : ρ → Context → AsyncGen σ PyException α} {request : ρ} {context : Context} {s : σ}
    {events : Emission σ PyException Event}
    (hrun : (method request context).run s =
      ⟨events.items.map convert, events.result.mapError (reportWith rpcError), events.state⟩) :
    DeliversStream code convert method request context s events := by
  have hhandle : ∀ ops,
      (UnaryStreamHandler.handle method (Proto.serializeToString request) context
        recordingSink).run (s, ops) =
      finish events.state (ops ++ events.items.map (.response ∘ convert))
        (events.result.mapError (reportWith rpcError)) := by
    intro ops
    rw [run_handle, hrun]
    dsimp only
    rw [List.map_map]
  constructor
  · rw [hrun]
  · intro h
    rw [hrun, h]
    rfl
  · intro e h
    refine ⟨rpcError e, ?_, hcode e⟩
    rw [hrun, h]
    rfl
  · intro e h hnot
    rw [hrun, h]
    cases e with
    | a2a a => exact absurd rfl (hnot a)
    | rpc r => rfl
    | exception type message => rfl
    | base type => rfl
  · intro h ops
    rw [hhandle, h]
    rfl
  · intro e h hnot
    cases e with
    | a2a a => exact ⟨rpcError a, fun ops => by rw [hhandle, h]; rfl⟩
    | rpc r => exact ⟨r, fun ops => by rw [hhandle, h]; rfl⟩
    | exception type message => exact ⟨_, fun ops => by rw [hhandle, h]; rfl⟩
    | base type => exact absurd rfl (hnot type)
  · intro type h ops
    rw [hhandle, h]
    rfl
  · rw [hhandle, List.nil_append]
    cases hresult : events.result with
    | ok u => exact ⟨fun _ _ => nofun, fun _ => ⟨.close, trivial, rfl⟩⟩
    | error e =>
        cases e with
        | a2a a => exact ⟨fun _ _ => nofun, fun _ => ⟨.sendError (rpcError a), trivial, rfl⟩⟩
        | rpc r => exact ⟨fun _ _ => nofun, fun _ => ⟨.sendError r, trivial, rfl⟩⟩
        | exception type message => exact ⟨fun _ _ => nofun, fun _ => ⟨.sendError _, trivial, rfl⟩⟩
        | base type =>
            constructor
            · exact fun h => absurd h (not_endsOnce_self _)
            · exact fun h => absurd rfl (h type)

end handle

/-! ### The four methods -/

section methods
variable [A2aSdk] [CompatSdk] {σ : Type}

omit [CompatSdk] in
theorem run_sendStreamingMessage {h : SRPCHandler σ}
    (hstreaming : h.agentCard.capabilities.streaming = true) {request : SendMessageRequest}
    {context : Context} {s s' : σ} {serverContext : ServerCallContext}
    (hbuild : (h.buildCallContext context request).run s = (.ok serverContext, s')) :
    (h.sendStreamingMessage request context).run s =
      let events := (h.requestHandler.onMessageSendStream request serverContext).run s'
      ⟨events.items.map A2aSdk.toStreamResponse, events.result.mapError report, events.state⟩ := by
  unfold SRPCHandler.sendStreamingMessage
  rw [hstreaming, A2aSdk.validateGen_true, AsyncGen.run_awaitThen_ok hbuild,
    SRPCHandler.run_reportingGen, AsyncGen.run_map]

omit [CompatSdk] in
theorem run_subscribeToTask {h : SRPCHandler σ}
    (hstreaming : h.agentCard.capabilities.streaming = true) {request : SubscribeToTaskRequest}
    {context : Context} {s s' : σ} {serverContext : ServerCallContext}
    (hbuild : (h.buildCallContext context request).run s = (.ok serverContext, s')) :
    (h.subscribeToTask request context).run s =
      let events := (h.requestHandler.onSubscribeToTask request serverContext).run s'
      ⟨events.items.map A2aSdk.toStreamResponse, events.result.mapError report, events.state⟩ := by
  unfold SRPCHandler.subscribeToTask
  rw [hstreaming, A2aSdk.validateGen_true, SRPCHandler.run_reportingGen,
    AsyncGen.run_awaitThen_ok hbuild, AsyncGen.run_map]

omit [A2aSdk] in
/-- A stream of version 0.3, when its events can all be converted. -/
theorem run_streaming {h : Compat.SRPCCompatHandler σ} {π ρ : Type}
    {params : Except PyException π} {convert : Request03 π → Except PyException ρ}
    {call : ρ → ServerCallContext → AsyncGen σ PyException Event} {context : Context} {s s' : σ}
    {request : Request03 π} {serverContext : ServerCallContext} {core : ρ}
    {item : Event → V03.StreamResponse}
    (hprepare : (h.prepare context params).run s = (.ok (request, serverContext), s'))
    (hcore : convert request = .ok core)
    (hitem : ∀ event ∈ ((call core serverContext).run s').items, toProtoEvent event =
      .ok (item event)) :
    (h.streaming context params (forwardGen convert call compatStreamingResponse)).run s =
      let events := (call core serverContext).run s'
      ⟨events.items.map item, events.result.mapError Compat.SRPCCompatHandler.report,
        events.state⟩ := by
  have hevents : (h.events context params (forwardGen convert call compatStreamingResponse)).run s =
      ((call core serverContext).mapExcept toProtoEvent).run s' := by
    rw [Compat.SRPCCompatHandler.events_forwardGen, AsyncGen.run_awaitThen_ok hprepare]
    dsimp only
    rw [hcore, AsyncGen.run_awaitThen_ok (Co.run_ofExcept _ _)]
  show (Compat.SRPCCompatHandler.reportingGen (h.events context params _)).run s = _
  rw [Compat.SRPCCompatHandler.run_reportingGen, hevents, AsyncGen.run_mapExcept_of_forall hitem]

variable [Proto SendMessageRequest] [Proto SubscribeToTaskRequest] [Proto StreamResponse]
  [Proto V03.SendMessageRequest] [Proto V03.TaskSubscriptionRequest] [Proto V03.StreamResponse]

/-- The four streaming methods of the servers of one agent, once the call context and the request
are built. -/
structure StreamsDelivered (h : SRPCHandler σ) (compat : Compat.SRPCCompatHandler σ)
    (requestHandler : RequestHandler σ) : Prop where
  sendStreamingMessage : ∀ request context s serverContext s',
    h.agentCard.capabilities.streaming = true →
    (h.buildCallContext context request).run s = (.ok serverContext, s') →
    DeliversStream slimErrorCodeMap A2aSdk.toStreamResponse h.sendStreamingMessage request context s
      ((requestHandler.onMessageSendStream request serverContext).run s')
  subscribeToTask : ∀ request context s serverContext s',
    h.agentCard.capabilities.streaming = true →
    (h.buildCallContext context request).run s = (.ok serverContext, s') →
    DeliversStream slimErrorCodeMap A2aSdk.toStreamResponse h.subscribeToTask request context s
      ((requestHandler.onSubscribeToTask request serverContext).run s')
  /-- `item` converts the events to v0.3; the conversions raise on none of them. -/
  compatSendStreamingMessage : ∀ request context s request03 serverContext s' core item,
    (compat.prepare context (Conversions03.fromMessageSendParams request)).run s =
      (.ok (request03, serverContext), s') →
    Conversions03.toCoreSendMessageRequest request03 = .ok core →
    (∀ event ∈ ((requestHandler.onMessageSendStream core serverContext).run s').items,
      toProtoEvent event = .ok (item event)) →
    DeliversStream Compat.slimErrorCodeMap item compat.sendStreamingMessage request context
      s ((requestHandler.onMessageSendStream core serverContext).run s')
  taskSubscription : ∀ request context s request03 serverContext s' core item,
    (compat.prepare context (Conversions03.fromTaskIdParams request.name)).run s =
      (.ok (request03, serverContext), s') →
    Conversions03.toCoreSubscribeToTaskRequest request03 = .ok core →
    (∀ event ∈ ((requestHandler.onSubscribeToTask core serverContext).run s').items,
      toProtoEvent event = .ok (item event)) →
    DeliversStream Compat.slimErrorCodeMap item compat.taskSubscription request context
      s ((requestHandler.onSubscribeToTask core serverContext).run s')

/-- **Every event is delivered, and the stream ends once**, unless the events end with an exception
outside of `Exception`. -/
theorem streamsDelivered (agentCard : AgentCard) (requestHandler : RequestHandler σ)
    (contextBuilder : Option (CallContextBuilder σ))
    (cardModifier : Option (AgentCard → Co σ PyException AgentCard)) :
    StreamsDelivered (SRPCHandler.init agentCard requestHandler contextBuilder cardModifier)
      (Compat.SRPCCompatHandler.init agentCard requestHandler contextBuilder cardModifier)
      requestHandler := by
  have hforwards : (Compat.SRPCCompatHandler.init agentCard requestHandler contextBuilder
      cardModifier).handler03 = RequestHandler03.forwarding requestHandler :=
    requestHandler03_eq requestHandler
  have hcode (e : A2AError) : (Compat.slimRPCError e).code =
      (Compat.slimErrorCodeMap e.type).getD .unknown := rfl
  constructor
  · intro request context s serverContext s' hstreaming hbuild
    exact deliversStream_of_run (fun _ => rfl) (run_sendStreamingMessage hstreaming hbuild)
  · intro request context s serverContext s' hstreaming hbuild
    exact deliversStream_of_run (fun _ => rfl) (run_subscribeToTask hstreaming hbuild)
  · intro request context s request03 serverContext s' core item hprepare hcore hitem
    refine deliversStream_of_run hcode ?_
    rw [Compat.SRPCCompatHandler.sendStreamingMessage, hforwards]
    exact run_streaming hprepare hcore hitem
  · intro request context s request03 serverContext s' core item hprepare hcore hitem
    refine deliversStream_of_run hcode ?_
    rw [Compat.SRPCCompatHandler.taskSubscription, hforwards]
    exact run_streaming hprepare hcore hitem

end methods

open scoped Concrete in
/-- Two events of version 1, and streams of version 0.3 that are refused before their first
event. -/
theorem streamsDelivered_counting :
    DeliversStream slimErrorCodeMap A2aSdk.toStreamResponse
        countingServicers.v1.sendStreamingMessage ⟨"", [7]⟩ ⟨some "alice", none, ∅⟩ 0
        ⟨[.task ⟨[7]⟩, .task ⟨[7]⟩], .ok (), 2⟩ ∧
      DeliversStream Compat.slimErrorCodeMap (fun _ => ⟨[]⟩)
        (refusingServicers default ⟨.internalError, "unavailable"⟩).v03.sendStreamingMessage
        ⟨⟨[]⟩, ⟨[]⟩, ⟨[]⟩⟩ ⟨some "alice", none, ∅⟩ ()
        ⟨[], .error (.a2a ⟨.internalError, "unavailable"⟩), ()⟩ ∧
      DeliversStream Compat.slimErrorCodeMap (fun _ => ⟨[]⟩)
        (refusingServicers default ⟨.internalError, "unavailable"⟩).v03.taskSubscription
        ⟨"tasks/t"⟩ ⟨some "alice", none, ∅⟩ ()
        ⟨[], .error (.a2a ⟨.internalError, "unavailable"⟩), ()⟩ :=
  ⟨(streamsDelivered countingServicers.agentCard countingServicers.requestHandler none
      none).sendStreamingMessage ⟨"", [7]⟩ ⟨some "alice", none, ∅⟩ 0 _ _ rfl rfl,
    (streamsDelivered default (.refusing (.a2a ⟨.internalError, "unavailable"⟩)) none
      none).compatSendStreamingMessage ⟨⟨[]⟩, ⟨[]⟩, ⟨[]⟩⟩ ⟨some "alice", none, ∅⟩ () _ _ _ _ _ rfl
      rfl fun _ h => absurd h List.not_mem_nil,
    (streamsDelivered default (.refusing (.a2a ⟨.internalError, "unavailable"⟩)) none
      none).taskSubscription ⟨"tasks/t"⟩ ⟨some "alice", none, ∅⟩ () _ _ _ _ _ rfl rfl
      fun _ h => absurd h List.not_mem_nil⟩

/-- A card with streaming. -/
def streamingCard : AgentCard := { (default : AgentCard) with capabilities := ⟨true, false, false⟩ }

/-- The event stream is cancelled before its first event: the sink gets no terminal call. -/
theorem not_endsOnce_cancelled :
    ¬ EndsOnce [] (((@UnaryStreamHandler.handle Unit (List SinkOp) SendMessageRequest StreamResponse
      SendMessageRequest.codec StreamResponse.codec standardSdk
      (@SRPCHandler.sendStreamingMessage standardSdk Unit
        (@SRPCHandler.init standardSdk Unit streamingCard (.refusing (.base .cancelledError)) none
          none))
      (SendMessageRequest.codec.serializeToString ⟨"", []⟩) ⟨some "alice", none, ∅⟩
      recordingSink).run ((), [])).2.2) := by
  rw [@run_handle standardSdk Unit SendMessageRequest StreamResponse SendMessageRequest.codec
    StreamResponse.codec]
  exact not_endsOnce_self []

end SlimA2a
