import SlimA2a.ClientTransport
import SlimA2a.Interleaving
import SlimA2a.ServerStreams

/-! # Multicast

A request to a group passes through four layers on its way back: each agent's server wraps its
answer (`SRPCHandler.sendMessage`) and encodes it (`UnaryUnaryHandler.handle`), the group stub
decodes what the reader delivers, and the transport and the client pass it on, the client in a
message of another type.

A `Group` lists the agents and the source under which the reader names each of them.  How the
replies reach the reader is an `Arrival` for a call with one reply per agent, and a `StreamArrival`
for a call with a stream per agent; both leave the order between the agents open. -/

namespace SlimA2a

/-! ### Groups -/

/-- An agent of a group: its server, the session under which it sees the caller, and its world. -/
structure GroupAgent where
  World : Type
  handler : SRPCHandler World
  peer : Context
  state : World

/-- A group of agents, and the sources that identify them. -/
structure Group (ι : Type) where
  agent : ι → GroupAgent
  source : ι → Context
  source_injective : Function.Injective source

/-- The answer as `SRPCHandler.sendMessage` returns it. -/
def TaskOrMessage.response : TaskOrMessage → SendMessageResponse
  | task t => .task t
  | message m => .message m

/-- The same content in a `StreamResponse`. -/
def TaskOrMessage.streamResponse : TaskOrMessage → StreamResponse
  | task t => .task t
  | message m => .message m

theorem wrapResponse_response (x : TaskOrMessage) :
    MulticastClient.wrapResponse x.response = x.streamResponse := by
  cases x <;> rfl

/-- How an outcome of an agent is delivered: a reply with its source, an error as an error. -/
def Delivered (source : Context) : Except PyException Bytes → MulticastMessage → Prop
  | .ok bytes, item => item = .data source bytes
  | .error (.rpc e), item => item = .error e
  | .error _, item => ∃ e, item = .error e

section unary
variable [A2aSdk] [Proto SendMessageRequest] [Proto SendMessageResponse]

namespace GroupAgent
variable (a : GroupAgent)

/-- What the agent's request handler answers. -/
def answer (request : SendMessageRequest) : Except PyException TaskOrMessage :=
  ((a.handler.withContext a.peer request a.handler.requestHandler.onMessageSend).run a.state).1

/-- What the agent's server makes of an encoded request. -/
def reply (request : Bytes) : Except PyException Bytes :=
  ((UnaryUnaryHandler.handle a.handler.sendMessage request a.peer).run a.state).1

/-- The request handler returns a task or a message. -/
def succeeds (request : SendMessageRequest) : Bool := (a.answer request).isOk

end GroupAgent

/-- How the outcomes of a group's agents reach the reader: each once, in any order, and then the
end. -/
structure Arrival {ι : Type} (group : Group ι) (request : SendMessageRequest) where
  order : List ι
  nodup : order.Nodup
  complete : ∀ i, i ∈ order
  item : ι → MulticastMessage
  delivered : ∀ i, Delivered (group.source i)
    ((group.agent i).reply (Proto.serializeToString request)) (item i)

/-- What the reader returns. -/
def Arrival.items {ι : Type} {group : Group ι} {request : SendMessageRequest}
    (arrival : Arrival group request) : List MulticastMessage :=
  arrival.order.map arrival.item ++ [.end]

/-! ### One reply -/

omit [Proto SendMessageRequest] [Proto SendMessageResponse] in
theorem fst_run_sendMessage {σ : Type} (h : SRPCHandler σ) (request : SendMessageRequest)
    (context : Context) (s : σ) :
    ((h.sendMessage request context).run s).1 =
      ((((h.withContext context request h.requestHandler.onMessageSend).run s).1.map
        TaskOrMessage.response).mapError report) := by
  unfold SRPCHandler.sendMessage
  rw [SRPCHandler.run_reporting, Co.run_bind]
  rcases (h.withContext context request h.requestHandler.onMessageSend).run s with ⟨e | x, s'⟩
  · rfl
  · cases x <;> rfl

theorem fst_run_handle {σ : Type}
    (method : SendMessageRequest → Context → Co σ PyException SendMessageResponse)
    (request : SendMessageRequest) (context : Context) (s : σ) :
    ((UnaryUnaryHandler.handle method (Proto.serializeToString request) context).run s).1 =
      match ((method request context).run s).1 with
      | .ok response => .ok (Proto.serializeToString response)
      | .error e =>
          match rpcErrorOf e with
          | some r => .error (.rpc r)
          | none => .error e := by
  rw [UnaryUnaryHandler.run_handle]
  cases ((method request context).run s).1 with
  | ok response => rfl
  | error e => cases rpcErrorOf e <;> rfl

/-- The reply of an agent that answers. -/
theorem reply_ok {a : GroupAgent} {request : SendMessageRequest} {x : TaskOrMessage}
    (h : a.answer request = .ok x) :
    a.reply (Proto.serializeToString request) = .ok (Proto.serializeToString x.response) := by
  unfold GroupAgent.answer at h
  unfold GroupAgent.reply
  rw [fst_run_handle, fst_run_sendMessage, h]
  rfl

/-- The reply of an agent that fails with an A2A error. -/
theorem reply_a2a {a : GroupAgent} {request : SendMessageRequest} {e : A2AError}
    (h : a.answer request = .error (.a2a e)) :
    a.reply (Proto.serializeToString request) = .error (.rpc (slimRPCError e)) := by
  unfold GroupAgent.answer at h
  unfold GroupAgent.reply
  rw [fst_run_handle, fst_run_sendMessage, h]
  rfl

/-- An agent that fails replies with an exception. -/
theorem reply_error {a : GroupAgent} {request : SendMessageRequest} {e : PyException}
    (h : a.answer request = .error e) :
    ∃ e', a.reply (Proto.serializeToString request) = .error e' := by
  unfold GroupAgent.answer at h
  unfold GroupAgent.reply
  rw [fst_run_handle, fst_run_sendMessage, h]
  cases e <;> exact ⟨_, rfl⟩

/-- What is delivered for an agent: its reply with its source, or an error. -/
theorem delivered_cases {ι : Type} {group : Group ι} {request : SendMessageRequest}
    (arrival : Arrival group request) (i : ι) :
    (∃ x, (group.agent i).answer request = .ok x ∧
      arrival.item i = .data (group.source i) (Proto.serializeToString x.response)) ∨
    ((∃ e, (group.agent i).answer request = .error e) ∧ ∃ e, arrival.item i = .error e) := by
  have hdelivered := arrival.delivered i
  cases hanswer : (group.agent i).answer request with
  | ok x =>
      rw [reply_ok hanswer] at hdelivered
      exact Or.inl ⟨x, rfl, hdelivered⟩
  | error e =>
      obtain ⟨e', he'⟩ := reply_error hanswer
      rw [he'] at hdelivered
      refine Or.inr ⟨⟨e, rfl⟩, ?_⟩
      cases e' with
      | rpc r => exact ⟨r, hdelivered⟩
      | a2a a => exact hdelivered
      | exception type message => exact hdelivered
      | base type => exact hdelivered

end unary

/-! ### One stream -/

/-- The message that an operation sends. -/
def SinkOp.sent : SinkOp → Option Bytes
  | send message => some message
  | close => none
  | sendError _ => none

/-- How the streams of a group's agents reach the reader: the messages that each agent sent, in any
interleaving, and then the end. -/
structure StreamArrival {ι : Type} [DecidableEq ι] (ops : ι → List SinkOp) where
  messages : List (ι × Bytes)
  interleaving : IsInterleaving messages fun i => (ops i).filterMap SinkOp.sent

/-- What the reader returns. -/
def StreamArrival.items {ι : Type} [DecidableEq ι] {ops : ι → List SinkOp}
    (arrival : StreamArrival ops) (group : Group ι) : List MulticastMessage :=
  arrival.messages.map (fun p => .data (group.source p.1) p.2) ++ [.end]

section stream
variable [A2aSdk] [Proto StreamResponse] {ρ : Type} [Proto ρ]

namespace GroupAgent
variable (a : GroupAgent)

/-- A streaming method of the agent's server, run on a request. -/
def stream (method : ρ → Context → AsyncGen a.World PyException StreamResponse) (request : ρ) :
    Emission a.World PyException StreamResponse :=
  (method request a.peer).run a.state

/-- What the generated handler around the method does with its sink. -/
def sinkOps (method : ρ → Context → AsyncGen a.World PyException StreamResponse) (request : Bytes) :
    List SinkOp :=
  ((UnaryStreamHandler.handle method request a.peer recordingSink).run (a.state, [])).2.2

/-- A streaming method relays what `call` yields once the call context is built. -/
def Relays [HasTenant ρ] (method : ρ → Context → AsyncGen a.World PyException StreamResponse)
    (call : ρ → ServerCallContext → AsyncGen a.World PyException Event) : Prop :=
  ∀ request c s', a.handler.agentCard.capabilities.streaming = true →
    (a.handler.buildCallContext a.peer request).run a.state = (.ok c, s') →
    let events := (call request c).run s'
    a.stream method request =
      ⟨events.items.map A2aSdk.toStreamResponse, events.result.mapError report, events.state⟩

end GroupAgent

/-- An error-free stream is sent as it is. -/
theorem sent_sinkOps {a : GroupAgent}
    {method : ρ → Context → AsyncGen a.World PyException StreamResponse} {request : ρ}
    (hok : (a.stream method request).result = .ok ()) :
    (a.sinkOps method (Proto.serializeToString request)).filterMap SinkOp.sent =
      (a.stream method request).items.map Proto.serializeToString := by
  unfold GroupAgent.sinkOps
  rw [run_handle]
  unfold GroupAgent.stream at hok ⊢
  rw [hok]
  show (([] ++ ((method request a.peer).run a.state).items.map SinkOp.response ++ [.close] :
    List SinkOp)).filterMap SinkOp.sent = _
  rw [List.nil_append, List.filterMap_append, List.filterMap_map]
  have hclose : [SinkOp.close].filterMap SinkOp.sent = [] := rfl
  rw [hclose, List.append_nil]
  exact congrFun List.filterMap_eq_map _

end stream

/-! ### The reader -/

section reader
variable {ι σ α : Type} [Proto α]

/-- A reader that delivers encoded items yields them with their sources. -/
theorem run_readMulticast_data (source : ι → Context) (l : List (ι × α)) (s : σ) :
    (readMulticast (l.map (fun p => .data (source p.1) (Proto.serializeToString p.2)) ++ [.end]) :
        AsyncGen σ PyException (Context × α)).run s =
      ⟨l.map fun p => (source p.1, p.2), .ok (), s⟩ := by
  induction l with
  | nil => rfl
  | cons p l ih =>
      rw [List.map_cons, List.cons_append, readMulticast, Proto.fromString_serializeToString]
      dsimp only
      rw [AsyncGen.run_yield, ih, List.map_cons]

variable [DecidableEq ι]

/-- A reader that interleaves error-free streams yields each of them with its source. -/
theorem run_readMulticast_streams (group : Group ι) {ops : ι → List SinkOp} {events : ι → List α}
    (hops : ∀ i, (ops i).filterMap SinkOp.sent = (events i).map Proto.serializeToString)
    (arrival : StreamArrival ops) (s : σ) :
    ∃ pairs, (readMulticast (arrival.items group) : AsyncGen σ PyException (Context × α)).run s =
        ⟨pairs, .ok (), s⟩ ∧
      (∀ i, itemsOf (group.source i) pairs = events i) ∧
      ∀ p ∈ pairs, ∃ i, p.1 = group.source i := by
  have hinterleaving : IsInterleaving arrival.messages fun i =>
      (events i).map Proto.serializeToString := by
    exact fun i => (arrival.interleaving i).trans (hops i)
  obtain ⟨l, hl⟩ := hinterleaving.exists_of_map
  refine ⟨l.map fun p => (group.source p.1, p.2), ?_, ?_, ?_⟩
  · unfold StreamArrival.items
    rw [hl, List.map_map]
    exact run_readMulticast_data group.source l s
  · intro i
    have hi := hinterleaving i
    rw [hl] at hi
    have hmap := itemsOf_map Function.injective_id (Proto.serializeToString : α → Bytes) i l
    have hevents := Proto.serializeToString_injective.list_map (hmap.symm.trans hi)
    have hsource := itemsOf_map group.source_injective (id : α → α) i l
    rw [List.map_id] at hsource
    exact hsource.trans hevents
  · intro p hp
    obtain ⟨q, -, rfl⟩ := List.mem_map.mp hp
    exact ⟨q.1, rfl⟩

end reader

/-! ### The client -/

section client
variable [A2aSdk] [Proto SendMessageRequest] [Proto SendMessageResponse] [Proto StreamResponse]
  [Proto SubscribeToTaskRequest] {ι σ : Type} [DecidableEq ι]

omit [A2aSdk] [Proto StreamResponse] [Proto SubscribeToTaskRequest] in
/-- The client yields what the reader delivers, each reply in a `StreamResponse`. -/
theorem run_client_sendMessage {client : MulticastClient} {net : Network σ}
    {request : SendMessageRequest} {context : Option ClientCallContext} {s s' : σ}
    {items : List MulticastMessage}
    (hcall : (net.callMulticastUnaryAsync client.transport.channel
      ⟨a2aService, "SendMessage", Proto.serializeToString request, none, none⟩).run s =
        (.ok items, s')) :
    (client.sendMessage net request context).run s =
      let replies : Emission σ PyException (Context × SendMessageResponse) :=
        (readMulticast items).run s'
      ⟨replies.items.map fun p => (p.1, MulticastClient.wrapResponse p.2), replies.result,
        replies.state⟩ := by
  unfold MulticastClient.sendMessage SRPCMulticastTransport.sendMessage
    A2AServiceGroupStub.sendMessage multicastUnary
  rw [AsyncGen.run_map, AsyncGen.run_map, AsyncGen.run_awaitThen_ok hcall]
  dsimp only
  rw [List.map_map]
  rfl

/-- What a multicast over the group yields, in whatever order the reader hears the agents. -/
structure MulticastFaithful (group : Group ι) (client : MulticastClient) (net : Network σ)
    (context : Option ClientCallContext) : Prop where
  /-- One pair for each reply, in the order of arrival, with the content of the agent's answer. -/
  sendMessage : ∀ request (arrival : Arrival group request) (answers : ι → TaskOrMessage) s s',
    (∀ i, (group.agent i).answer request = .ok (answers i)) →
    (net.callMulticastUnaryAsync client.transport.channel
      ⟨a2aService, "SendMessage", Proto.serializeToString request, none, none⟩).run s =
        (.ok arrival.items, s') →
    (client.sendMessage net request context).run s =
      ⟨arrival.order.map fun i => (group.source i, (answers i).streamResponse), .ok (), s'⟩
  /-- The pairs of each source are the events that its agent sent, in order. -/
  sendMessageStreaming : ∀ request (arrival : StreamArrival fun i => (group.agent i).sinkOps
      (group.agent i).handler.sendStreamingMessage (Proto.serializeToString request)) s s',
    (∀ i, ((group.agent i).stream (group.agent i).handler.sendStreamingMessage request).result =
      .ok ()) →
    (net.callMulticastUnaryStreamAsync client.transport.channel
      ⟨a2aService, "SendStreamingMessage", Proto.serializeToString request, none, none⟩).run s =
        (.ok (arrival.items group), s') →
    ∃ pairs, (client.sendMessageStreaming net request context).run s = ⟨pairs, .ok (), s'⟩ ∧
      (∀ i, itemsOf (group.source i) pairs =
        ((group.agent i).stream (group.agent i).handler.sendStreamingMessage request).items) ∧
      ∀ p ∈ pairs, ∃ i, p.1 = group.source i
  subscribe : ∀ request (arrival : StreamArrival fun i => (group.agent i).sinkOps
      (group.agent i).handler.subscribeToTask (Proto.serializeToString request)) s s',
    (∀ i, ((group.agent i).stream (group.agent i).handler.subscribeToTask request).result =
      .ok ()) →
    (net.callMulticastUnaryStreamAsync client.transport.channel
      ⟨a2aService, "SubscribeToTask", Proto.serializeToString request, none, none⟩).run s =
        (.ok (arrival.items group), s') →
    ∃ pairs, (client.subscribe net request context).run s = ⟨pairs, .ok (), s'⟩ ∧
      (∀ i, itemsOf (group.source i) pairs =
        ((group.agent i).stream (group.agent i).handler.subscribeToTask request).items) ∧
      ∀ p ∈ pairs, ∃ i, p.1 = group.source i
  /-- What an agent sends are the events of its request handler. -/
  relays : ∀ i, (group.agent i).Relays (group.agent i).handler.sendStreamingMessage
    (group.agent i).handler.requestHandler.onMessageSendStream
  relaysTask : ∀ i, (group.agent i).Relays (group.agent i).handler.subscribeToTask
    (group.agent i).handler.requestHandler.onSubscribeToTask

omit [Proto StreamResponse] [Proto SubscribeToTaskRequest] [DecidableEq ι] in
/-- When every agent answers, the reader delivers the answers, in the order of arrival. -/
theorem arrival_items_eq {group : Group ι} {request : SendMessageRequest}
    (arrival : Arrival group request) {answers : ι → TaskOrMessage}
    (hanswers : ∀ i, (group.agent i).answer request = .ok (answers i)) :
    arrival.items =
      (arrival.order.map fun i => (i, (answers i).response)).map (fun p =>
        .data (group.source p.1) (Proto.serializeToString p.2)) ++ [.end] := by
  unfold Arrival.items
  rw [List.map_map]
  congr 1
  apply List.map_congr_left
  intro i _
  have hdelivered := arrival.delivered i
  rw [reply_ok (hanswers i)] at hdelivered
  exact hdelivered

omit [A2aSdk] [Proto SendMessageRequest] [Proto SendMessageResponse] [Proto StreamResponse]
  [Proto SubscribeToTaskRequest] in
/-- Passing pairs on twice changes nothing. -/
theorem run_map_pairs (g : AsyncGen σ PyException (Context × StreamResponse)) (s : σ) :
    ((g.map fun (source, response) => (source, response)).map
      fun (source, response) => (source, response)).run s = g.run s := by
  rw [AsyncGen.run_map, AsyncGen.run_map]
  simp

omit [A2aSdk] [Proto SendMessageRequest] [Proto SendMessageResponse]
  [Proto SubscribeToTaskRequest] in
/-- A streaming call on the group yields the events of each agent under its source. -/
theorem run_multicastUnaryStream {ρ : Type} [Proto ρ] {method : String} {net : Network σ}
    {channel : Channel} {request : ρ} {group : Group ι} {ops : ι → List SinkOp}
    {events : ι → List StreamResponse}
    (hops : ∀ i, (ops i).filterMap SinkOp.sent = (events i).map Proto.serializeToString)
    (arrival : StreamArrival ops) {s s' : σ}
    (hcall : (net.callMulticastUnaryStreamAsync channel
      ⟨a2aService, method, Proto.serializeToString request, none, none⟩).run s =
        (.ok (arrival.items group), s')) :
    ∃ pairs, (((multicastUnaryStream a2aService method net channel request none none).map
        fun (source, response) => (source, response)).map
          fun (source, response) => (source, response)).run s = ⟨pairs, .ok (), s'⟩ ∧
      (∀ i, itemsOf (group.source i) pairs = events i) ∧
      ∀ p ∈ pairs, ∃ i, p.1 = group.source i := by
  obtain ⟨pairs, hrun, hpairs⟩ := run_readMulticast_streams group hops arrival s'
  refine ⟨pairs, ?_, hpairs⟩
  rw [run_map_pairs]
  exact (AsyncGen.run_awaitThen_ok hcall _).trans hrun

/-- **Multicast replies are neither lost, duplicated, reordered nor altered.** -/
theorem multicastFaithful (group : Group ι) (client : MulticastClient) (net : Network σ)
    (context : Option ClientCallContext) : MulticastFaithful group client net context := by
  constructor
  · intro request arrival answers s s' hanswers hcall
    rw [run_client_sendMessage hcall, arrival_items_eq arrival hanswers, run_readMulticast_data]
    dsimp only
    rw [List.map_map, List.map_map]
    simp only [Function.comp_def, wrapResponse_response]
  · intro request arrival _ _ hok hcall
    exact run_multicastUnaryStream (fun i => sent_sinkOps (hok i)) arrival hcall
  · intro request arrival _ _ hok hcall
    exact run_multicastUnaryStream (fun i => sent_sinkOps (hok i)) arrival hcall
  · intro i request c s' hstreaming hbuild
    exact run_sendStreamingMessage hstreaming hbuild
  · intro i request c s' hstreaming hbuild
    exact run_subscribeToTask hstreaming hbuild

end client

/-! ### Two agents -/

/-- A network whose multicast readers return `items`. -/
def readerNetwork (items : List MulticastMessage) : Network Unit where
  callUnaryAsync _ _ := Co.raise (.rpc ⟨.unimplemented, "", none⟩)
  callUnaryStreamAsync _ _ := Co.raise (.rpc ⟨.unimplemented, "", none⟩)
  callMulticastUnaryAsync _ _ := pure items
  callMulticastUnaryStreamAsync _ _ := pure items

def twoNames (b : Bool) : String := if b then "agntcy/demo/b" else "agntcy/demo/a"

def twoAgentsClient : MulticastClient :=
  ⟨⟨.newGroupWithConnection ⟨0⟩ [⟨"agntcy", "demo", "a"⟩, ⟨"agntcy", "demo", "b"⟩] 7⟩⟩

def twoSources (b : Bool) : Context := ⟨some (twoNames b), none, ∅⟩

theorem twoSources_injective : Function.Injective twoSources := by
  have hnames : ∀ a b, twoNames a = twoNames b → a = b := by decide
  exact fun a b h => hnames a b (Option.some.inj (congrArg Context.peerSubject h))

section concrete
open scoped Concrete

/-- Two agents that answer and stream. -/
def countingAgents : Group Bool where
  agent _ := ⟨ℕ, countingServicers.v1, ⟨some "agntcy/demo/client", none, ∅⟩, 0⟩
  source := twoSources
  source_injective := twoSources_injective

/-- Agent `true` is heard first. -/
def trueFirst : Arrival countingAgents ⟨"", [7]⟩ where
  order := [true, false]
  nodup := by decide
  complete := by decide
  item b := .data (twoSources b) (Proto.serializeToString (SendMessageResponse.task ⟨[7]⟩))
  delivered b := by
    rw [reply_ok (x := .task ⟨[7]⟩) rfl]
    rfl

/-- The events of the agents take turns. -/
def takingTurns : StreamArrival fun i => (countingAgents.agent i).sinkOps
    (countingAgents.agent i).handler.sendStreamingMessage
    (Proto.serializeToString (⟨"", [7]⟩ : SendMessageRequest)) where
  messages := [false, true, false, true].map fun b =>
    (b, Proto.serializeToString (StreamResponse.task ⟨[7]⟩))
  interleaving b := by
    refine Eq.trans ?_ (sent_sinkOps (a := countingAgents.agent b) rfl).symm
    cases b <;> rfl

/-- Both answer, and both stream two tasks. -/
theorem multicastFaithful_two :
    (twoAgentsClient.sendMessage (readerNetwork trueFirst.items) ⟨"", [7]⟩ none).run () =
        ⟨[(twoSources true, .task ⟨[7]⟩), (twoSources false, .task ⟨[7]⟩)], .ok (), ()⟩ ∧
      ∃ pairs, (twoAgentsClient.sendMessageStreaming
          (readerNetwork (takingTurns.items countingAgents)) ⟨"", [7]⟩ none).run () =
            ⟨pairs, .ok (), ()⟩ ∧
        (∀ b, itemsOf (twoSources b) pairs = [.task ⟨[7]⟩, .task ⟨[7]⟩]) ∧
        ∀ p ∈ pairs, ∃ b, p.1 = twoSources b :=
  ⟨(multicastFaithful countingAgents twoAgentsClient (readerNetwork trueFirst.items)
      none).sendMessage ⟨"", [7]⟩ trueFirst (fun _ => .task ⟨[7]⟩) () () (fun _ => rfl) rfl,
    (multicastFaithful countingAgents twoAgentsClient
      (readerNetwork (takingTurns.items countingAgents)) none).sendMessageStreaming ⟨"", [7]⟩
      takingTurns () () (fun _ => rfl) rfl⟩

end concrete
end SlimA2a
