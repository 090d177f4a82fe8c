import SlimA2a.Answers
import SlimA2a.Concrete
import SlimA2a.Metadata
import SlimA2a.Server

/-! # Calls on the wire

A client stub, the network and a server wrapper stand between a client's method and the method of a
servicer.  `Reaches` is what the network does: a call runs the handler that is registered under its
names, and what the handler returns, raises or sends arrives.  It says nothing about a handler that
ends with an exception outside of `Exception`.

Under it a stub method is the servicer's method with its exception turned into an RPC error
(`run_unary`, `run_unaryStream`).  The items of a stream, the result and the world are all kept, so
the laws about servicers become laws about what a client sees.  `SRPCTransport.seesAnswer` is the
one for the client of version 1, from its method down to the request handler. -/

namespace SlimA2a

/-! ### The network -/

/-- What the client reads for an operation on the sink. -/
def SinkOp.message : SinkOp → StreamMessage
  | send message => .data message
  | close => .end
  | sendError e => .error e

/-- The exception is not one of those outside of `Exception`. -/
def Completes {α : Type} (r : Except PyException α) : Prop := ∀ type, r ≠ .error (.base type)

theorem completes_map_iff {α β : Type} {r : Except PyException α} {f : α → β} :
    Completes (r.map f) ↔ Completes r := by
  cases r with
  | ok a => exact ⟨fun _ _ => nofun, fun _ _ => nofun⟩
  | error e =>
      constructor
      · rintro h type ⟨⟩
        exact h type rfl
      · rintro h type ⟨⟩
        exact h type rfl

/-- Calls on the channel run the handlers of the server, which sees each call as coming from
`peer`. -/
structure Reaches {σ : Type} (net : Network σ) (channel : Channel) (server : Server σ)
    (peer : RpcCall → Context) : Prop where
  returned : ∀ {call handle s s' bytes},
    server.lookup (call.service, call.method) = some (.unaryUnary handle) →
    (handle call.request (peer call)).run s = (.ok bytes, s') →
      (net.callUnaryAsync channel call).run s = (.ok bytes, s')
  raised : ∀ {call handle s s' e},
    server.lookup (call.service, call.method) = some (.unaryUnary handle) →
    (handle call.request (peer call)).run s = (.error (.rpc e), s') →
      (net.callUnaryAsync channel call).run s = (.error (.rpc e), s')
  sent : ∀ {call handle s s' ops},
    server.lookup (call.service, call.method) = some (.unaryStream handle) →
    (handle call.request (peer call)).run (s, []) = (.ok (), s', ops) →
      (net.callUnaryStreamAsync channel call).run s = (.ok (ops.map SinkOp.message), s')

/-- The error of a call that no handler is registered for. -/
def unregistered : PyException := .rpc ⟨.unimplemented, "", none⟩

/-- A network with one server. -/
def Server.network {σ : Type} (server : Server σ) (peer : RpcCall → Context) : Network σ where
  callUnaryAsync _ call :=
    match server.lookup (call.service, call.method) with
    | some (.unaryUnary handle) => handle call.request (peer call)
    | _ => Co.raise unregistered
  callUnaryStreamAsync _ call :=
    match server.lookup (call.service, call.method) with
    | some (.unaryStream handle) => fun s =>
        let (result, s', ops) := (handle call.request (peer call)).run (s, [])
        (result.map fun _ => ops.map SinkOp.message, s')
    | _ => Co.raise unregistered
  callMulticastUnaryAsync _ _ := Co.raise unregistered
  callMulticastUnaryStreamAsync _ _ := Co.raise unregistered

theorem Server.reaches_network {σ : Type} (server : Server σ) (peer : RpcCall → Context)
    (channel : Channel) : Reaches (server.network peer) channel server peer := by
  constructor
  · intro call handle s s' bytes hlookup hrun
    simp only [network, hlookup, hrun]
  · intro call handle s s' e hlookup hrun
    simp only [network, hlookup, hrun]
  · intro call handle s s' ops hlookup hrun
    simp only [network, hlookup]
    show ((Except.map _ ((handle call.request (peer call)).run (s, [])).1), _) = _
    rw [hrun]
    rfl

/-! ### The stubs -/

section stubs
variable [A2aSdk] {σ ρ α : Type} [Proto ρ] [Proto α]

/-- The exception that the client sees for an exception of the method. -/
def wireError (e : PyException) : PyException :=
  match rpcErrorOf e with
  | some r => .rpc r
  | none => e

/-- A client reads what the method yielded, and the error it was ended with. -/
theorem run_readStream (items : List α) (result : Except PyException Unit)
    (hresult : Completes result) (state : σ) (s : σ) :
    (readStream ((finish state (items.map SinkOp.response) result).2.2.map SinkOp.message) :
      AsyncGen σ PyException α).run s = ⟨items, result.mapError wireError, s⟩ := by
  have hend : ∃ op : SinkOp,
      (finish state (items.map SinkOp.response) result).2.2 = items.map SinkOp.response ++ [op] ∧
        (readStream [op.message] : AsyncGen σ PyException α).run s =
          ⟨[], result.mapError wireError, s⟩ := by
    cases result with
    | ok u => exact ⟨.close, rfl, rfl⟩
    | error e =>
        cases e with
        | base type => exact absurd rfl (hresult type)
        | _ => exact ⟨.sendError _, rfl, rfl⟩
  obtain ⟨op, hops, hread⟩ := hend
  rw [hops, List.map_append, List.map_map, List.map_singleton]
  clear hops
  induction items with
  | nil => exact hread
  | cons a items ih =>
      have hmessage : (SinkOp.message ∘ SinkOp.response) a = .data (Proto.serializeToString a) :=
        rfl
      rw [List.map_cons, List.cons_append, hmessage, readStream, Proto.fromString_serializeToString]
      dsimp only
      rw [AsyncGen.run_yield, ih]

variable {net : Network σ} {channel : Channel} {server : Server σ} {peer : RpcCall → Context}
  {service method : String} {request : ρ} {timeout : Option ℕ}
  {metadata : Option (Dict String String)} {s : σ}

/-- A stub method is the method it calls, with its exception replaced. -/
theorem run_unary (hreaches : Reaches net channel server peer)
    {m : ρ → Context → Co σ PyException α} (hlookup : server.lookup (service, method) =
      some (.ofUnary m))
    (hcompletes : Completes ((m request (peer ⟨service, method, Proto.serializeToString request,
      timeout, metadata⟩)).run s).1) :
    (unary service method net channel request timeout metadata : Co σ PyException α).run s =
      (((m request (peer ⟨service, method, Proto.serializeToString request, timeout,
          metadata⟩)).run s).1.mapError wireError,
        ((m request (peer ⟨service, method, Proto.serializeToString request, timeout,
          metadata⟩)).run s).2) := by
  have hhandle := UnaryUnaryHandler.run_handle m request
    (peer ⟨service, method, Proto.serializeToString request, timeout, metadata⟩) s
  unfold unary
  rcases hm : (m request _).run s with ⟨e | response, s'⟩
  · rw [hm] at hhandle hcompletes
    unfold wireError
    cases hr : rpcErrorOf e with
    | some r =>
        dsimp only at hhandle
        rw [hr] at hhandle
        rw [Co.run_bind_error (hreaches.raised hlookup hhandle)]
        simp only [Except.mapError, hr]
    | none =>
        cases e with
        | base type => exact absurd rfl (hcompletes type)
        | _ => cases hr
  · rw [hm] at hhandle
    rw [Co.run_bind_ok (hreaches.returned hlookup hhandle), Proto.fromString_serializeToString]
    rfl

/-- The same for a method that yields a stream. -/
theorem run_unaryStream (hreaches : Reaches net channel server peer)
    {m : ρ → Context → AsyncGen σ PyException α} (hlookup : server.lookup (service, method) =
      some (.ofStream m))
    (hcompletes : Completes ((m request (peer ⟨service, method, Proto.serializeToString request,
      timeout, metadata⟩)).run s).result) :
    (unaryStream service method net channel request timeout metadata :
        AsyncGen σ PyException α).run s =
      let em := (m request (peer ⟨service, method, Proto.serializeToString request, timeout,
        metadata⟩)).run s
      ⟨em.items, em.result.mapError wireError, em.state⟩ := by
  have hhandle := run_handle m request
    (peer ⟨service, method, Proto.serializeToString request, timeout, metadata⟩) s []
  rcases hm : (m request _).run s with ⟨items, result, s'⟩
  rw [hm] at hhandle hcompletes
  have hfinish : finish s' ([] ++ items.map SinkOp.response) result =
      (.ok (), s', (finish s' (items.map SinkOp.response) result).2.2) := by
    cases result with
    | ok u => rfl
    | error e =>
        cases e with
        | base type => exact absurd rfl (hcompletes type)
        | _ => rfl
  have hcall : (net.callUnaryStreamAsync channel ⟨service, method, Proto.serializeToString request,
      timeout, metadata⟩).run s = _ := hreaches.sent hlookup (hhandle.trans hfinish)
  unfold unaryStream
  rw [AsyncGen.run_awaitThen_ok hcall]
  exact run_readStream items result hcompletes s' s'

end stubs

/-! ### Outcomes -/

section outcomes
variable {σ α ι ρ : Type}

/-- A result that is dropped. -/
theorem ofUnary_drop (ended : ρ) (m : Co σ PyException α) (s : σ) :
    (Outcome.ofUnary (fun _ => ended) ((m >>= fun _ => pure ()).run s) : Outcome ι ρ σ) =
      Outcome.ofUnary (fun _ => ended) (m.run s) := by
  rw [Co.run_bind_pure m fun _ => ()]
  rcases m.run s with ⟨_ | _, _⟩ <;> rfl

theorem ofUnary_mapError (wrap : α → ρ) (f : PyException → PyException) (r : Except PyException α)
    (s : σ) :
    (Outcome.ofUnary wrap (r.mapError f, s) : Outcome ι ρ σ) =
      (Outcome.ofUnary wrap (r, s)).mapError f := by
  cases r <;> rfl

theorem ofStream_mapError (ended : ρ) (f : PyException → PyException)
    (em : Emission σ PyException ι) :
    Outcome.ofStream ended ⟨em.items, em.result.mapError f, em.state⟩ =
      (Outcome.ofStream ended em).mapError f := by
  obtain ⟨items, result, s⟩ := em
  cases result <;> rfl

theorem completes_mapError {f : PyException → PyException} {r : Except PyException α}
    (hf : ∀ e type, f e = .base type → e = .base type) (h : Completes r) :
    Completes (r.mapError f) := by
  cases r with
  | ok a => exact fun _ => nofun
  | error e =>
      intro type he
      have hbase : f e = .base type := Except.error.inj he
      exact h type (congrArg Except.error (hf e type hbase))

theorem mapError_mapError (f g : PyException → PyException) (o : Outcome ι ρ σ) :
    (o.mapError f).mapError g = o.mapError (g ∘ f) := by
  obtain ⟨items, result, s⟩ := o
  cases result <;> rfl

/-- Reporting an error makes it no exception outside of `Exception`. -/
theorem reportWith_base {rpcError : A2AError → RpcError} {e : PyException} {type : BaseExcType}
    (h : reportWith rpcError e = .base type) : e = .base type := by
  cases e with
  | a2a a => cases h
  | _ => exact h

variable [A2aSdk] [Proto ρ] [Proto α] {τ : Type} {net : Network σ} {channel : Channel}
  {server : Server σ} {peer : RpcCall → Context} {service method : String} {request : ρ}
  {timeout : Option ℕ} {metadata : Option (Dict String String)} {s : σ}

theorem ofUnary_unary {wrap : α → τ} (hreaches : Reaches net channel server peer)
    {m : ρ → Context → Co σ PyException α}
    (hlookup : server.lookup (service, method) = some (.ofUnary m))
    (hcompletes : Completes ((m request (peer ⟨service, method, Proto.serializeToString request,
      timeout, metadata⟩)).run s).1) :
    (Outcome.ofUnary wrap
        ((unary service method net channel request timeout metadata).run s) : Outcome ι τ σ) =
      (Outcome.ofUnary wrap ((m request (peer ⟨service, method, Proto.serializeToString request,
        timeout, metadata⟩)).run s)).mapError wireError :=
  (congrArg (Outcome.ofUnary wrap) (run_unary hreaches hlookup hcompletes)).trans
    (ofUnary_mapError ..)

theorem ofStream_unaryStream {ended : τ} (hreaches : Reaches net channel server peer)
    {m : ρ → Context → AsyncGen σ PyException α}
    (hlookup : server.lookup (service, method) = some (.ofStream m))
    (hcompletes : Completes ((m request (peer ⟨service, method, Proto.serializeToString request,
      timeout, metadata⟩)).run s).result) :
    Outcome.ofStream ended ((unaryStream service method net channel request timeout metadata :
        AsyncGen σ PyException α).run s) =
      (Outcome.ofStream ended ((m request (peer ⟨service, method, Proto.serializeToString request,
        timeout, metadata⟩)).run s)).mapError wireError :=
  (congrArg (Outcome.ofStream ended) (run_unaryStream hreaches hlookup hcompletes)).trans
    (ofStream_mapError ..)

end outcomes

/-! ### Version 1 -/

section v1
variable [A2aSdk]
  [Proto SendMessageRequest] [Proto SendMessageResponse] [Proto StreamResponse]
  [Proto GetTaskRequest] [Proto Task] [Proto ListTasksRequest] [Proto ListTasksResponse]
  [Proto CancelTaskRequest] [Proto SubscribeToTaskRequest] [Proto TaskPushNotificationConfig]
  [Proto GetTaskPushNotificationConfigRequest] [Proto ListTaskPushNotificationConfigsRequest]
  [Proto ListTaskPushNotificationConfigsResponse] [Proto GetExtendedAgentCardRequest]
  [Proto AgentCard] [Proto DeleteTaskPushNotificationConfigRequest] [Proto Empty]
  {σ : Type}

omit [A2aSdk] [Proto SendMessageResponse] [Proto StreamResponse] [Proto Task]
  [Proto ListTasksResponse] [Proto ListTaskPushNotificationConfigsResponse] [Proto AgentCard]
  [Proto Empty] in
/-- The request of a call, as it is sent. -/
def Call.bytes : Call → Bytes
  | sendMessage r => Proto.serializeToString r
  | sendStreamingMessage r => Proto.serializeToString r
  | cancelTask r => Proto.serializeToString r
  | subscribeToTask r => Proto.serializeToString r
  | getTask r => Proto.serializeToString r
  | listTasks r => Proto.serializeToString r
  | getTaskPushNotificationConfig r => Proto.serializeToString r
  | createTaskPushNotificationConfig r => Proto.serializeToString r
  | listTaskPushNotificationConfigs r => Proto.serializeToString r
  | deleteTaskPushNotificationConfig r => Proto.serializeToString r
  | getExtendedAgentCard r => Proto.serializeToString r

/-- The call on the network that carries a call of version 1. -/
def Call.rpcCall (call : Call) : RpcCall := ⟨a2aService, call.name, call.bytes, none, none⟩

namespace SRPCTransport
variable (t : SRPCTransport) (net : Network σ) (context : Option ClientCallContext) (s : σ)

/-- A call of the client, in the world `s`. -/
def request : Call → Outcome StreamResponse Response σ
  | .sendMessage r => .ofUnary .sendMessageResponse ((t.sendMessage net r context).run s)
  | .sendStreamingMessage r => .ofStream .ended ((t.sendMessageStreaming net r context).run s)
  | .cancelTask r => .ofUnary .task ((t.cancelTask net r context).run s)
  | .subscribeToTask r => .ofStream .ended ((t.subscribe net r context).run s)
  | .getTask r => .ofUnary .task ((t.getTask net r context).run s)
  | .listTasks r => .ofUnary .listTasksResponse ((t.listTasks net r context).run s)
  | .getTaskPushNotificationConfig r =>
      .ofUnary .taskPushNotificationConfig ((t.getTaskPushNotificationConfig net r context).run s)
  | .createTaskPushNotificationConfig r =>
      .ofUnary .taskPushNotificationConfig
        ((t.createTaskPushNotificationConfig net r context).run s)
  | .listTaskPushNotificationConfigs r =>
      .ofUnary .listTaskPushNotificationConfigsResponse
        ((t.listTaskPushNotificationConfigs net r context).run s)
  | .deleteTaskPushNotificationConfig r =>
      .ofUnary (fun _ => .empty) ((t.deleteTaskPushNotificationConfig net r context).run s)
  | .getExtendedAgentCard r => .ofUnary .agentCard ((t.getExtendedAgentCard net r context).run s)

variable {t net context s} {server : Server σ} {servicer : SRPCHandler σ}
  {peer : RpcCall → Context} {call : Call}

/-- What a client sees of a call is what the servicer's method does. -/
theorem request_eq_serve (hreaches : Reaches net t.channel server peer)
    (hserves : Serves server servicer) (hremote : ¬ t.AnswersLocally call)
    (hcompletes : Completes (servicer.serve (peer call.rpcCall) s call).result) :
    t.request net context s call =
      (servicer.serve (peer call.rpcCall) s call).mapError wireError := by
  have hmap (g : AsyncGen σ PyException StreamResponse) (s : σ) :
      (g.map fun response => response).run s = g.run s := by
    rw [AsyncGen.run_map, List.map_id']
  cases call with
  | sendMessage r =>
      exact ofUnary_unary hreaches (hserves (.sendMessage r)) (completes_map_iff.mp hcompletes)
  | sendStreamingMessage r =>
      refine (congrArg (Outcome.ofStream _) (hmap _ s)).trans ?_
      exact ofStream_unaryStream hreaches (hserves (.sendStreamingMessage r))
        (completes_map_iff.mp hcompletes)
  | cancelTask r =>
      exact ofUnary_unary hreaches (hserves (.cancelTask r)) (completes_map_iff.mp hcompletes)
  | subscribeToTask r =>
      refine (congrArg (Outcome.ofStream _) (hmap _ s)).trans ?_
      exact ofStream_unaryStream hreaches (hserves (.subscribeToTask r))
        (completes_map_iff.mp hcompletes)
  | getTask r =>
      exact ofUnary_unary hreaches (hserves (.getTask r)) (completes_map_iff.mp hcompletes)
  | listTasks r =>
      exact ofUnary_unary hreaches (hserves (.listTasks r)) (completes_map_iff.mp hcompletes)
  | getTaskPushNotificationConfig r =>
      exact ofUnary_unary hreaches (hserves (.getTaskPushNotificationConfig r))
        (completes_map_iff.mp hcompletes)
  | createTaskPushNotificationConfig r =>
      exact ofUnary_unary hreaches (hserves (.createTaskPushNotificationConfig r))
        (completes_map_iff.mp hcompletes)
  | listTaskPushNotificationConfigs r =>
      exact ofUnary_unary hreaches (hserves (.listTaskPushNotificationConfigs r))
        (completes_map_iff.mp hcompletes)
  | deleteTaskPushNotificationConfig r =>
      refine (ofUnary_drop Response.empty _ s).trans ?_
      exact ofUnary_unary hreaches (hserves (.deleteTaskPushNotificationConfig r))
        (completes_map_iff.mp hcompletes)
  | getExtendedAgentCard r =>
      have hcall : t.getExtendedAgentCard net r context =
          A2AServiceStub.getExtendedAgentCard net t.channel r none none := by
        unfold getExtendedAgentCard
        cases hcard : t.agentCard with
        | none => rfl
        | some card =>
            cases hextended : card.capabilities.extendedAgentCard with
            | true => exact if_pos hextended
            | false => exact absurd ⟨card, hcard, hextended⟩ hremote
      simp only [request, hcall]
      exact ofUnary_unary hreaches (hserves (.getExtendedAgentCard r))
        (completes_map_iff.mp hcompletes)

/-- What a client of version 1 sees of a call. -/
structure SeesAnswer (t : SRPCTransport) (servicer : SRPCHandler σ) (net : Network σ)
    (peer : RpcCall → Context) (context : Option ClientCallContext) (s : σ) (call : Call) :
    Prop where
  /-- The transport's own card, if that is the answer. -/
  ownCard : t.AnswersLocally call → ∃ card, t.agentCard = some card ∧
    t.request net context s call = ⟨[], .ok (.agentCard card), s⟩
  /-- The answer of the request handler to the call that is delivered, converted; an A2A error
  arrives with the code and the details of its class. -/
  covered : ¬ t.AnswersLocally call → servicer.Covered (peer call.rpcCall) s call →
    t.request net context s call =
      ((servicer.requestHandler.answerTo streamed (servicer.delivery (peer call.rpcCall) call)
        s).andThen servicer.respond).mapError (wireError ∘ report)
  /-- The same outside of the `try` blocks, where an A2A error arrives as an internal one. -/
  uncovered : ¬ t.AnswersLocally call → ¬ servicer.Covered (peer call.rpcCall) s call →
    t.request net context s call =
      ((servicer.requestHandler.answerTo streamed (servicer.delivery (peer call.rpcCall) call)
        s).andThen servicer.respond).mapError wireError

omit [A2aSdk] in
theorem request_of_answersLocally (hlocal : t.AnswersLocally call) :
    ∃ card, t.agentCard = some card ∧
      t.request net context s call = ⟨[], .ok (.agentCard card), s⟩ := by
  cases call with
  | getExtendedAgentCard r =>
      obtain ⟨card, hcard, hextended⟩ := hlocal
      refine ⟨card, hcard, ?_⟩
      simp only [request, getExtendedAgentCard, hcard, hextended]
      rfl
  | _ => exact hlocal.elim

/-- **A client of version 1 gets the answer of the request handler**, for each of the eleven calls,
every world and every agent whose call does not end with an exception outside of `Exception`. -/
theorem seesAnswer (hreaches : Reaches net t.channel server peer)
    (hserves : Serves server servicer)
    (hcompletes : ¬ t.AnswersLocally call →
      Completes ((servicer.requestHandler.answerTo streamed
        (servicer.delivery (peer call.rpcCall) call) s).andThen servicer.respond).result) :
    SeesAnswer t servicer net peer context s call := by
  rw [← servicer.attempt_eq] at hcompletes
  refine ⟨request_of_answersLocally, fun hremote hcovered => ?_, fun hremote hcovered => ?_⟩
  · have hserve : servicer.serve (peer call.rpcCall) s call =
        (servicer.attempt (peer call.rpcCall) s call).mapError report :=
      servicer.serve_eq_reported hcovered
    rw [request_eq_serve hreaches hserves hremote, hserve, mapError_mapError, servicer.attempt_eq]
    rw [hserve]
    exact completes_mapError (fun _ _ => reportWith_base) (hcompletes hremote)
  · have hserve := servicer.serve_eq_attempt hcovered
    rw [request_eq_serve hreaches hserves hremote, hserve, servicer.attempt_eq]
    rw [hserve]
    exact hcompletes hremote

end SRPCTransport
end v1

/-! ### A call over the wire -/

section concrete
open scoped Concrete

/-- Every caller is seen as `alice`, with the metadata of the call. -/
def alice (call : RpcCall) : Context := ⟨some "alice", none, call.delivered⟩

def countingTransport : SRPCTransport :=
  ⟨none, .newWithConnection ⟨0⟩ ⟨"agntcy", "demo", "counter"⟩ 1⟩

/-- A message is sent to the agent, which answers with a task. -/
theorem seesAnswer_sendMessage :
    SRPCTransport.SeesAnswer countingTransport countingServicers.v1
        (countingServicers.server.network alice) alice none 0 (.sendMessage ⟨"", [7]⟩) ∧
      countingTransport.request (countingServicers.server.network alice) none 0
        (.sendMessage ⟨"", [7]⟩) = ⟨[], .ok (.sendMessageResponse (.task ⟨[7]⟩)), 1⟩ := by
  have hsees : SRPCTransport.SeesAnswer countingTransport countingServicers.v1
      (countingServicers.server.network alice) alice none 0 (.sendMessage ⟨"", [7]⟩) :=
    SRPCTransport.seesAnswer (Server.reaches_network _ _ _) countingServicers.serves_server.1
      fun _ _ => nofun
  exact ⟨hsees, hsees.covered id trivial⟩

end concrete
end SlimA2a
