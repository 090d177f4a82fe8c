import SlimA2a.Codecs
import SlimA2a.CompatErrors
import SlimA2a.CompatTransport

/-! # The history limit of a task

A `GetTaskRequest` of version 1 asks for a limit on the history or leaves the field unset, and a
limit of `0` asks for no history at all.  `LimitSurvives` states that the request handler behind a
v0.3 server is asked for the limit that the client was asked for.

The v0.3 field is a plain `int32`.  The client copies the value and not its presence, so the unset
field and the limit `0` become the same v0.3 request (`sent_unset_eq_sent_zero`), and the limits
that survive are the others (`limitSurvives_iff`).  The request handler is put beside a log of the
calls it receives, and the network beside a log of the calls made on it. -/

namespace SlimA2a

namespace Compat

def methodNotImplemented : RpcError := ⟨.unimplemented, "Method not implemented!", none⟩

section hop
variable [A2aSdk] [CompatSdk] [Proto V03.GetTaskRequest] [Proto V03.Task] {σ : Type}

/-- The network between a client and a v0.3 server, which sees a call of the client as coming from
`peer`.  Of the server's methods `GetTask` is registered. -/
def connection (h : SRPCCompatHandler σ) (peer : Channel → RpcCall → Context) : Network σ where
  callUnaryAsync channel call :=
    if call.service = a2aService ∧ call.method = "GetTask" then
      UnaryUnaryHandler.handle h.getTask call.request (peer channel call)
    else Co.raise (.rpc methodNotImplemented)
  callUnaryStreamAsync _ _ := Co.raise (.rpc methodNotImplemented)
  callMulticastUnaryAsync _ _ := Co.raise (.rpc methodNotImplemented)
  callMulticastUnaryStreamAsync _ _ := Co.raise (.rpc methodNotImplemented)

variable (t : SRPCCompatTransport) (servicers : Servicers σ) (peer : Channel → RpcCall → Context)
  (context : Option ClientCallContext) (request : GetTaskRequest) (s : σ)

/-- The v0.3 requests that the client sends. -/
def SRPCCompatTransport.sent : List Bytes :=
  ((t.getTask (connection servicers.v03 peer).logged request context).run (s, [])).2.2.map
    (·.request)

/-- The calls that the request handler of the agent receives. -/
def SRPCCompatTransport.arrived : List HandlerCall :=
  ((t.getTask (connection servicers.logged.v03 peer) request context).run (s, [])).2.2

/-- The request handler is asked for the limit of the request, and the client sends something else
for every request with another limit. -/
structure LimitSurvives : Prop where
  received : ∀ r c, HandlerCall.onGetTask r c ∈ t.arrived servicers peer context request s →
    r.historyLength = request.historyLength
  told_apart : ∀ other : GetTaskRequest, other.historyLength ≠ request.historyLength →
    t.sent servicers peer context other s ≠ t.sent servicers peer context request s

/-- The SDK decodes a limit other than `0` as that limit; what it makes of `0` is left open. -/
def CarriesLimits : Prop :=
  ∀ (r : V03.GetTaskRequest) (params : Types03.TaskQueryParams) (r' : GetTaskRequest),
    Conversions03.fromTaskQueryParams r = .ok params →
      Conversions03.toCoreGetTaskRequest ⟨0, params⟩ = .ok r' →
        r.historyLength ≠ 0 → r'.historyLength = some r.historyLength

/-! ### The hop -/

/-- What is sent is a v0.3 request with the limit, or with `0` for the unset field. -/
theorem sent_eq : t.sent servicers peer context request s =
    [Proto.serializeToString
      (⟨taskName request.id, request.historyLength.getD 0⟩ : V03.GetTaskRequest)] := by
  unfold SRPCCompatTransport.sent SRPCCompatTransport.getTask
  rw [Co.snd_run_bind_still fun _ => Co.still_decode _ _, A2AServiceStub.getTask, unary,
    Co.snd_run_bind fun _ _ => rfl]
  rfl

/-- The unset field and the limit `0` are sent alike. -/
theorem sent_unset_eq_sent_zero :
    t.sent servicers peer context { request with historyLength := none } s =
      t.sent servicers peer context { request with historyLength := some 0 } s := by
  rw [sent_eq, sent_eq]
  rfl

/-- The call that the client makes. -/
def getTaskCall : RpcCall where
  service := a2aService
  method := "GetTask"
  request := Proto.serializeToString
    (⟨taskName request.id, request.historyLength.getD 0⟩ : V03.GetTaskRequest)
  timeout := none
  metadata := some (SRPCCompatTransport.getMetadata context)

/-- The server is called with the request that was sent. -/
theorem run_callUnaryAsync (h : SRPCCompatHandler σ) :
    (connection h peer).callUnaryAsync t.channel (getTaskCall context request) =
      UnaryUnaryHandler.handle h.getTask (getTaskCall context request).request
        (peer t.channel (getTaskCall context request)) := by
  simp only [connection, getTaskCall, and_self, if_true]

/-- The client leaves the world as the server leaves it. -/
theorem snd_run_getTask (h : SRPCCompatHandler σ) :
    ((t.getTask (connection h peer) request context).run s).2 =
      ((h.getTask ⟨taskName request.id, request.historyLength.getD 0⟩
        (peer t.channel (getTaskCall context request))).run s).2 := by
  unfold SRPCCompatTransport.getTask
  rw [Co.snd_run_bind_still fun _ => Co.still_decode _ _, A2AServiceStub.getTask, unary,
    Co.snd_run_bind_still fun _ => Co.still_ofExcept _]
  have hcall := run_callUnaryAsync t peer context request h
  unfold getTaskCall at hcall ⊢
  rw [hcall, UnaryUnaryHandler.run_handle]

/-- What arrives is what the server hands to its request handler. -/
theorem arrived_eq : t.arrived servicers peer context request s =
    received ((servicers.v03.delivery (peer t.channel (getTaskCall context request))
      (decoded (Conversions03.fromTaskQueryParams
          ⟨taskName request.id, request.historyLength.getD 0⟩)
        Conversions03.toCoreGetTaskRequest .onGetTask)).run s) := by
  have hrequest : CompatCall.handlerCall
      (.getTask ⟨taskName request.id, request.historyLength.getD 0⟩) =
        some (decoded (Conversions03.fromTaskQueryParams
            ⟨taskName request.id, request.historyLength.getD 0⟩)
          Conversions03.toCoreGetTaskRequest .onGetTask) := rfl
  unfold SRPCCompatTransport.arrived
  rw [snd_run_getTask]
  exact servicers.log_v03_serve s [] _ hrequest

variable {t servicers peer context request s}

/-- A request that arrives was decoded from the one that was sent. -/
theorem decoded_of_mem_arrived {r : GetTaskRequest} {c : ServerCallContext}
    (h : HandlerCall.onGetTask r c ∈ t.arrived servicers peer context request s) :
    ∃ params, Conversions03.fromTaskQueryParams
        ⟨taskName request.id, request.historyLength.getD 0⟩ = .ok params ∧
      Conversions03.toCoreGetTaskRequest ⟨0, params⟩ = .ok r := by
  rw [arrived_eq, mem_received] at h
  obtain ⟨s', hdelivery⟩ := h
  obtain ⟨c', entry, -, hdecoded, hentry⟩ := SRPCCompatHandler.delivery_ok hdelivery
  obtain ⟨params, r', hparams, hcore, rfl⟩ := decoded_ok hdecoded
  cases hentry
  exact ⟨params, hparams, hcore⟩

/-- **A limit survives exactly when it is set and is not `0`.** -/
theorem limitSurvives_iff (hlimits : CarriesLimits) (t : SRPCCompatTransport)
    (servicers : Servicers σ) (peer : Channel → RpcCall → Context)
    (context : Option ClientCallContext) (request : GetTaskRequest) (s : σ) :
    LimitSurvives t servicers peer context request s ↔
      ∃ n, n ≠ 0 ∧ request.historyLength = some n := by
  constructor
  · intro h
    have halike := sent_unset_eq_sent_zero t servicers peer context request s
    obtain ⟨tenant, id, _ | n⟩ := request
    · exact absurd halike.symm
        (h.told_apart ⟨tenant, id, some 0⟩ (Option.some_ne_none 0))
    · by_cases hn : n = 0
      · subst hn
        exact absurd halike (h.told_apart ⟨tenant, id, none⟩ (Option.some_ne_none 0).symm)
      · exact ⟨n, hn, rfl⟩
  · rintro ⟨n, hn, hlength⟩
    constructor
    · intro r c hr
      obtain ⟨params, hparams, hcore⟩ := decoded_of_mem_arrived hr
      have hlimit := hlimits _ params r hparams hcore
      rw [hlength] at hlimit ⊢
      exact hlimit hn
    · intro other hother hsent
      rw [sent_eq, sent_eq] at hsent
      have hrequest := Proto.serializeToString_injective (List.singleton_injective hsent)
      have hvalue := congrArg V03.GetTaskRequest.historyLength hrequest
      rw [hlength] at hother hvalue
      cases hother' : other.historyLength with
      | none =>
          rw [hother'] at hvalue
          exact hn hvalue.symm
      | some m =>
          rw [hother'] at hother hvalue
          exact hother (congrArg some hvalue)

end hop

/-- The request handler answers every `GetTask` with one task. -/
def taskServicers : Servicers Unit where
  agentCard := default
  requestHandler := { RequestHandler.refusing (.a2a ⟨.internalError, "unavailable"⟩) with
    onGetTask := fun _ _ => return some default }
  contextBuilder := none
  cardModifier := none
  compatContextBuilder := none
  compatCardModifier := none

/-- A client of the agent. -/
def taskTransport : SRPCCompatTransport := ⟨none, .newWithConnection ⟨0⟩ ⟨"agntcy", "demo", "a"⟩ 1⟩

/-- Every caller is seen without a session. -/
def anonymous (_ : Channel) (call : RpcCall) : Context := ⟨none, none, call.metadata.getD ∅⟩

theorem carriesLimits_standard : @CarriesLimits standardCompatSdk := by
  intro r params r' hparams hcore hlength
  have hdecode : (do
      let id ← extractTaskId r.name
      return (id, if r.historyLength = 0 then none else some r.historyLength)) =
        Except.ok params := hparams
  cases hid : extractTaskId r.name with
  | error e =>
      rw [hid] at hdecode
      cases hdecode
  | ok id =>
      rw [hid] at hdecode
      cases hdecode
      cases hcore
      exact if_neg hlength

theorem fromTaskQueryParams_standard (n : Int32) :
    standardCompatSdk.fromTaskQueryParams ⟨taskName "t", n⟩ =
      .ok ("t", if n = 0 then none else some n) := by
  have hid : extractTaskId (taskName "t") = .ok "t" := by rfl
  show (do
    let id ← extractTaskId (taskName "t")
    return (id, if n = 0 then none else some n)) = _
  rw [hid]
  rfl

/-- What arrives at the request handler of the agent. -/
theorem arrived_taskServicers (length : Option Int32) :
    ∃ c, @SRPCCompatTransport.arrived standardSdk standardCompatSdk V03.GetTaskRequest.codec
      V03.Task.codec Unit taskTransport taskServicers anonymous none ⟨"", "t", length⟩ () =
        [.onGetTask ⟨"", "t", if length.getD 0 = 0 then none else some (length.getD 0)⟩ c] := by
  rw [@arrived_eq standardSdk standardCompatSdk V03.GetTaskRequest.codec V03.Task.codec,
    fromTaskQueryParams_standard]
  exact ⟨_, rfl⟩

/-- A limit of five messages. -/
theorem limitSurvives_five :
    @LimitSurvives standardSdk standardCompatSdk V03.GetTaskRequest.codec V03.Task.codec Unit
        taskTransport taskServicers anonymous none ⟨"", "t", some 5⟩ () ∧
      ∃ c, @SRPCCompatTransport.arrived standardSdk standardCompatSdk V03.GetTaskRequest.codec
        V03.Task.codec Unit taskTransport taskServicers anonymous none ⟨"", "t", some 5⟩ () =
          [.onGetTask ⟨"", "t", some 5⟩ c] := by
  refine ⟨?_, arrived_taskServicers (some 5)⟩
  exact (@limitSurvives_iff standardSdk standardCompatSdk V03.GetTaskRequest.codec V03.Task.codec
    Unit carriesLimits_standard taskTransport taskServicers anonymous none ⟨"", "t", some 5⟩
    ()).mpr ⟨5, by decide, rfl⟩

/-- A request for no history: the request handler is asked for all of it. -/
theorem not_limitSurvives_zero :
    ¬ @LimitSurvives standardSdk standardCompatSdk V03.GetTaskRequest.codec V03.Task.codec Unit
      taskTransport taskServicers anonymous none ⟨"", "t", some 0⟩ () := by
  intro h
  obtain ⟨c, hc⟩ := arrived_taskServicers (some 0)
  have hlength := @LimitSurvives.received standardSdk standardCompatSdk V03.GetTaskRequest.codec
    V03.Task.codec _ _ _ _ _ _ _ h _ c (hc ▸ List.mem_singleton_self _)
  exact Option.some_ne_none _ hlength.symm

end Compat
end SlimA2a
