import SlimA2a.MulticastFailures
import SlimA2a.Wire

/-! # Calls to a group and calls to its members

A multicast call asks every agent of the group what a call of its own would ask it.  Each agent
answers with one response or with a stream, or fails; the reader delivers these in some
interleaving, and the stub stops at the first error.

`GroupYields` compares the two, for each of the eleven calls.  Of every agent the caller gets an
initial part of what a call to that agent alone would give, in order and unaltered.  It gets all of
it when no agent fails.  When one fails the call fails, with the error that one of the failing
agents would give alone. -/

namespace SlimA2a

/-! ### The client of a group -/

/-- What a call to a group yields for an agent. -/
inductive GroupItem where
  | event (event : StreamResponse)
  | response (response : Response)
deriving DecidableEq

/-- The response of an agent as the client of the group yields it. -/
def Response.groupItem : Response → GroupItem
  | sendMessageResponse response => .event (MulticastClient.wrapResponse response)
  | response => .response response

/-- What a caller of one agent gets, item by item; `ended` is the end of a stream. -/
def Outcome.parts {σ : Type} (o : Outcome StreamResponse Response σ) :
    List (Except PyException GroupItem) :=
  o.items.map (fun event => .ok (.event event)) ++
    match o.result with
    | .ok .ended => []
    | .ok response => [.ok response.groupItem]
    | .error e => [.error e]

/-- The items of `parts` before an error. -/
def Outcome.groupItems {σ : Type} (o : Outcome StreamResponse Response σ) : List GroupItem :=
  o.items.map .event ++
    match o.result with
    | .ok .ended => []
    | .ok response => [response.groupItem]
    | .error _ => []

theorem okItems_append {ε α β : Type} {f : β → α} (l : List β) (l' : List (Except ε α)) :
    okItems (l.map (fun b => .ok (f b)) ++ l') = l.map f ++ okItems l' := by
  induction l with
  | nil => rfl
  | cons b l ih =>
      rw [List.map_cons, List.cons_append, okItems, ih]
      rfl

theorem okItems_parts {σ : Type} (o : Outcome StreamResponse Response σ) :
    okItems o.parts = o.groupItems := by
  unfold Outcome.parts Outcome.groupItems
  rw [okItems_append]
  cases o.result with
  | error e => rfl
  | ok response => cases response <;> rfl

/-- The error of a call is the only error among its parts. -/
theorem error_mem_parts {σ : Type} {o : Outcome StreamResponse Response σ} {e : PyException} :
    .error e ∈ o.parts ↔ o.result = .error e := by
  have hitems : .error e ∉ o.items.map (fun event => (.ok (.event event) :
      Except PyException GroupItem)) := by
    intro h
    obtain ⟨event, -, h⟩ := List.mem_map.mp h
    cases h
  unfold Outcome.parts
  rw [List.mem_append, or_iff_right hitems]
  cases o.result with
  | error e' => simp [eq_comm]
  | ok response => cases response <;> simp

/-- The network call of a request to a group. -/
def Call.multicast {σ : Type} (net : Network σ) :
    Call → Channel → RpcCall → Co σ PyException (List MulticastMessage)
  | sendStreamingMessage _ => net.callMulticastUnaryStreamAsync
  | subscribeToTask _ => net.callMulticastUnaryStreamAsync
  | _ => net.callMulticastUnaryAsync

section client
variable [Proto SendMessageRequest] [Proto SendMessageResponse] [Proto StreamResponse]
  [Proto GetTaskRequest] [Proto Task] [Proto ListTasksRequest] [Proto ListTasksResponse]
  [Proto CancelTaskRequest] [Proto SubscribeToTaskRequest] [Proto TaskPushNotificationConfig]
  [Proto GetTaskPushNotificationConfigRequest] [Proto ListTaskPushNotificationConfigsRequest]
  [Proto ListTaskPushNotificationConfigsResponse] [Proto GetExtendedAgentCardRequest]
  [Proto AgentCard] [Proto DeleteTaskPushNotificationConfigRequest] [Proto Empty]
  {σ : Type}

/-- A call of the client, in the world `s`. -/
def MulticastClient.request (client : MulticastClient) (net : Network σ)
    (context : Option ClientCallContext) (s : σ) :
    Call → Emission σ PyException (Context × GroupItem)
  | .sendMessage r => ((client.sendMessage net r context).map fun p => (p.1, .event p.2)).run s
  | .sendStreamingMessage r =>
      ((client.sendMessageStreaming net r context).map fun p => (p.1, .event p.2)).run s
  | .cancelTask r =>
      ((client.cancelTask net r context).map fun p => (p.1, .response (.task p.2))).run s
  | .subscribeToTask r => ((client.subscribe net r context).map fun p => (p.1, .event p.2)).run s
  | .getTask r => ((client.getTask net r context).map fun p => (p.1, .response (.task p.2))).run s
  | .listTasks r =>
      ((client.listTasks net r context).map fun p =>
        (p.1, .response (.listTasksResponse p.2))).run s
  | .getTaskPushNotificationConfig r =>
      ((client.getTaskPushNotificationConfig net r context).map fun p =>
        (p.1, .response (.taskPushNotificationConfig p.2))).run s
  | .createTaskPushNotificationConfig r =>
      ((client.createTaskPushNotificationConfig net r context).map fun p =>
        (p.1, .response (.taskPushNotificationConfig p.2))).run s
  | .listTaskPushNotificationConfigs r =>
      ((client.listTaskPushNotificationConfigs net r context).map fun p =>
        (p.1, .response (.listTaskPushNotificationConfigsResponse p.2))).run s
  | .deleteTaskPushNotificationConfig r =>
      ((client.deleteTaskPushNotificationConfig net r context).map fun p =>
        (p.1, .response .empty)).run s
  | .getExtendedAgentCard r =>
      ((client.getExtendedAgentCard net r context).map fun p =>
        (p.1, .response (.agentCard p.2))).run s

end client

/-! ### What an agent sends -/

/-- What the reader gets for an operation on the sink. -/
def SinkOp.part : SinkOp → Option (Except RpcError Bytes)
  | send message => some (.ok message)
  | close => none
  | sendError e => some (.error e)

/-- The messages and errors that a handler sends for a request.  Nothing is said of a handler that
ends with an exception outside of `Exception`. -/
def ServerMethod.Sends {σ : Type} (request : Bytes) (peer : Context) (s : σ)
    (parts : List (Except RpcError Bytes)) : ServerMethod σ → Prop
  | unaryUnary handle =>
      (∀ bytes s', (handle request peer).run s = (.ok bytes, s') → parts = [.ok bytes]) ∧
        ∀ e s', (handle request peer).run s = (.error (.rpc e), s') → parts = [.error e]
  | unaryStream handle =>
      ∀ s' ops, (handle request peer).run (s, []) = (.ok (), s', ops) →
        parts = ops.filterMap SinkOp.part

section sends
variable [A2aSdk] {σ ρ α : Type} [Proto ρ] [Proto α] {request : ρ} {peer : Context} {s : σ}
  {parts : List (Except RpcError Bytes)}

theorem rpc_wireError {e : PyException} (h : ∀ type, e ≠ .base type) :
    ∃ r, rpcErrorOf e = some r ∧ wireError e = .rpc r := by
  cases e with
  | base type => exact absurd rfl (h type)
  | _ => exact ⟨_, rfl, rfl⟩

/-- A unary method sends its response, or its error. -/
theorem sends_ofUnary {m : ρ → Context → Co σ PyException α}
    (hsends : (ServerMethod.ofUnary m).Sends (Proto.serializeToString request) peer s parts)
    (hcompletes : Completes ((m request peer).run s).1) :
    ∃ part : Except RpcError α, parts = [part.map Proto.serializeToString] ∧
      part.mapError PyException.rpc = ((m request peer).run s).1.mapError wireError := by
  obtain ⟨hok, herror⟩ := hsends
  have hhandle := UnaryUnaryHandler.run_handle m request peer s
  rcases hm : (m request peer).run s with ⟨e | a, s'⟩
  · rw [hm] at hhandle hcompletes
    obtain ⟨r, hr, hwire⟩ := rpc_wireError fun type he => hcompletes type (congrArg _ he)
    dsimp only at hhandle
    rw [hr] at hhandle
    exact ⟨.error r, herror r s' hhandle, congrArg Except.error hwire.symm⟩
  · rw [hm] at hhandle
    exact ⟨.ok a, hok _ s' hhandle, rfl⟩

omit [A2aSdk] in
theorem filterMap_part (items : List α) (op : SinkOp) :
    (items.map SinkOp.response ++ [op]).filterMap SinkOp.part =
      (items.map (.ok : α → Except RpcError α)).map (Except.map Proto.serializeToString) ++
        op.part.toList := by
  have hitems : (items.map SinkOp.response).filterMap SinkOp.part =
      (items.map (.ok : α → Except RpcError α)).map (Except.map Proto.serializeToString) := by
    rw [List.filterMap_map, List.map_map]
    exact congrFun List.filterMap_eq_map items
  rw [List.filterMap_append, hitems]
  cases op <;> rfl

/-- A streaming method sends its items, and its error if it fails. -/
theorem sends_ofStream {m : ρ → Context → AsyncGen σ PyException α}
    (hsends : (ServerMethod.ofStream m).Sends (Proto.serializeToString request) peer s parts)
    (hcompletes : Completes ((m request peer).run s).result) :
    ∃ sent : List (Except RpcError α), parts = sent.map (Except.map Proto.serializeToString) ∧
      sent.map (Except.mapError PyException.rpc) = ((m request peer).run s).items.map .ok ++
        match ((m request peer).run s).result with
        | .ok () => []
        | .error e => [.error (wireError e)] := by
  have hhandle := run_handle m request peer s []
  rcases hm : (m request peer).run s with ⟨items, result, s'⟩
  rw [hm] at hhandle hcompletes
  cases result with
  | ok u =>
      refine ⟨items.map .ok, (hsends s' _ hhandle).trans ?_, ?_⟩
      · rw [List.nil_append, filterMap_part]
        exact List.append_nil _
      · rw [List.map_map, List.append_nil]
        rfl
  | error e =>
      obtain ⟨r, hr, hwire⟩ := rpc_wireError fun type he => hcompletes type (congrArg _ he)
      rw [finish, hr] at hhandle
      refine ⟨items.map .ok ++ [.error r], (hsends s' _ hhandle).trans ?_, ?_⟩
      · rw [List.nil_append, filterMap_part, List.map_append]
        rfl
      · dsimp only
        rw [List.map_append, List.map_map, hwire]
        rfl

end sends

/-! ### The reader -/

/-- How the reader delivers what an agent sent. -/
def groupMessage {ι : Type} (source : ι → Context) : ι × Except RpcError Bytes → MulticastMessage
  | (i, .ok bytes) => .data (source i) bytes
  | (_, .error e) => .error e

/-- A reader that delivers encoded items yields them with their sources, up to the first error. -/
theorem run_readMulticast {ι σ α : Type} [Proto α] (source : ι → Context) (s : σ) :
    ∀ l : List (ι × Except RpcError α),
      (readMulticast ((l.map fun p => (p.1, p.2.map Proto.serializeToString)).map
          (groupMessage source) ++ [.end]) : AsyncGen σ PyException (Context × α)).run s =
        ⟨(untilError l).1.map fun p => (source p.1, p.2), (untilError l).2.mapError .rpc, s⟩
  | [] => rfl
  | (i, .error e) :: l => rfl
  | (i, .ok a) :: l => by
      have hmessage : groupMessage source (i, (Except.ok a).map Proto.serializeToString) =
          .data (source i) (Proto.serializeToString a) := rfl
      rw [List.map_cons, List.map_cons, List.cons_append, hmessage, readMulticast,
        Proto.fromString_serializeToString]
      dsimp only
      rw [AsyncGen.run_yield, run_readMulticast source s l]
      rfl

/-- The client and its transport pass on what the stub yields. -/
theorem run_map_map_map {σ α β γ δ : Type} (g : AsyncGen σ PyException α) (f : α → β) (f' : β → γ)
    (f'' : γ → δ) (s : σ) :
    (((g.map f).map f').map f'').run s = (g.map fun a => f'' (f' (f a))).run s := by
  simp only [AsyncGen.run_map, List.map_map]
  rfl

/-! ### A call to a group -/

section parts
variable [A2aSdk]

/-- What a caller of the agent alone gets. -/
def GroupAgent.outcome (a : GroupAgent) (call : Call) : Outcome StreamResponse Response a.World :=
  (a.handler.serve a.peer a.state call).mapError wireError

/-- The parts of a unary method. -/
theorem parts_ofUnary {σ α : Type} {part : Except RpcError α} {r : Except PyException α × σ}
    {wrap : α → Response} (hwrap : ∀ a, wrap a ≠ .ended)
    (hpart : part.mapError PyException.rpc = r.1.mapError wireError) :
    ((Outcome.ofUnary wrap r).mapError wireError).parts =
      [(part.map fun a => (wrap a).groupItem).mapError .rpc] := by
  have hended : ∀ response : Response, response ≠ .ended →
      (⟨[], .ok response, r.2⟩ : Outcome StreamResponse Response σ).parts =
        [.ok response.groupItem] := by
    intro response h
    cases response with
    | ended => exact absurd rfl h
    | _ => rfl
  obtain ⟨result, s⟩ := r
  cases result with
  | error e =>
      cases part with
      | error e' =>
          show [Except.error (wireError e)] = [Except.error (PyException.rpc e')]
          exact congrArg (fun x => [x.map fun a => (wrap a).groupItem]) hpart.symm
      | ok a => cases hpart
  | ok a =>
      cases part with
      | error e' => cases hpart
      | ok a' =>
          cases hpart
          exact hended (wrap a) (hwrap a)

/-- The parts of a streaming method. -/
theorem parts_ofStream {σ : Type} {sent : List (Except RpcError StreamResponse)}
    {em : Emission σ PyException StreamResponse}
    (hsent : sent.map (Except.mapError PyException.rpc) = em.items.map .ok ++
      match em.result with
      | .ok () => []
      | .error e => [.error (wireError e)]) :
    ((Outcome.ofStream Response.ended em).mapError wireError).parts =
      sent.map fun p => (p.map GroupItem.event).mapError .rpc := by
  have hmap : (sent.map fun p => (p.map GroupItem.event).mapError PyException.rpc) =
      (sent.map (Except.mapError PyException.rpc)).map (Except.map GroupItem.event) := by
    rw [List.map_map]
    refine List.map_congr_left fun p _ => ?_
    cases p <;> rfl
  obtain ⟨items, result, s⟩ := em
  rw [hmap, hsent, List.map_append, List.map_map]
  cases result <;> rfl

end parts

section group
variable [A2aSdk] [Proto SendMessageRequest] [Proto SendMessageResponse] [Proto StreamResponse]
  [Proto GetTaskRequest] [Proto Task] [Proto ListTasksRequest] [Proto ListTasksResponse]
  [Proto CancelTaskRequest] [Proto SubscribeToTaskRequest] [Proto TaskPushNotificationConfig]
  [Proto GetTaskPushNotificationConfigRequest] [Proto ListTaskPushNotificationConfigsRequest]
  [Proto ListTaskPushNotificationConfigsResponse] [Proto GetExtendedAgentCardRequest]
  [Proto AgentCard] [Proto DeleteTaskPushNotificationConfigRequest] [Proto Empty]
  {ι σ : Type} [DecidableEq ι]

/-- How what the agents of a group send reaches the reader: in any interleaving. -/
structure GroupArrival (group : Group ι) (call : Call) where
  sent : ι → List (Except RpcError Bytes)
  sends : ∀ i, ((group.agent i).handler.serverMethod call).Sends call.bytes (group.agent i).peer
    (group.agent i).state (sent i)
  messages : List (ι × Except RpcError Bytes)
  interleaving : IsInterleaving messages sent

/-- What the reader returns. -/
def GroupArrival.items {group : Group ι} {call : Call} (arrival : GroupArrival group call) :
    List MulticastMessage :=
  arrival.messages.map (groupMessage group.source) ++ [.end]

/-- A call to a group, compared with calls to its agents. -/
structure GroupYields (group : Group ι) (client : MulticastClient) (net : Network σ)
    (context : Option ClientCallContext) (call : Call) (arrival : GroupArrival group call)
    (s s' : σ) : Prop where
  /-- What the agents give, in the order of arrival, up to the first error. -/
  reads : ∃ l : List (ι × Except PyException GroupItem),
    IsInterleaving l (fun i => ((group.agent i).outcome call).parts) ∧
    l.map Prod.fst = arrival.messages.map Prod.fst ∧
    client.request net context s call =
      ⟨(untilError l).1.map fun p => (group.source p.1, p.2), (untilError l).2, s'⟩
  initial : ∀ i, itemsOf (group.source i) (client.request net context s call).items <+:
    ((group.agent i).outcome call).groupItems
  complete : (∀ i e, ((group.agent i).outcome call).result ≠ .error e) →
    (client.request net context s call).result = .ok () ∧
      ∀ i, itemsOf (group.source i) (client.request net context s call).items =
        ((group.agent i).outcome call).groupItems
  fails : ∀ i e, ((group.agent i).outcome call).result = .error e →
    ∃ e', (client.request net context s call).result = .error e'
  error_eq : ∀ e, (client.request net context s call).result = .error e →
    ∃ i, ((group.agent i).outcome call).result = .error e

variable {group : Group ι} {client : MulticastClient} {net : Network σ}
  {context : Option ClientCallContext} {call : Call} {arrival : GroupArrival group call} {s s' : σ}

/-- It is enough to say what is read. -/
theorem groupYields_of_reads
    (hreads : ∃ l : List (ι × Except PyException GroupItem),
      IsInterleaving l (fun i => ((group.agent i).outcome call).parts) ∧
      l.map Prod.fst = arrival.messages.map Prod.fst ∧
      client.request net context s call =
        ⟨(untilError l).1.map fun p => (group.source p.1, p.2), (untilError l).2, s'⟩) :
    GroupYields group client net context call arrival s s' := by
  obtain ⟨l, hl, -, hrequest⟩ := id hreads
  have hread := hl.readsUntilError
  have hitems (i : ι) : itemsOf (group.source i) (client.request net context s call).items =
      itemsOf i (untilError l).1 := by
    rw [hrequest]
    exact (itemsOf_map group.source_injective id i _).trans (List.map_id _)
  have hresult : (client.request net context s call).result = (untilError l).2 := by rw [hrequest]
  refine ⟨hreads, fun i => ?_, fun hok => ?_, fun i e he => ?_, fun e he => ?_⟩
  · rw [hitems, ← okItems_parts]
    exact hread.initial i
  · obtain ⟨hend, hall⟩ := hread.complete fun i e he => hok i e (error_mem_parts.mp he)
    refine ⟨hresult.trans hend, fun i => ?_⟩
    rw [hitems, hall, okItems_parts]
  · rw [hresult]
    exact hread.fails i e (error_mem_parts.mpr he)
  · obtain ⟨i, hi⟩ := hread.error_mem e (hresult ▸ he)
    exact ⟨i, error_mem_parts.mp hi⟩

/-- A call whose responses have one type. -/
theorem groupYields_of_sent {α : Type} [Proto α] {f : α → GroupItem}
    {sent : ι → List (Except RpcError α)}
    (hsent : ∀ i, arrival.sent i = (sent i).map (Except.map Proto.serializeToString))
    (hparts : ∀ i, ((group.agent i).outcome call).parts =
      (sent i).map fun p => (p.map f).mapError .rpc)
    (hrequest : client.request net context s call =
      ((AsyncGen.awaitThen (call.multicast net client.transport.channel call.rpcCall)
        readMulticast : AsyncGen σ PyException (Context × α)).map fun p => (p.1, f p.2)).run s)
    (hcall : (call.multicast net client.transport.channel call.rpcCall).run s =
      (.ok arrival.items, s')) :
    GroupYields group client net context call arrival s s' := by
  have hinjective : Function.Injective
      (Except.map Proto.serializeToString : Except RpcError α → Except RpcError Bytes) := by
    rintro (e | a) (e' | a') h
    · exact congrArg Except.error (Except.error.inj h)
    · cases h
    · cases h
    · exact congrArg Except.ok (Proto.serializeToString_injective (Except.ok.inj h))
  have hmessages : IsInterleaving arrival.messages fun i =>
      (sent i).map (Except.map Proto.serializeToString) :=
    fun i => (arrival.interleaving i).trans (hsent i)
  obtain ⟨l, hl, heq⟩ := hmessages.exists_of_injective hinjective
  refine groupYields_of_reads ⟨l.map fun p => (p.1, (p.2.map f).mapError .rpc), ?_, ?_, ?_⟩
  · intro i
    have hmap := itemsOf_map Function.injective_id
      (fun p : Except RpcError α => (p.map f).mapError PyException.rpc) i l
    refine Eq.trans hmap ?_
    rw [hl i]
    exact (hparts i).symm
  · rw [heq, List.map_map, List.map_map]
    rfl
  · rw [hrequest, AsyncGen.run_map, AsyncGen.run_awaitThen_ok hcall, GroupArrival.items, heq,
      run_readMulticast, untilError_map]
    simp only [List.map_map]
    rfl

/-- A call whose method returns one response. -/
theorem groupYields_unary {ρ α : Type} [Proto ρ] [Proto α] {r : ρ} {wrap : α → Response}
    {m : ∀ i, ρ → Context → Co (group.agent i).World PyException α}
    (hbytes : call.bytes = Proto.serializeToString r)
    (hmethod : ∀ i, (group.agent i).handler.serverMethod call = .ofUnary (m i))
    (hserve : ∀ i, (group.agent i).handler.serve (group.agent i).peer (group.agent i).state call =
      .ofUnary wrap ((m i r (group.agent i).peer).run (group.agent i).state))
    (hwrap : ∀ a, wrap a ≠ .ended)
    (hcompletes : ∀ i, Completes ((group.agent i).handler.serve (group.agent i).peer
      (group.agent i).state call).result)
    (hrequest : client.request net context s call =
      ((AsyncGen.awaitThen (call.multicast net client.transport.channel call.rpcCall)
        readMulticast : AsyncGen σ PyException (Context × α)).map
          fun p => (p.1, (wrap p.2).groupItem)).run s)
    (hcall : (call.multicast net client.transport.channel call.rpcCall).run s =
      (.ok arrival.items, s')) :
    GroupYields group client net context call arrival s s' := by
  have hsends (i : ι) : ∃ part : Except RpcError α,
      arrival.sent i = [part.map Proto.serializeToString] ∧
        part.mapError PyException.rpc =
          ((m i r (group.agent i).peer).run (group.agent i).state).1.mapError wireError := by
    have hi := arrival.sends i
    have hc := hcompletes i
    rw [hmethod, hbytes] at hi
    rw [hserve] at hc
    exact sends_ofUnary hi (completes_map_iff.mp hc)
  choose part hpart hresult using hsends
  have hsent : ∀ i, arrival.sent i = [part i].map (Except.map Proto.serializeToString) := hpart
  refine groupYields_of_sent (f := fun a => (wrap a).groupItem) hsent (fun i => ?_) hrequest hcall
  unfold GroupAgent.outcome
  rw [hserve]
  exact parts_ofUnary hwrap (hresult i)

/-- A call whose method yields a stream. -/
theorem groupYields_stream {ρ : Type} [Proto ρ] {r : ρ}
    {m : ∀ i, ρ → Context → AsyncGen (group.agent i).World PyException StreamResponse}
    (hbytes : call.bytes = Proto.serializeToString r)
    (hmethod : ∀ i, (group.agent i).handler.serverMethod call = .ofStream (m i))
    (hserve : ∀ i, (group.agent i).handler.serve (group.agent i).peer (group.agent i).state call =
      .ofStream .ended ((m i r (group.agent i).peer).run (group.agent i).state))
    (hcompletes : ∀ i, Completes ((group.agent i).handler.serve (group.agent i).peer
      (group.agent i).state call).result)
    (hrequest : client.request net context s call =
      ((AsyncGen.awaitThen (call.multicast net client.transport.channel call.rpcCall)
        readMulticast : AsyncGen σ PyException (Context × StreamResponse)).map
          fun p => (p.1, .event p.2)).run s)
    (hcall : (call.multicast net client.transport.channel call.rpcCall).run s =
      (.ok arrival.items, s')) :
    GroupYields group client net context call arrival s s' := by
  have hsends (i : ι) : ∃ sent : List (Except RpcError StreamResponse),
      arrival.sent i = sent.map (Except.map Proto.serializeToString) ∧
        sent.map (Except.mapError PyException.rpc) =
          ((m i r (group.agent i).peer).run (group.agent i).state).items.map .ok ++
            match ((m i r (group.agent i).peer).run (group.agent i).state).result with
            | .ok () => []
            | .error e => [.error (wireError e)] := by
    have hi := arrival.sends i
    have hc := hcompletes i
    rw [hmethod, hbytes] at hi
    rw [hserve] at hc
    exact sends_ofStream hi (completes_map_iff.mp hc)
  choose sent hsent hevents using hsends
  refine groupYields_of_sent hsent (fun i => ?_) hrequest hcall
  unfold GroupAgent.outcome
  rw [hserve]
  exact parts_ofStream (hevents i)

/-- Every call is unary or a stream. -/
theorem GroupArrival.yields (arrival : GroupArrival group call)
    (hcompletes : ∀ i, Completes ((group.agent i).handler.serve (group.agent i).peer
      (group.agent i).state call).result)
    (hcall : (call.multicast net client.transport.channel call.rpcCall).run s =
      (.ok arrival.items, s')) :
    GroupYields group client net context call arrival s s' := by
  cases call with
  | sendStreamingMessage r =>
      exact groupYields_stream rfl (fun _ => rfl) (fun _ => rfl) hcompletes (run_map_map_map ..)
        hcall
  | subscribeToTask r =>
      exact groupYields_stream rfl (fun _ => rfl) (fun _ => rfl) hcompletes (run_map_map_map ..)
        hcall
  | _ =>
      exact groupYields_unary rfl (fun _ => rfl) (fun _ => rfl) (fun _ => nofun) hcompletes
        (run_map_map_map ..) hcall

/-- **A call to a group yields what calls to its agents would**, for each of the eleven calls, every
group, and every order in which the agents are heard. -/
theorem groupYields (arrival : GroupArrival group call)
    (hcompletes : ∀ i, Completes ((group.agent i).handler.serve (group.agent i).peer
      (group.agent i).state call).result)
    (hcall : (call.multicast net client.transport.channel call.rpcCall).run s =
      (.ok arrival.items, s')) :
    GroupYields group client net context call arrival s s' := arrival.yields hcompletes hcall

end group

/-! ### A stream that is cut off -/

section concrete
open scoped Concrete

/-- Agent `false` streams two tasks, agent `true` fails. -/
def streamingAgents : Group Bool where
  agent b := ⟨ℕ, (if b then { countingServicers with
    requestHandler := .refusing (.a2a agentFailure) } else countingServicers).v1,
    ⟨some "agntcy/demo/client", none, ∅⟩, 0⟩
  source := twoAgents.source
  source_injective := twoAgents.source_injective

/-- What the agents send for a message. -/
def streamingSent : Bool → List (Except RpcError Bytes)
  | false => [.ok (Proto.serializeToString (StreamResponse.task ⟨[7]⟩)),
      .ok (Proto.serializeToString (StreamResponse.task ⟨[7]⟩))]
  | true => [.error (slimRPCError agentFailure)]

theorem sends_streamingSent (b : Bool) :
    ((streamingAgents.agent b).handler.serverMethod (.sendStreamingMessage ⟨"", [7]⟩)).Sends
      (Call.sendStreamingMessage ⟨"", [7]⟩).bytes (streamingAgents.agent b).peer
      (streamingAgents.agent b).state (streamingSent b) := by
  intro s' ops hrun
  have hhandle := run_handle (streamingAgents.agent b).handler.sendStreamingMessage ⟨"", [7]⟩
    (streamingAgents.agent b).peer (streamingAgents.agent b).state []
  cases b <;> cases hhandle.symm.trans hrun <;> rfl

/-- The failure is heard between the two tasks. -/
def failureBetween : GroupArrival streamingAgents (.sendStreamingMessage ⟨"", [7]⟩) where
  sent := streamingSent
  sends := sends_streamingSent
  messages := [(false, .ok (Proto.serializeToString (StreamResponse.task ⟨[7]⟩))),
    (true, .error (slimRPCError agentFailure)),
    (false, .ok (Proto.serializeToString (StreamResponse.task ⟨[7]⟩)))]
  interleaving b := by cases b <;> rfl

theorem groupYields_failureBetween :
    GroupYields streamingAgents twoAgentsClient (readerNetwork failureBetween.items) none
      (.sendStreamingMessage ⟨"", [7]⟩) failureBetween () () := by
  refine groupYields failureBetween (fun b => ?_) rfl
  cases b <;> exact fun _ => nofun

end concrete
end SlimA2a
