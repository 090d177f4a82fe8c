import SlimA2a.Multicast

/-! # Failing agents in a multicast

The group stub raises at the first error item, so `MulticastClient.sendMessage` yields the replies
that reach the reader before the first failure, and none after it (`items_sendMessage`).  Every
successful reply is yielded exactly when no failure arrives before a success
(`everyReplyYielded_iff`). -/

namespace SlimA2a

/-! ### Before the first failure -/

section yielded
variable {ι : Type} (group : Group ι) (request : SendMessageRequest)

/-- The answer of an agent, if it has one, as the client yields it. -/
def replyOf (i : ι) : Option StreamResponse :=
  ((group.agent i).answer request).toOption.map TaskOrMessage.streamResponse

/-- The replies that arrive before the first failure. -/
def yielded (order : List ι) : List (Context × StreamResponse) :=
  (order.takeWhile fun i => (group.agent i).succeeds request).filterMap fun i =>
    (replyOf group request i).map fun r => (group.source i, r)

/-- Every agent that replies successfully has its reply yielded, once. -/
def EveryReplyYielded (pairs : List (Context × StreamResponse)) : Prop :=
  ∀ i x, (group.agent i).answer request = .ok x →
    itemsOf (group.source i) pairs = [x.streamResponse]

/-- No failure arrives before a success. -/
def FailuresLast (order : List ι) : Prop :=
  order.Pairwise fun i j =>
    (group.agent j).succeeds request = true → (group.agent i).succeeds request = true

variable {group request}

theorem succeeds_of_ok {a : GroupAgent} {x : TaskOrMessage} (h : a.answer request = .ok x) :
    a.succeeds request = true := by
  unfold GroupAgent.succeeds
  rw [h]
  rfl

theorem exists_of_succeeds {a : GroupAgent} (h : a.succeeds request = true) :
    ∃ x, a.answer request = .ok x := by
  unfold GroupAgent.succeeds at h
  cases hanswer : a.answer request with
  | ok x => exact ⟨x, rfl⟩
  | error e =>
      rw [hanswer] at h
      cases h

theorem yielded_cons_ok {i : ι} {x : TaskOrMessage}
    (h : (group.agent i).answer request = .ok x) (order : List ι) :
    yielded group request (i :: order) =
      (group.source i, x.streamResponse) :: yielded group request order := by
  have hreply : replyOf group request i = some x.streamResponse := by
    unfold replyOf
    rw [h]
    rfl
  unfold yielded
  rw [List.takeWhile_cons, if_pos (succeeds_of_ok h),
    List.filterMap_cons_some (by rw [hreply]; rfl)]

theorem yielded_cons_error {i : ι} {e : PyException}
    (h : (group.agent i).answer request = .error e) (order : List ι) :
    yielded group request (i :: order) = [] := by
  have hfails : ¬ (group.agent i).succeeds request = true := by
    unfold GroupAgent.succeeds
    rw [h]
    exact Bool.false_ne_true
  unfold yielded
  rw [List.takeWhile_cons, if_neg hfails]
  rfl

/-- What is yielded for an agent: its reply, if it is before the first failure. -/
theorem itemsOf_yielded [DecidableEq ι] {order : List ι} (horder : order.Nodup) (i : ι) :
    itemsOf (group.source i) (yielded group request order) =
      if i ∈ order.takeWhile fun i => (group.agent i).succeeds request then
        (replyOf group request i).toList
      else [] :=
  itemsOf_filterMap group.source_injective (replyOf group request) i _
    ((List.takeWhile_sublist _).nodup horder)

/-- When no failure arrives before a success, every reply is yielded, and nothing else. -/
theorem itemsOf_yielded_of_failuresLast [DecidableEq ι] {order : List ι} (horder : order.Nodup)
    (hlast : FailuresLast group request order) {i : ι} (hi : i ∈ order) :
    itemsOf (group.source i) (yielded group request order) =
      (replyOf group request i).toList := by
  rw [itemsOf_yielded horder]
  cases hanswer : (group.agent i).answer request with
  | ok x =>
      rw [if_pos ((pairwise_iff_mem_takeWhile horder).mp hlast i hi (succeeds_of_ok hanswer))]
  | error e =>
      have hnone : replyOf group request i = none := by
        unfold replyOf
        rw [hanswer]
        rfl
      rw [hnone, Option.toList_none, ite_self]

theorem everyReplyYielded_yielded [DecidableEq ι] {order : List ι} (horder : order.Nodup)
    (hcomplete : ∀ i, i ∈ order) :
    EveryReplyYielded group request (yielded group request order) ↔
      FailuresLast group request order := by
  constructor
  · intro h
    refine (pairwise_iff_mem_takeWhile horder).mpr ?_
    intro i _ hsucceeds
    obtain ⟨x, hx⟩ := exists_of_succeeds hsucceeds
    have hitems := h i x hx
    rw [itemsOf_yielded horder] at hitems
    by_contra hnot
    rw [if_neg hnot] at hitems
    cases hitems
  · intro hlast i x hx
    rw [itemsOf_yielded_of_failuresLast horder hlast (hcomplete i)]
    unfold replyOf
    rw [hx]
    rfl

end yielded

/-! ### The client -/

section client
variable [A2aSdk] [Proto SendMessageRequest] [Proto SendMessageResponse] {ι σ : Type}

theorem items_readMulticast {group : Group ι} {request : SendMessageRequest}
    (arrival : Arrival group request) (s : σ) :
    ∀ order : List ι,
      ((readMulticast (order.map arrival.item ++ [.end]) :
        AsyncGen σ PyException (Context × SendMessageResponse)).run s).items.map
          (fun p => (p.1, MulticastClient.wrapResponse p.2)) = yielded group request order
  | [] => rfl
  | i :: order => by
      have ih := items_readMulticast arrival s order
      rw [List.map_cons, List.cons_append]
      rcases delivered_cases arrival i with ⟨x, hanswer, hitem⟩ | ⟨⟨e, hanswer⟩, e', hitem⟩
      · rw [yielded_cons_ok hanswer, hitem, readMulticast, Proto.fromString_serializeToString]
        dsimp only
        rw [AsyncGen.run_yield, List.map_cons, ih, wrapResponse_response]
      · rw [yielded_cons_error hanswer, hitem, readMulticast]
        rfl

/-- The client yields the replies that arrive before the first failure. -/
theorem items_sendMessage {client : MulticastClient} {net : Network σ} {group : Group ι}
    {request : SendMessageRequest} {context : Option ClientCallContext} {s s' : σ}
    {arrival : Arrival group request}
    (hcall : (net.callMulticastUnaryAsync client.transport.channel
      ⟨a2aService, "SendMessage", Proto.serializeToString request, none, none⟩).run s =
        (.ok arrival.items, s')) :
    ((client.sendMessage net request context).run s).items =
      yielded group request arrival.order := by
  rw [run_client_sendMessage hcall]
  exact items_readMulticast arrival s' arrival.order

/-- What a multicast yields for the agents that reply, in one run and compared with another run.  In
the other run agent `b` may behave in any other way and be heard at any other place. -/
structure RepliesIndependent (group : Group ι) (client : MulticastClient) (net : Network σ)
    (request : SendMessageRequest) (context : Option ClientCallContext) (s : σ)
    (arrival : Arrival group request) [DecidableEq ι] : Prop where
  everyReplyYielded_iff :
    EveryReplyYielded group request ((client.sendMessage net request context).run s).items ↔
      FailuresLast group request arrival.order
  same_for_others : FailuresLast group request arrival.order →
    ∀ (b : ι) (group' : Group ι), (∀ i, i ≠ b → group'.agent i = group.agent i) →
      group'.source = group.source → ∀ (arrival' : Arrival group' request) (t t' : σ),
      FailuresLast group' request arrival'.order →
      (net.callMulticastUnaryAsync client.transport.channel
        ⟨a2aService, "SendMessage", Proto.serializeToString request, none, none⟩).run t =
          (.ok arrival'.items, t') →
      ∀ i, i ≠ b →
        itemsOf (group.source i) ((client.sendMessage net request context).run s).items =
          itemsOf (group.source i) ((client.sendMessage net request context).run t).items

/-- **One failing agent hides no other answer exactly when no failure arrives before a success.** -/
theorem repliesIndependent [DecidableEq ι] {group : Group ι} {client : MulticastClient}
    {net : Network σ} {request : SendMessageRequest} (context : Option ClientCallContext) {s s' : σ}
    (arrival : Arrival group request)
    (hcall : (net.callMulticastUnaryAsync client.transport.channel
      ⟨a2aService, "SendMessage", Proto.serializeToString request, none, none⟩).run s =
        (.ok arrival.items, s')) :
    RepliesIndependent group client net request context s arrival := by
  constructor
  · rw [items_sendMessage hcall]
    exact everyReplyYielded_yielded arrival.nodup arrival.complete
  · intro hlast b group' hagent hsource arrival' t t' hlast' hcall' i hi
    rw [items_sendMessage hcall, items_sendMessage hcall',
      itemsOf_yielded_of_failuresLast arrival.nodup hlast (arrival.complete i), ← hsource,
      itemsOf_yielded_of_failuresLast arrival'.nodup hlast' (arrival'.complete i)]
    unfold replyOf
    rw [hagent i hi]

end client

/-! ### Two agents -/

/-- The failure of the second agent. -/
def agentFailure : A2AError := ⟨.internalError, "unavailable"⟩

/-- Agent `false` answers with a task, agent `true` fails. -/
def twoHandlers : Bool → RequestHandler Unit
  | false => { RequestHandler.refusing (.a2a agentFailure) with
      onMessageSend := fun _ _ => pure (.task ⟨[1]⟩) }
  | true => .refusing (.a2a agentFailure)

def twoAgents : Group Bool where
  agent b := ⟨Unit, @SRPCHandler.init standardSdk Unit default (twoHandlers b) none none,
    ⟨some "agntcy/demo/client", none, ∅⟩, ()⟩
  source := twoSources
  source_injective := twoSources_injective

/-- The outcomes of both agents. -/
def twoItems : Bool → MulticastMessage
  | false => .data (twoAgents.source false)
      (SendMessageResponse.codec.serializeToString (.task ⟨[1]⟩))
  | true => .error (@slimRPCError standardSdk agentFailure)

theorem delivered_twoItems (i : Bool) :
    Delivered (twoAgents.source i) (@GroupAgent.reply standardSdk SendMessageRequest.codec
      SendMessageResponse.codec (twoAgents.agent i)
      (SendMessageRequest.codec.serializeToString ⟨"", []⟩)) (twoItems i) := by
  cases i with
  | false =>
      rw [@reply_ok standardSdk SendMessageRequest.codec SendMessageResponse.codec
        (twoAgents.agent false) ⟨"", []⟩ (.task ⟨[1]⟩) rfl]
      rfl
  | true =>
      rw [@reply_a2a standardSdk SendMessageRequest.codec SendMessageResponse.codec
        (twoAgents.agent true) ⟨"", []⟩ agentFailure rfl]
      rfl

/-- Both outcomes reach the reader, the one of agent `b` first. -/
def firstHeard (b : Bool) :
    @Arrival standardSdk SendMessageRequest.codec SendMessageResponse.codec Bool twoAgents
      ⟨"", []⟩ :=
  @Arrival.mk standardSdk SendMessageRequest.codec SendMessageResponse.codec Bool twoAgents ⟨"", []⟩
    [b, !b] (by cases b <;> decide) (by cases b <;> decide) twoItems delivered_twoItems

/-- The items of a reader that hears agent `b` first. -/
def twoHeard (b : Bool) : List MulticastMessage :=
  @Arrival.items standardSdk SendMessageRequest.codec SendMessageResponse.codec Bool twoAgents
    ⟨"", []⟩ (firstHeard b)

/-- The failure is heard after the answer. -/
theorem repliesIndependent_answer_first :
    @RepliesIndependent standardSdk SendMessageRequest.codec SendMessageResponse.codec Bool Unit
      twoAgents twoAgentsClient (readerNetwork (twoHeard false)) ⟨"", []⟩ none () (firstHeard false)
      inferInstance :=
  @repliesIndependent standardSdk SendMessageRequest.codec SendMessageResponse.codec Bool Unit
    inferInstance twoAgents twoAgentsClient (readerNetwork (twoHeard false)) ⟨"", []⟩ none () ()
    (firstHeard false) rfl

/-- The failure is heard before the answer, which is lost. -/
theorem not_everyReplyYielded_failure_first :
    ¬ EveryReplyYielded twoAgents ⟨"", []⟩
      ((@MulticastClient.sendMessage SendMessageRequest.codec SendMessageResponse.codec Unit
        twoAgentsClient (readerNetwork (twoHeard true)) ⟨"", []⟩ none).run ()).items := by
  intro h
  have hlost := h false (.task ⟨[1]⟩) rfl
  rw [@items_sendMessage standardSdk SendMessageRequest.codec SendMessageResponse.codec Bool Unit
    twoAgentsClient (readerNetwork (twoHeard true)) twoAgents ⟨"", []⟩ none () () (firstHeard true)
    rfl] at hlost
  have hyielded : yielded twoAgents ⟨"", []⟩ (@Arrival.order standardSdk SendMessageRequest.codec
      SendMessageResponse.codec Bool twoAgents ⟨"", []⟩ (firstHeard true)) = [] :=
    yielded_cons_error rfl [false]
  rw [hyielded] at hlost
  cases hlost

end SlimA2a
