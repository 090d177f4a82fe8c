import SlimA2a.GroupCalls
import SlimA2a.GroupChannel

/-! # From the cards to the answers

`MultiAgentClientFactory.create` makes a client from cards, and the client makes calls over its
group channel.  A `Directory` says which agent listens under a name, in the state in which a call
finds it, and `ReachesMembers` is what the network does for a group channel: a call over it is heard
by the agents that its members name, and by no others.

So a client that was made from cards gets the answers of the agents that the cards name, up to the
first error to arrive (`answersCards`).  It is assumed that no agent's call ends with an exception
outside of `Exception`, about which the network promises nothing. -/

namespace SlimA2a

/-- Which agent listens under a name, and the source of what it sends. -/
structure Directory where
  agent : Name → GroupAgent
  source : Name → Context
  source_injective : Function.Injective source

/-- The agents under the names of a list. -/
def Directory.group (d : Directory) (members : List Name) : Group {name // name ∈ members} where
  agent i := d.agent i
  source i := d.source i
  source_injective := d.source_injective.comp Subtype.val_injective

section group
variable [A2aClientSdk]

open MultiAgentClientFactory in
/-- Cards that can be dialled are dialled, over one group channel. -/
theorem run_create_dialable {config : ClientConfig} {localApp : App} {connId : ℕ}
    (hgroup : config.slimrpcGroupChannelFactory = some (slimrpcGroupChannelFactory localApp connId))
    (hsupported : config.supportedProtocolBindings = [] ∨
      "slimrpc" ∈ config.supportedProtocolBindings)
    {cards : List AgentCard} (hcards : 2 ≤ cards.length)
    (hdialable : ∀ card ∈ cards, ¬ Undialable card) (interceptors : Option (List Interceptor))
    (channels : List Channel) :
    ∃ members, List.Forall₂ Dials cards members ∧
      ((init config).create (.many cards) interceptors).run channels =
        (.ok (.produced (.multicastClient ⟨⟨.newGroupWithConnection localApp members connId⟩⟩)),
          channels ++ [.newGroupWithConnection localApp members connId]) := by
  rw [create_many _ hcards, config_init]
  rcases handsTo_init hsupported hcards with hok | ⟨-, ⟨card, hcard, hundialable⟩, -⟩
  · rw [hok, Co.run_bind_ok (Co.run_ofExcept _ _)]
    rcases run_create_many hgroup cards none channels with
      ⟨members, hall, hrun⟩ | ⟨-, ⟨card, hcard, hundialable⟩, -⟩
    · exact ⟨members, hall, Co.run_bind_ok hrun _⟩
    · exact absurd hundialable (hdialable card hcard)
  · exact absurd hundialable (hdialable card hcard)

variable [A2aSdk] [Proto SendMessageRequest] [Proto SendMessageResponse] [Proto StreamResponse]
  [Proto GetTaskRequest] [Proto Task] [Proto ListTasksRequest] [Proto ListTasksResponse]
  [Proto CancelTaskRequest] [Proto SubscribeToTaskRequest] [Proto TaskPushNotificationConfig]
  [Proto GetTaskPushNotificationConfigRequest] [Proto ListTaskPushNotificationConfigsRequest]
  [Proto ListTaskPushNotificationConfigsResponse] [Proto GetExtendedAgentCardRequest]
  [Proto AgentCard] [Proto DeleteTaskPushNotificationConfigRequest] [Proto Empty]
  {σ : Type}

/-- A call over a group channel is heard by the agents that its members name. -/
def ReachesMembers (net : Network σ) (directory : σ → Directory) : Prop :=
  ∀ (localApp : App) (members : List Name) (connId : ℕ) (call : Call) (s s' : σ)
    (items : List MulticastMessage), members.Nodup →
    (call.multicast net (.newGroupWithConnection localApp members connId) call.rpcCall).run s =
      (.ok items, s') →
    ∃ arrival : GroupArrival ((directory s).group members) call, items = arrival.items

/-- The calls of a client are answered by the agents under the names in `members`, if none of them
ends with an exception outside of `Exception`. -/
def AnsweredBy (net : Network σ) (directory : σ → Directory) (client : MulticastClient)
    (members : List Name) : Prop :=
  ∀ (context : Option ClientCallContext) (call : Call) (s s' : σ) (items : List MulticastMessage),
    (call.multicast net client.transport.channel call.rpcCall).run s = (.ok items, s') →
    (∀ i, Completes ((((directory s).group members).agent i).handler.serve
      (((directory s).group members).agent i).peer (((directory s).group members).agent i).state
        call).result) →
    ∃ arrival : GroupArrival ((directory s).group members) call, items = arrival.items ∧
      GroupYields ((directory s).group members) client net context call arrival s s'

/-- **A client that was made from cards gets the answers of the agents that the cards name**, over
one group channel to exactly these agents. -/
theorem answersCards {config : ClientConfig} {localApp : App} {connId : ℕ}
    (hgroup : config.slimrpcGroupChannelFactory = some (slimrpcGroupChannelFactory localApp connId))
    (hsupported : config.supportedProtocolBindings = [] ∨
      "slimrpc" ∈ config.supportedProtocolBindings)
    {cards : List AgentCard} (hcards : 2 ≤ cards.length)
    (hdialable : ∀ card ∈ cards, ¬ Undialable card) (interceptors : Option (List Interceptor))
    (channels : List Channel) {net : Network σ} {directory : σ → Directory}
    (hreaches : ReachesMembers net directory) :
    ∃ members client, List.Forall₂ Dials cards members ∧
      client.transport.channel = .newGroupWithConnection localApp members connId ∧
      ((MultiAgentClientFactory.init config).create (.many cards) interceptors).run channels =
        (.ok (.produced (.multicastClient client)), channels ++ [client.transport.channel]) ∧
      (members.Nodup → AnsweredBy net directory client members) := by
  obtain ⟨members, hmembers, hcreate⟩ :=
    run_create_dialable hgroup hsupported hcards hdialable interceptors channels
  refine ⟨members, _, hmembers, rfl, hcreate, fun hnodup => ?_⟩
  intro context call s s' items hcall hcompletes
  obtain ⟨arrival, rfl⟩ := hreaches localApp members connId call s s' items hnodup hcall
  exact ⟨arrival, rfl, arrival.yields hcompletes hcall⟩

end group

/-! ### Two agents -/

namespace Concrete

scoped instance : A2aClientSdk := standardClientSdk

end Concrete

section concrete
open scoped Concrete

def nameA : Name := ⟨"agntcy", "demo", "a"⟩
def nameB : Name := ⟨"agntcy", "demo", "b"⟩

/-- The agent that fails listens under `nameB`, and the one that streams everywhere else. -/
def demoDirectory : Directory where
  agent name := streamingAgents.agent (name == nameB)
  source name := ⟨some name.component0, some name.component1,
    (∅ : Dict String String).insert "name" name.component2⟩
  source_injective := by
    rintro ⟨a, b, c⟩ ⟨a', b', c'⟩ h
    have ha := Option.some.inj (congrArg Context.peerSubject h)
    have hb := Option.some.inj (congrArg Context.peerIssuer h)
    have hc := congrArg (fun context => context.metadata.lookup "name") h
    simp only [AList.lookup_insert, Option.some.injEq] at hc
    cases ha
    cases hb
    cases hc
    rfl

/-- The failure is heard between the two tasks. -/
def demoArrival : GroupArrival (demoDirectory.group [nameA, nameB])
    (.sendStreamingMessage ⟨"", [7]⟩) where
  sent i := streamingSent (i.1 == nameB)
  sends i := sends_streamingSent (i.1 == nameB)
  messages := [
    (⟨nameA, by decide⟩, .ok (Proto.serializeToString (StreamResponse.task ⟨[7]⟩))),
    (⟨nameB, by decide⟩, .error (slimRPCError agentFailure)),
    (⟨nameA, by decide⟩, .ok (Proto.serializeToString (StreamResponse.task ⟨[7]⟩)))]
  interleaving := by
    rintro ⟨name, hname⟩
    rcases List.mem_cons.mp hname with rfl | hname
    · rfl
    · cases List.mem_singleton.mp hname
      rfl

/-- A network that carries this one message to these two agents. -/
def demoNetwork : Network Unit where
  callUnaryAsync _ _ := Co.raise (.rpc ⟨.unimplemented, "", none⟩)
  callUnaryStreamAsync _ _ := Co.raise (.rpc ⟨.unimplemented, "", none⟩)
  callMulticastUnaryAsync _ _ := Co.raise (.rpc ⟨.unimplemented, "", none⟩)
  callMulticastUnaryStreamAsync channel call :=
    if channel = .newGroupWithConnection ⟨0⟩ [nameA, nameB] 7 ∧
        call = (Call.sendStreamingMessage ⟨"", [7]⟩).rpcCall then
      pure demoArrival.items
    else Co.raise (.rpc ⟨.unimplemented, "", none⟩)

theorem run_demoNetwork {channel : Channel} {call : RpcCall} {s s' : Unit}
    {items : List MulticastMessage}
    (h : (demoNetwork.callMulticastUnaryStreamAsync channel call).run s = (.ok items, s')) :
    channel = .newGroupWithConnection ⟨0⟩ [nameA, nameB] 7 ∧
      call = (Call.sendStreamingMessage ⟨"", [7]⟩).rpcCall ∧ items = demoArrival.items := by
  unfold demoNetwork at h
  dsimp only at h
  split at h
  · rename_i heq
    cases h
    exact ⟨heq.1, heq.2, rfl⟩
  · cases h

theorem reachesMembers_demoNetwork : ReachesMembers demoNetwork fun _ => demoDirectory := by
  intro localApp members connId call s s' items _ hcall
  cases call with
  | sendStreamingMessage r =>
      obtain ⟨hchannel, hrpc, rfl⟩ := run_demoNetwork hcall
      cases hchannel
      cases Proto.serializeToString_injective (congrArg RpcCall.request hrpc)
      exact ⟨demoArrival, rfl⟩
  | subscribeToTask r =>
      obtain ⟨-, hrpc, -⟩ := run_demoNetwork hcall
      have hmethod : "SubscribeToTask" = "SendStreamingMessage" := congrArg RpcCall.method hrpc
      exact absurd hmethod (by decide)
  | _ => cases hcall

theorem not_undialable_slimrpcCard {name : Name} (hname : name.SlashFree) :
    ¬ Undialable (slimrpcCard name.component2 name.url) := by
  have hdials : Dials (slimrpcCard name.component2 name.url) name :=
    ⟨hname, ⟨name.url, "slimrpc", []⟩, List.mem_singleton_self _, rfl, rfl, rfl⟩
  exact hdials.not_undialable

def demoCards : List AgentCard := [slimrpcCard "a" nameA.url, slimrpcCard "b" nameB.url]

theorem slashFree_nameA : nameA.SlashFree := ⟨by decide, by decide, by decide⟩

theorem slashFree_nameB : nameB.SlashFree := ⟨by decide, by decide, by decide⟩

theorem dialable_demoCards : ∀ card ∈ demoCards, ¬ Undialable card := by
  intro card hcard
  rcases List.mem_cons.mp hcard with rfl | hcard
  · exact not_undialable_slimrpcCard slashFree_nameA
  · rw [List.mem_singleton.mp hcard]
    exact not_undialable_slimrpcCard slashFree_nameB

theorem eq_of_dials_slimrpcCard {name name' : Name} (hname : name.SlashFree)
    (hdials : Dials (slimrpcCard name.component2 name.url) name') : name' = name := by
  obtain ⟨hslash, interface, hmem, -, -, hurl⟩ := hdials
  cases List.mem_singleton.mp hmem
  exact eq_of_url_eq hslash hname hurl.symm

theorem completes_demoDirectory (i : {name // name ∈ [nameA, nameB]}) :
    Completes (((demoDirectory.group [nameA, nameB]).agent i).handler.serve
      ((demoDirectory.group [nameA, nameB]).agent i).peer
      ((demoDirectory.group [nameA, nameB]).agent i).state
      (.sendStreamingMessage ⟨"", [7]⟩)).result := by
  obtain ⟨name, hname⟩ := i
  rcases List.mem_cons.mp hname with rfl | hname
  · exact fun _ => nofun
  · cases List.mem_singleton.mp hname
    exact fun _ => nofun

/-- A client that was made from the cards of both agents, and its call to them. -/
theorem answersCards_two :
    ∃ members client, (List.Forall₂ Dials demoCards members ∧
      client.transport.channel = .newGroupWithConnection ⟨0⟩ members 7 ∧
      ((MultiAgentClientFactory.init groupConfig).create (.many demoCards) none).run [] =
        (.ok (.produced (.multicastClient client)), [] ++ [client.transport.channel]) ∧
      (members.Nodup → AnsweredBy demoNetwork (fun _ => demoDirectory) client members)) ∧
      ∃ arrival : GroupArrival (demoDirectory.group members) (.sendStreamingMessage ⟨"", [7]⟩),
        demoArrival.items = arrival.items ∧
          GroupYields (demoDirectory.group members) client demoNetwork none
            (.sendStreamingMessage ⟨"", [7]⟩) arrival () () := by
  have hclient : ∃ members client, List.Forall₂ Dials demoCards members ∧
      client.transport.channel = .newGroupWithConnection ⟨0⟩ members 7 ∧
      ((MultiAgentClientFactory.init groupConfig).create (.many demoCards) none).run [] =
        (.ok (.produced (.multicastClient client)), [] ++ [client.transport.channel]) ∧
      (members.Nodup → AnsweredBy demoNetwork (fun _ => demoDirectory) client members) :=
    answersCards rfl (Or.inr List.mem_cons_self) (by decide) dialable_demoCards none []
      reachesMembers_demoNetwork
  obtain ⟨members, client, hdials, hchannel, hcreate, hanswers⟩ := hclient
  refine ⟨members, client, ⟨hdials, hchannel, hcreate, hanswers⟩, ?_⟩
  obtain rfl : members = [nameA, nameB] := by
    cases hdials with
    | cons hA hrest =>
        cases hrest with
        | cons hB hrest =>
            cases hrest
            rw [eq_of_dials_slimrpcCard slashFree_nameA hA,
              eq_of_dials_slimrpcCard slashFree_nameB hB]
  have hnodup : [nameA, nameB].Nodup := by decide
  refine hanswers hnodup none (.sendStreamingMessage ⟨"", [7]⟩) () () demoArrival.items ?_
    completes_demoDirectory
  show (demoNetwork.callMulticastUnaryStreamAsync client.transport.channel _).run () = _
  rw [hchannel, demoNetwork]
  dsimp only
  rw [if_pos ⟨rfl, rfl⟩]
  rfl

end concrete
end SlimA2a
