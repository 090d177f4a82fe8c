import SlimA2a.CompatWire
import SlimA2a.LoggedServers
import Mathlib.Logic.Function.Basic

/-! # Sessions

A session is a run of requests that clients of both versions make of one agent, in any order.
`Session.run` is the run over a network.  `Servicers.exchanges` says what it comes to: for each
request the calls that the request handler received for it, and its answer, as the client sees it
(`Servicers.outcome`).  An RPC that ends with an exception outside of `Exception` gives its client
nothing that the network promises, so a run is assumed to have none (`Servicers.Uninterrupted`).

A client either has the result of a call itself or sends one RPC (`AgentClient.plan`).  Which of the
two is decided by the transport it was made with, not by what happened before, so the requests of
a session are independent of each other but for the world of the agent. -/

namespace SlimA2a

/-! ### Clients -/

/-- A client of an agent. -/
inductive AgentClient where
  | v1 (transport : SRPCTransport)
  | v03 (transport : Compat.SRPCCompatTransport)

/-- What a client does with a call: it has the result itself, or it sends an RPC. -/
inductive Plan where
  | own (result : Except PyException Response)
  | send (rpcCall : RpcCall) (rpc : Rpc)

/-- The card of the transport, if it is the answer. -/
def SRPCTransport.ownCard (t : SRPCTransport) : Call → Option AgentCard
  | .getExtendedAgentCard _ => t.agentCard.filter fun card => !card.capabilities.extendedAgentCard
  | _ => none

namespace AgentClient

def channel : AgentClient → Channel
  | v1 t => t.channel
  | v03 t => t.channel

end AgentClient

/-! ### Requests -/

/-- A request of a session. -/
structure ClientRequest (κ : Type) where
  client : κ
  context : Option ClientCallContext
  call : Call

/-- What a client gets of a request. -/
structure Reply where
  items : List StreamResponse
  result : Except PyException Response

/-- What a request comes to: the calls that the request handler received, and the reply. -/
structure Exchange where
  received : List HandlerCall
  reply : Reply

/-- The clients, and the world of the agent. -/
structure Session (κ σ : Type) where
  clients : κ → AgentClient
  world : σ

/-- What the client sees of an outcome. -/
def Outcome.reply {σ : Type} (o : Outcome StreamResponse Response σ) : Reply := ⟨o.items, o.result⟩

/-! ### What an RPC comes to -/

namespace Servicers
variable [A2aSdk] [CompatSdk] {σ : Type} (servicers : Servicers σ)

open Classical in
/-- What becomes of an exception of an RPC on its way to the client: an A2A error is reported,
unless it is one that no `try` block covers. -/
noncomputable def seenError (context : Context) (s : σ) : Rpc → PyException → PyException
  | .v1 call =>
      if servicers.v1.Covered context s call then wireError ∘ report else wireError
  | .v03 (.getAgentCard _) => wireError
  | .v03 _ => wireError ∘ Compat.SRPCCompatHandler.report

/-- What the client gets of an RPC: the answer of the request handler to the call that is delivered,
converted.  The one method without a call gives the card that is served. -/
noncomputable def outcome (context : Context) (s : σ) (rpc : Rpc) :
    Outcome StreamResponse Response σ :=
  match rpc with
  | .v1 call =>
      ((servicers.requestHandler.answerTo streamed (servicers.v1.delivery context call) s).andThen
        servicers.v1.respond).mapError (servicers.seenError context s rpc)
  | .v03 call =>
      let o : Outcome V03.StreamResponse Compat.CompatResponse σ :=
        match call.handlerCall with
        | some request =>
            (servicers.requestHandler.answerTo toProtoEvent
              (servicers.v03.delivery context request) s).andThen
                Compat.SRPCCompatHandler.respond
        | none => .ofUnary id (servicers.v03.servedCard.run s)
      (o.mapError (servicers.seenError context s rpc)).decode
        Compat.SRPCCompatTransport.streamResponse Compat.decodeResponse

variable {servicers : Servicers σ} {context : Context} {s : σ} {rpc : Rpc}

end Servicers

/-! ### What a client does -/

section plans
variable [A2aSdk] [CompatSdk]
  [Proto SendMessageRequest] [Proto GetTaskRequest] [Proto ListTasksRequest]
  [Proto CancelTaskRequest] [Proto SubscribeToTaskRequest] [Proto TaskPushNotificationConfig]
  [Proto GetTaskPushNotificationConfigRequest] [Proto ListTaskPushNotificationConfigsRequest]
  [Proto GetExtendedAgentCardRequest] [Proto DeleteTaskPushNotificationConfigRequest]
  [Proto V03.SendMessageRequest] [Proto V03.GetTaskRequest] [Proto V03.CancelTaskRequest]
  [Proto V03.TaskSubscriptionRequest] [Proto V03.CreateTaskPushNotificationConfigRequest]
  [Proto V03.GetTaskPushNotificationConfigRequest]
  [Proto V03.ListTaskPushNotificationConfigRequest] [Proto V03.GetAgentCardRequest]
  [Proto V03.DeleteTaskPushNotificationConfigRequest]

namespace AgentClient

/-- What the client does with a call. -/
def plan (context : Option ClientCallContext) (call : Call) : AgentClient → Plan
  | v1 t =>
      match t.ownCard call with
      | some card => .own (.ok (.agentCard card))
      | none => .send call.rpcCall (.v1 call)
  | v03 _ =>
      match Compat.encodeCall call with
      | .ok compatCall => .send (compatCall.rpcCall context) (.v03 compatCall)
      | .error e => .own (.error e)

end AgentClient

/-! ### What a session comes to -/

namespace Servicers
variable {κ σ : Type} [DecidableEq κ] (servicers : Servicers σ)

/-- What a request of `client` comes to, whatever happened before it. -/
structure Settles (client : AgentClient) (peer : RpcCall → Context) (r : ClientRequest κ)
    (x : Exchange) : Prop where
  /-- A client that has the result itself asks nobody. -/
  own : ∀ result, client.plan r.context r.call = .own result → x = ⟨[], [], result⟩
  atMostOnce : x.received.length ≤ 1
  once : ∀ rpcCall rpc response, client.plan r.context r.call = .send rpcCall rpc →
    rpc.IsHandled → x.reply.result = .ok response → x.received.length = 1
  makes : ∀ rpcCall rpc, client.plan r.context r.call = .send rpcCall rpc →
    ∀ y ∈ x.received, rpc.Makes y
  /-- The default builders know the caller of each request. -/
  caller : servicers.contextBuilder = none → servicers.compatContextBuilder = none →
    ∀ rpcCall rpc, client.plan r.context r.call = .send rpcCall rpc →
      ∀ y ∈ x.received, y.context = callContext (peer rpcCall) rpc

omit [DecidableEq κ] in
/-- Clients with the same plans settle a request in the same way. -/
theorem Settles.congr {servicers : Servicers σ} {client client' : AgentClient}
    {peer : RpcCall → Context} {r : ClientRequest κ} {x : Exchange}
    (h : servicers.Settles client peer r x)
    (hplan : client.plan r.context r.call = client'.plan r.context r.call) :
    servicers.Settles client' peer r x := by
  refine ⟨?_, h.atMostOnce, ?_, ?_, ?_⟩ <;> rw [← hplan]
  exacts [h.own, h.once, h.makes, h.caller]

end Servicers
end plans

section sessions
variable [A2aSdk] [CompatSdk]
  [Proto SendMessageRequest] [Proto SendMessageResponse] [Proto StreamResponse]
  [Proto GetTaskRequest] [Proto Task] [Proto ListTasksRequest] [Proto ListTasksResponse]
  [Proto CancelTaskRequest] [Proto SubscribeToTaskRequest] [Proto TaskPushNotificationConfig]
  [Proto GetTaskPushNotificationConfigRequest] [Proto ListTaskPushNotificationConfigsRequest]
  [Proto ListTaskPushNotificationConfigsResponse] [Proto GetExtendedAgentCardRequest]
  [Proto AgentCard] [Proto DeleteTaskPushNotificationConfigRequest] [Proto Empty]
  [Proto V03.SendMessageRequest] [Proto V03.SendMessageResponse] [Proto V03.StreamResponse]
  [Proto V03.GetTaskRequest] [Proto V03.Task] [Proto V03.CancelTaskRequest]
  [Proto V03.TaskSubscriptionRequest] [Proto V03.CreateTaskPushNotificationConfigRequest]
  [Proto V03.TaskPushNotificationConfig] [Proto V03.GetTaskPushNotificationConfigRequest]
  [Proto V03.ListTaskPushNotificationConfigRequest]
  [Proto V03.ListTaskPushNotificationConfigResponse] [Proto V03.GetAgentCardRequest]
  [Proto V03.AgentCard] [Proto V03.DeleteTaskPushNotificationConfigRequest]
  {κ σ : Type}

namespace AgentClient

/-- A call of the client, in the world `s`. -/
def request (net : Network σ) (context : Option ClientCallContext) (s : σ) (call : Call) :
    AgentClient → Outcome StreamResponse Response σ
  | v1 t => t.request net context s call
  | v03 t => t.request net context s call

/-- The client after the call. -/
def after (net : Network σ) (context : Option ClientCallContext) (s : σ) :
    Call → AgentClient → AgentClient
  | .getExtendedAgentCard r, v03 t =>
      match ((t.getExtendedAgentCard net r context).run s).1 with
      | .ok (_, t') => v03 t'
      | .error _ => v03 t
  | _, client => client

end AgentClient

/-! ### Over the network -/

variable [DecidableEq κ]

/-- Make a request over the network. -/
def Session.step (net : Network σ) (session : Session κ σ) (r : ClientRequest κ) :
    Reply × Session κ σ :=
  let client := session.clients r.client
  let o := client.request net r.context session.world r.call
  (o.reply, ⟨Function.update session.clients r.client
    (client.after net r.context session.world r.call), o.state⟩)

/-- Make requests over the network, one after the other. -/
def Session.run (net : Network σ) : Session κ σ → List (ClientRequest κ) → List Reply × Session κ σ
  | session, [] => ([], session)
  | session, r :: requests =>
      let next := session.step net r
      let rest := next.2.run net requests
      (next.1 :: rest.1, rest.2)

section step
variable {net : Network (σ × List HandlerCall)} {servicers : Servicers σ}
  {peer : RpcCall → Context} {client : AgentClient} {context : Option ClientCallContext} {s : σ}
  {log : List HandlerCall} {call : Call}

end step

section run
variable {net : Network (σ × List HandlerCall)} {servicers : Servicers σ}
  {peer : κ → RpcCall → Context}

end run

end sessions

/-! ### Two clients of one agent -/

section concrete
open scoped Concrete

end concrete
end SlimA2a
