import SlimA2a.ClientTransport
import SlimA2a.Codecs
import SlimA2a.CompatTransport

/-! # Service parameters on the way to the server

A caller puts service parameters into the `ClientCallContext`; the server reads them from the
metadata of the call (`getMetadataValue`, `DefaultCallContextBuilder.build`).  `Forwards` states
that the metadata of one call on the network carries them, and what the server then makes of the
extensions header.

Every transport method makes at most one call, listed by `calls`.  The transports of version 1 hand
the stub no metadata, so they forward nothing; the v0.3 transport forwards everything, the version
header included, which a parameter of that name then overrides. -/

namespace SlimA2a

/-! ### The stubs on a logged network -/

section stubs
variable {σ ρ α : Type} [Proto ρ] [Proto α] (service method : String) (net : Network σ)
  (channel : Channel) (request : ρ) (timeout : Option ℕ) (metadata : Option (Dict String String))

theorem quiet_readStream (messages : List StreamMessage) :
    (readStream messages : AsyncGen σ PyException α).Quiet := by
  induction messages with
  | nil => exact .stop
  | cons m rest ih =>
      cases m with
      | «end» => exact .stop
      | error e => exact .raise _
      | data message =>
          rw [readStream]
          cases (Proto.fromString message : Except PyException α) with
          | ok response => exact .yield response ih
          | error e => exact .raise e

theorem quiet_readMulticast (messages : List MulticastMessage) :
    (readMulticast messages : AsyncGen σ PyException (Context × α)).Quiet := by
  induction messages with
  | nil => exact .stop
  | cons m rest ih =>
      cases m with
      | «end» => exact .stop
      | error e => exact .raise _
      | data context message =>
          rw [readMulticast]
          cases (Proto.fromString message : Except PyException α) with
          | ok response => exact .yield (context, response) ih
          | error e => exact .raise e

/-- The log holds one call, and it carries `metadata`. -/
def CallsOnce (metadata : Option (Dict String String)) (log : List RpcCall) : Prop :=
  ∃ call, log = [call] ∧ call.metadata = metadata

/-- Every stub method makes one call, with the metadata it was handed, whatever becomes of the
response: `callsOnce_unary` and the four lemmas after it. -/
theorem callsOnce_unary (s : σ) :
    CallsOnce metadata ((unary service method net.logged channel request timeout metadata :
      Co (σ × List RpcCall) PyException α).run (s, [])).2.2 := by
  rw [unary, Co.snd_run_bind fun _ _ => rfl]
  exact ⟨_, rfl, rfl⟩

theorem callsOnce_map_unaryStream {β : Type} (f : α → β) (s : σ) :
    CallsOnce metadata (((unaryStream service method net.logged channel request timeout metadata :
      AsyncGen (σ × List RpcCall) PyException α).map f).run (s, [])).state.2 := by
  rw [AsyncGen.run_map]
  exact ⟨_, AsyncGen.log_awaitThen quiet_readStream s [], rfl⟩

theorem callsOnce_mapExcept_unaryStream {β : Type} (f : α → Except PyException β) (s : σ) :
    CallsOnce metadata (((unaryStream service method net.logged channel request timeout metadata :
      AsyncGen (σ × List RpcCall) PyException α).mapExcept f).run (s, [])).state.2 := by
  rw [unaryStream, AsyncGen.mapExcept_awaitThen]
  exact ⟨_, AsyncGen.log_awaitThen (fun messages => (quiet_readStream messages).mapExcept f) s [],
    rfl⟩

theorem callsOnce_map_multicastUnary {β : Type} (f : Context × α → β) (s : σ) :
    CallsOnce metadata
      (((multicastUnary service method net.logged channel request timeout metadata :
        AsyncGen (σ × List RpcCall) PyException (Context × α)).map f).run (s, [])).state.2 := by
  rw [AsyncGen.run_map]
  exact ⟨_, AsyncGen.log_awaitThen quiet_readMulticast s [], rfl⟩

theorem callsOnce_map_multicastUnaryStream {β : Type} (f : Context × α → β) (s : σ) :
    CallsOnce metadata
      (((multicastUnaryStream service method net.logged channel request timeout metadata :
        AsyncGen (σ × List RpcCall) PyException (Context × α)).map f).run (s, [])).state.2 := by
  rw [AsyncGen.run_map]
  exact ⟨_, AsyncGen.log_awaitThen quiet_readMulticast s [], rfl⟩

end stubs

/-! ### Forwarding -/

/-- The caller's service parameters. -/
def parameters (context : Option ClientCallContext) : Dict String String :=
  (context.bind (·.serviceParameters)).getD ∅

/-- The metadata that is delivered for a call; omitted metadata delivers no entries. -/
def RpcCall.delivered (call : RpcCall) : Dict String String := call.metadata.getD ∅

section forwarding
variable [A2aSdk]

/-- The call carries every parameter but the version header, and the server sees the caller's
extensions, whatever session the call arrives on. -/
structure Forwards (parameters : Dict String String) (call : RpcCall) : Prop where
  entries : ∀ key value, parameters.lookup key = some value → key ≠ A2aSdk.versionHeader →
    call.delivered.lookup key = some value
  extensions : ∀ value, parameters.lookup A2aSdk.httpExtensionHeader = some value →
    ∀ (σ : Type) (s : σ) (subject issuer : Option String),
      ∃ serverContext, (DefaultCallContextBuilder.build ⟨subject, issuer, call.delivered⟩).run s =
        (.ok serverContext, s) ∧
        serverContext.requestedExtensions = A2aSdk.getRequestedExtensions [value]

/-- No parameter but the version header. -/
def OnlyVersion (parameters : Dict String String) : Prop :=
  ∀ key value, parameters.lookup key = some value → key = A2aSdk.versionHeader

/-- The extensions follow from the entries. -/
theorem forwards_of_entries {parameters : Dict String String} {call : RpcCall}
    (h : ∀ key value, parameters.lookup key = some value → key ≠ A2aSdk.versionHeader →
      call.delivered.lookup key = some value) : Forwards parameters call := by
  refine ⟨h, ?_⟩
  intro value hvalue σ s subject issuer
  have hdelivered := h _ _ hvalue A2aSdk.versionHeader_ne.symm
  refine ⟨_, rfl, ?_⟩
  simp [getMetadataValue, hdelivered]

/-- A call without metadata forwards a dictionary that holds nothing to forward, and no other. -/
theorem forwards_of_no_metadata {parameters : Dict String String} {call : RpcCall}
    (hcall : call.metadata = none) : Forwards parameters call ↔ OnlyVersion parameters := by
  have hdelivered : call.delivered = ∅ := by
    rw [RpcCall.delivered, hcall]
    rfl
  constructor
  · intro h key value hvalue
    by_contra hkey
    have hlookup := h.entries key value hvalue hkey
    rw [hdelivered, AList.lookup_empty] at hlookup
    cases hlookup
  · intro h
    exact forwards_of_entries fun key value hvalue hkey => absurd (h key value hvalue) hkey

end forwarding

/-! ### The calls of a transport method -/

section calls
variable [Proto SendMessageRequest] [Proto SendMessageResponse] [Proto StreamResponse]
  [Proto GetTaskRequest] [Proto Task] [Proto ListTasksRequest] [Proto ListTasksResponse]
  [Proto CancelTaskRequest] [Proto SubscribeToTaskRequest] [Proto TaskPushNotificationConfig]
  [Proto GetTaskPushNotificationConfigRequest] [Proto ListTaskPushNotificationConfigsRequest]
  [Proto ListTaskPushNotificationConfigsResponse] [Proto GetExtendedAgentCardRequest]
  [Proto AgentCard] [Proto DeleteTaskPushNotificationConfigRequest] [Proto Empty]
  {σ : Type} (net : Network σ) (context : Option ClientCallContext) (s : σ)

namespace SRPCTransport
variable (t : SRPCTransport)

/-- The calls that a method makes on the network. -/
def calls : Call → List RpcCall
  | .sendMessage r => ((t.sendMessage net.logged r context).run (s, [])).2.2
  | .sendStreamingMessage r => ((t.sendMessageStreaming net.logged r context).run (s, [])).state.2
  | .cancelTask r => ((t.cancelTask net.logged r context).run (s, [])).2.2
  | .subscribeToTask r => ((t.subscribe net.logged r context).run (s, [])).state.2
  | .getTask r => ((t.getTask net.logged r context).run (s, [])).2.2
  | .listTasks r => ((t.listTasks net.logged r context).run (s, [])).2.2
  | .getTaskPushNotificationConfig r =>
      ((t.getTaskPushNotificationConfig net.logged r context).run (s, [])).2.2
  | .createTaskPushNotificationConfig r =>
      ((t.createTaskPushNotificationConfig net.logged r context).run (s, [])).2.2
  | .listTaskPushNotificationConfigs r =>
      ((t.listTaskPushNotificationConfigs net.logged r context).run (s, [])).2.2
  | .deleteTaskPushNotificationConfig r =>
      ((t.deleteTaskPushNotificationConfig net.logged r context).run (s, [])).2.2
  | .getExtendedAgentCard r => ((t.getExtendedAgentCard net.logged r context).run (s, [])).2.2

/-- The transport answers from its own card, which advertises no extended card. -/
def AnswersLocally : Call → Prop
  | .getExtendedAgentCard _ =>
      ∃ card, t.agentCard = some card ∧ card.capabilities.extendedAgentCard = false
  | _ => False

theorem calls_of_answersLocally {call : Call} (h : t.AnswersLocally call) :
    t.calls net context s call = [] := by
  cases call with
  | getExtendedAgentCard r =>
      obtain ⟨card, hcard, hextended⟩ := h
      simp only [calls, getExtendedAgentCard, hcard, hextended]
      rfl
  | _ => exact absurd h id

/-- A remote method makes one call, without metadata. -/
theorem calls_of_remote {call : Call} (h : ¬ t.AnswersLocally call) :
    CallsOnce none (t.calls net context s call) := by
  cases call with
  | sendMessage r => exact callsOnce_unary ..
  | sendStreamingMessage r => exact callsOnce_map_unaryStream ..
  | cancelTask r => exact callsOnce_unary ..
  | subscribeToTask r => exact callsOnce_map_unaryStream ..
  | getTask r => exact callsOnce_unary ..
  | listTasks r => exact callsOnce_unary ..
  | getTaskPushNotificationConfig r => exact callsOnce_unary ..
  | createTaskPushNotificationConfig r => exact callsOnce_unary ..
  | listTaskPushNotificationConfigs r => exact callsOnce_unary ..
  | deleteTaskPushNotificationConfig r =>
      rw [calls, deleteTaskPushNotificationConfig, Co.snd_run_bind fun _ _ => rfl]
      exact callsOnce_unary ..
  | getExtendedAgentCard r =>
      have hremote : t.getExtendedAgentCard net.logged r context =
          A2AServiceStub.getExtendedAgentCard net.logged t.channel r none none := by
        unfold getExtendedAgentCard
        cases hcard : t.agentCard with
        | none => rfl
        | some card =>
            cases hextended : card.capabilities.extendedAgentCard with
            | true => simp [hextended]
            | false => exact absurd ⟨card, hcard, hextended⟩ h
      rw [calls, hremote]
      exact callsOnce_unary ..

end SRPCTransport

namespace SRPCMulticastTransport
variable (t : SRPCMulticastTransport)

/-- The calls that a method makes on the network. -/
def calls : Call → List RpcCall
  | .sendMessage r => ((t.sendMessage net.logged r context).run (s, [])).state.2
  | .sendStreamingMessage r => ((t.sendMessageStreaming net.logged r context).run (s, [])).state.2
  | .cancelTask r => ((t.cancelTask net.logged r context).run (s, [])).state.2
  | .subscribeToTask r => ((t.subscribe net.logged r context).run (s, [])).state.2
  | .getTask r => ((t.getTask net.logged r context).run (s, [])).state.2
  | .listTasks r => ((t.listTasks net.logged r context).run (s, [])).state.2
  | .getTaskPushNotificationConfig r =>
      ((t.getTaskPushNotificationConfig net.logged r context).run (s, [])).state.2
  | .createTaskPushNotificationConfig r =>
      ((t.createTaskPushNotificationConfig net.logged r context).run (s, [])).state.2
  | .listTaskPushNotificationConfigs r =>
      ((t.listTaskPushNotificationConfigs net.logged r context).run (s, [])).state.2
  | .deleteTaskPushNotificationConfig r =>
      ((t.deleteTaskPushNotificationConfig net.logged r context).run (s, [])).state.2
  | .getExtendedAgentCard r => ((t.getExtendedAgentCard net.logged r context).run (s, [])).state.2

/-- Every method makes one call, without metadata. -/
theorem callsOnce_calls (call : Call) : CallsOnce none (t.calls net context s call) := by
  cases call with
  | sendStreamingMessage r => exact callsOnce_map_multicastUnaryStream ..
  | subscribeToTask r => exact callsOnce_map_multicastUnaryStream ..
  | sendMessage r => exact callsOnce_map_multicastUnary ..
  | cancelTask r => exact callsOnce_map_multicastUnary ..
  | getTask r => exact callsOnce_map_multicastUnary ..
  | listTasks r => exact callsOnce_map_multicastUnary ..
  | getTaskPushNotificationConfig r => exact callsOnce_map_multicastUnary ..
  | createTaskPushNotificationConfig r => exact callsOnce_map_multicastUnary ..
  | listTaskPushNotificationConfigs r => exact callsOnce_map_multicastUnary ..
  | deleteTaskPushNotificationConfig r => exact callsOnce_map_multicastUnary ..
  | getExtendedAgentCard r => exact callsOnce_map_multicastUnary ..

end SRPCMulticastTransport

namespace MulticastClient
variable (client : MulticastClient)

/-- The calls that a method makes on the network. -/
def calls : Call → List RpcCall
  | .sendMessage r => ((client.sendMessage net.logged r context).run (s, [])).state.2
  | .sendStreamingMessage r =>
      ((client.sendMessageStreaming net.logged r context).run (s, [])).state.2
  | .cancelTask r => ((client.cancelTask net.logged r context).run (s, [])).state.2
  | .subscribeToTask r => ((client.subscribe net.logged r context).run (s, [])).state.2
  | .getTask r => ((client.getTask net.logged r context).run (s, [])).state.2
  | .listTasks r => ((client.listTasks net.logged r context).run (s, [])).state.2
  | .getTaskPushNotificationConfig r =>
      ((client.getTaskPushNotificationConfig net.logged r context).run (s, [])).state.2
  | .createTaskPushNotificationConfig r =>
      ((client.createTaskPushNotificationConfig net.logged r context).run (s, [])).state.2
  | .listTaskPushNotificationConfigs r =>
      ((client.listTaskPushNotificationConfigs net.logged r context).run (s, [])).state.2
  | .deleteTaskPushNotificationConfig r =>
      ((client.deleteTaskPushNotificationConfig net.logged r context).run (s, [])).state.2
  | .getExtendedAgentCard r =>
      ((client.getExtendedAgentCard net.logged r context).run (s, [])).state.2

/-- The calls of the client are those of its transport. -/
theorem calls_eq (call : Call) :
    client.calls net context s call = client.transport.calls net context s call := by
  cases call <;> exact congrArg Prod.snd (AsyncGen.state_map _ _ _)

end MulticastClient
end calls

namespace Compat

section forwarding
variable [A2aSdk]

/-- The metadata holds every parameter, and the protocol version unless a parameter overrides it. -/
theorem lookup_getMetadata (context : Option ClientCallContext) (key : String) :
    (SRPCCompatTransport.getMetadata context).lookup key =
      ((parameters context).lookup key).or
        (if key = A2aSdk.versionHeader then some A2aSdk.protocolVersion03 else none) := by
  have hbase : ((∅ : Dict String String).insert A2aSdk.versionHeader
      A2aSdk.protocolVersion03).lookup key =
      if key = A2aSdk.versionHeader then some A2aSdk.protocolVersion03 else none := by
    by_cases hkey : key = A2aSdk.versionHeader
    · rw [hkey, AList.lookup_insert, if_pos rfl]
    · rw [AList.lookup_insert_ne hkey, if_neg hkey, AList.lookup_empty]
  unfold SRPCCompatTransport.getMetadata parameters
  cases context.bind (·.serviceParameters) with
  | none => rw [hbase]; rfl
  | some parameters => exact (Dict.lookup_update _ _ _).trans (by rw [hbase]; rfl)

/-- What the v0.3 transport owes: the parameters, and its own protocol version. -/
structure Forwards (parameters : Dict String String) (call : RpcCall) : Prop where
  forwards : SlimA2a.Forwards parameters call
  version : call.delivered.lookup A2aSdk.versionHeader = some A2aSdk.protocolVersion03

/-- A version header among the parameters agrees with the transport's. -/
def VersionAgrees (parameters : Dict String String) : Prop :=
  ∀ value, parameters.lookup A2aSdk.versionHeader = some value → value = A2aSdk.protocolVersion03

theorem forwards_of_getMetadata {context : Option ClientCallContext} {call : RpcCall}
    (hcall : call.metadata = some (SRPCCompatTransport.getMetadata context)) :
    Forwards (parameters context) call ↔ VersionAgrees (parameters context) := by
  have hlookup : ∀ key, call.delivered.lookup key = ((parameters context).lookup key).or
      (if key = A2aSdk.versionHeader then some A2aSdk.protocolVersion03 else none) := by
    intro key
    rw [RpcCall.delivered, hcall]
    exact lookup_getMetadata context key
  constructor
  · intro h value hvalue
    have hversion := h.version
    rw [hlookup, hvalue] at hversion
    simpa using hversion
  · intro h
    constructor
    · apply forwards_of_entries
      intro key value hvalue _
      rw [hlookup, hvalue]
      rfl
    · rw [hlookup, if_pos rfl]
      cases hvalue : (parameters context).lookup A2aSdk.versionHeader with
      | none => rfl
      | some value => rw [h value hvalue]; rfl

end forwarding

section calls
variable [A2aSdk] [CompatSdk]
  [Proto V03.SendMessageRequest] [Proto V03.SendMessageResponse] [Proto V03.StreamResponse]
  [Proto V03.GetTaskRequest] [Proto V03.Task] [Proto V03.CancelTaskRequest]
  [Proto V03.TaskSubscriptionRequest] [Proto V03.CreateTaskPushNotificationConfigRequest]
  [Proto V03.TaskPushNotificationConfig] [Proto V03.GetTaskPushNotificationConfigRequest]
  [Proto V03.ListTaskPushNotificationConfigRequest]
  [Proto V03.ListTaskPushNotificationConfigResponse] [Proto V03.GetAgentCardRequest]
  [Proto V03.AgentCard] [Proto V03.DeleteTaskPushNotificationConfigRequest] [Proto Empty]
  {σ : Type} (net : Network σ) (context : Option ClientCallContext) (s : σ)

namespace SRPCCompatTransport
variable (t : SRPCCompatTransport)

/-- The calls that a method makes on the network. -/
def calls : Call → List RpcCall
  | .sendMessage r => ((t.sendMessage net.logged r context).run (s, [])).2.2
  | .sendStreamingMessage r => ((t.sendMessageStreaming net.logged r context).run (s, [])).state.2
  | .cancelTask r => ((t.cancelTask net.logged r context).run (s, [])).2.2
  | .subscribeToTask r => ((t.subscribe net.logged r context).run (s, [])).state.2
  | .getTask r => ((t.getTask net.logged r context).run (s, [])).2.2
  | .listTasks r => ((listTasks r context).run (s, [])).2.2
  | .getTaskPushNotificationConfig r =>
      ((t.getTaskPushNotificationConfig net.logged r context).run (s, [])).2.2
  | .createTaskPushNotificationConfig r =>
      ((t.createTaskPushNotificationConfig net.logged r context).run (s, [])).2.2
  | .listTaskPushNotificationConfigs r =>
      ((t.listTaskPushNotificationConfigs net.logged r context).run (s, [])).2.2
  | .deleteTaskPushNotificationConfig r =>
      ((t.deleteTaskPushNotificationConfig net.logged r context).run (s, [])).2.2
  | .getExtendedAgentCard r => ((t.getExtendedAgentCard net.logged r context).run (s, [])).2.2

/-- The method fails before it calls: the request has no v0.3 form. -/
def FailsBeforeCall : Call → Prop
  | .sendMessage r => ∃ e, sendMessageRequest r = .error e
  | .sendStreamingMessage r => ∃ e, sendMessageRequest r = .error e
  | .createTaskPushNotificationConfig r =>
      ∃ e, createTaskPushNotificationConfigRequest r = .error e
  | .listTasks _ => True
  | _ => False

theorem calls_of_failsBeforeCall {call : Call} (h : FailsBeforeCall call) :
    t.calls net context s call = [] := by
  cases call with
  | sendMessage r =>
      obtain ⟨e, he⟩ := h
      rw [calls, sendMessage, he]
      rfl
  | sendStreamingMessage r =>
      obtain ⟨e, he⟩ := h
      rw [calls, sendMessageStreaming, he]
      rfl
  | createTaskPushNotificationConfig r =>
      obtain ⟨e, he⟩ := h
      rw [calls, createTaskPushNotificationConfig, he]
      rfl
  | listTasks r => rfl
  | _ => exact absurd h id

/-- A method that calls makes one call, with the metadata of `getMetadata`. -/
theorem calls_of_remote {call : Call} (h : ¬ FailsBeforeCall call) :
    CallsOnce (some (getMetadata context)) (t.calls net context s call) := by
  cases call with
  | sendMessage r =>
      cases hr : sendMessageRequest r with
      | error e => exact absurd ⟨e, hr⟩ h
      | ok reqProto =>
          rw [calls, sendMessage, hr, Co.run_bind_ok (Co.run_ofExcept _ _), Co.snd_run_bind_still]
          · exact callsOnce_unary ..
          · intro response
            cases response with
            | unset => exact Co.still_pure _
            | task task =>
                exact Co.still_bind (Co.still_ofExcept _) fun _ =>
                  Co.still_bind (Co.still_ofExcept _) fun _ => Co.still_pure _
            | msg message =>
                exact Co.still_bind (Co.still_ofExcept _) fun _ =>
                  Co.still_bind (Co.still_ofExcept _) fun _ => Co.still_pure _
  | sendStreamingMessage r =>
      cases hr : sendMessageRequest r with
      | error e => exact absurd ⟨e, hr⟩ h
      | ok reqProto =>
          rw [calls, sendMessageStreaming, hr, AsyncGen.run_awaitThen_ok (Co.run_ofExcept _ _)]
          exact callsOnce_mapExcept_unaryStream ..
  | cancelTask r =>
      rw [calls, cancelTask, Co.snd_run_bind_still fun _ => Co.still_decode _ _]
      exact callsOnce_unary ..
  | subscribeToTask r => exact callsOnce_mapExcept_unaryStream ..
  | getTask r =>
      rw [calls, getTask, Co.snd_run_bind_still fun _ => Co.still_decode _ _]
      exact callsOnce_unary ..
  | listTasks r => exact absurd trivial h
  | getTaskPushNotificationConfig r =>
      rw [calls, getTaskPushNotificationConfig, Co.snd_run_bind_still fun _ => Co.still_decode _ _]
      exact callsOnce_unary ..
  | createTaskPushNotificationConfig r =>
      cases hr : createTaskPushNotificationConfigRequest r with
      | error e => exact absurd ⟨e, hr⟩ h
      | ok reqProto =>
          rw [calls, createTaskPushNotificationConfig, hr, Co.run_bind_ok (Co.run_ofExcept _ _),
            Co.snd_run_bind_still fun _ => Co.still_decode _ _]
          exact callsOnce_unary ..
  | listTaskPushNotificationConfigs r =>
      rw [calls, listTaskPushNotificationConfigs,
        Co.snd_run_bind_still fun _ => Co.still_decode _ _]
      exact callsOnce_unary ..
  | deleteTaskPushNotificationConfig r =>
      rw [calls, deleteTaskPushNotificationConfig, Co.snd_run_bind_still fun _ => Co.still_pure _]
      exact callsOnce_unary ..
  | getExtendedAgentCard r =>
      rw [calls, getExtendedAgentCard, Co.snd_run_bind_still fun _ =>
        Co.still_bind (Co.still_ofExcept _) fun _ =>
          Co.still_bind (Co.still_ofExcept _) fun _ => Co.still_pure _]
      exact callsOnce_unary ..

end SRPCCompatTransport

end calls
end Compat

/-! ### All transports -/

section transports
variable [A2aSdk] [CompatSdk]
  [Proto SendMessageRequest] [Proto SendMessageResponse] [Proto StreamResponse]
  [Proto GetTaskRequest] [Proto Task] [Proto ListTasksRequest] [Proto ListTasksResponse]
  [Proto CancelTaskRequest] [Proto SubscribeToTaskRequest] [Proto TaskPushNotificationConfig]
  [Proto GetTaskPushNotificationConfigRequest] [Proto ListTaskPushNotificationConfigsRequest]
  [Proto ListTaskPushNotificationConfigsResponse] [Proto GetExtendedAgentCardRequest]
  [Proto AgentCard] [Proto DeleteTaskPushNotificationConfigRequest] [Proto Empty]
  [Proto V03.SendMessageRequest] [Proto V03.SendMessageResponse] [Proto V03.StreamResponse]
  [Proto V03.GetTaskRequest] [Proto V03.Task] [Proto V03.CancelTaskRequest]
  [Proto V03.TaskSubscriptionRequest] [Proto V03.CreateTaskPushNotificationConfigRequest]
  [Proto V03.TaskPushNotificationConfig] [Proto V03.GetTaskPushNotificationConfigRequest]
  [Proto V03.ListTaskPushNotificationConfigRequest]
  [Proto V03.ListTaskPushNotificationConfigResponse] [Proto V03.GetAgentCardRequest]
  [Proto V03.AgentCard] [Proto V03.DeleteTaskPushNotificationConfigRequest]
  {σ : Type} (net : Network σ) (context : Option ClientCallContext) (s : σ) (call : Call)

/-- **When the caller's service parameters reach the server**, for every transport method. -/
theorem parameters_forwarded_iff :
    (∀ t : SRPCTransport, (∀ c ∈ t.calls net context s call, Forwards (parameters context) c) ↔
      t.AnswersLocally call ∨ OnlyVersion (parameters context)) ∧
    (∀ t : SRPCMulticastTransport,
      (∀ c ∈ t.calls net context s call, Forwards (parameters context) c) ↔
        OnlyVersion (parameters context)) ∧
    (∀ t : Compat.SRPCCompatTransport,
      (∀ c ∈ t.calls net context s call, Compat.Forwards (parameters context) c) ↔
        Compat.SRPCCompatTransport.FailsBeforeCall call ∨
          Compat.VersionAgrees (parameters context)) := by
  refine ⟨fun t => ?_, fun t => ?_, fun t => ?_⟩
  · by_cases hlocal : t.AnswersLocally call
    · simp [t.calls_of_answersLocally net context s hlocal, hlocal]
    · obtain ⟨c, hc, hmetadata⟩ := t.calls_of_remote net context s hlocal
      simp [hc, hlocal, forwards_of_no_metadata hmetadata]
  · obtain ⟨c, hc, hmetadata⟩ := t.callsOnce_calls net context s call
    simp [hc, forwards_of_no_metadata hmetadata]
  · by_cases hfails : Compat.SRPCCompatTransport.FailsBeforeCall call
    · simp [t.calls_of_failsBeforeCall net context s hfails, hfails]
    · obtain ⟨c, hc, hmetadata⟩ := t.calls_of_remote net context s hfails
      simp [hc, hfails, Compat.forwards_of_getMetadata hmetadata]

end transports

/-- A network on which every call fails. -/
def unavailable : Network Unit where
  callUnaryAsync _ _ := Co.raise (.rpc ⟨.other "UNAVAILABLE", "", none⟩)
  callUnaryStreamAsync _ _ := Co.raise (.rpc ⟨.other "UNAVAILABLE", "", none⟩)
  callMulticastUnaryAsync _ _ := Co.raise (.rpc ⟨.other "UNAVAILABLE", "", none⟩)
  callMulticastUnaryStreamAsync _ _ := Co.raise (.rpc ⟨.other "UNAVAILABLE", "", none⟩)

/-- A caller that asks for the extension `urn:a` through `SRPCTransport.send_message`: the call goes
out without the header. -/
theorem not_forwards_sendMessage :
    let context : ClientCallContext :=
      ⟨some ((∅ : Dict String String).insert "A2A-Extensions" "urn:a")⟩
    let t : SRPCTransport := ⟨none, .newWithConnection ⟨0⟩ ⟨"agntcy", "demo", "agent"⟩ 1⟩
    ¬ ∀ c ∈ ((@SRPCTransport.sendMessage SendMessageRequest.codec SendMessageResponse.codec _ t
        unavailable.logged ⟨"", []⟩ (some context)).run ((), [])).2.2,
      @Forwards standardSdk (parameters (some context)) c := by
  intro context t h
  have hentries := @Forwards.entries standardSdk _ _ (h _ (List.mem_singleton.mpr rfl))
    "A2A-Extensions" "urn:a" (by decide) (by decide)
  exact absurd hentries (by decide)

end SlimA2a
