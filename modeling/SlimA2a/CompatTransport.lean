import SlimA2a.ResourceName
import SlimA2a.Slimrpc

/-! # The client of version 0.3

`SRPCCompatTransport` (`compat/v3_0/client_transport.py`) offers the methods of the version 1 client
and speaks v0.3: it converts the request, calls the v0.3 stub with the metadata of `getMetadata`,
and converts the response.  Tasks and configs are addressed by the names of `ResourceName`.

`getExtendedAgentCard` also replaces the transport's card, so it returns the transport it leaves. -/

namespace SlimA2a.Compat

section
variable [A2aSdk] [CompatSdk]
  [Proto V03.SendMessageRequest] [Proto V03.SendMessageResponse] [Proto V03.StreamResponse]
  [Proto V03.GetTaskRequest] [Proto V03.Task] [Proto V03.CancelTaskRequest]
  [Proto V03.TaskSubscriptionRequest] [Proto V03.CreateTaskPushNotificationConfigRequest]
  [Proto V03.TaskPushNotificationConfig] [Proto V03.GetTaskPushNotificationConfigRequest]
  [Proto V03.ListTaskPushNotificationConfigRequest]
  [Proto V03.ListTaskPushNotificationConfigResponse] [Proto V03.GetAgentCardRequest]
  [Proto V03.AgentCard] [Proto V03.DeleteTaskPushNotificationConfigRequest] [Proto Empty]
  {σ : Type}

/-! ### The stub -/

def a2aService : String := "a2a.v1.A2AService"

namespace A2AServiceStub
variable (net : Network σ) (channel : Channel)

def sendMessage (request : V03.SendMessageRequest) (timeout : Option ℕ)
    (metadata : Option (Dict String String)) : Co σ PyException V03.SendMessageResponse :=
  unary a2aService "SendMessage" net channel request timeout metadata

def sendStreamingMessage (request : V03.SendMessageRequest) (timeout : Option ℕ)
    (metadata : Option (Dict String String)) : AsyncGen σ PyException V03.StreamResponse :=
  unaryStream a2aService "SendStreamingMessage" net channel request timeout metadata

def getTask (request : V03.GetTaskRequest) (timeout : Option ℕ)
    (metadata : Option (Dict String String)) : Co σ PyException V03.Task :=
  unary a2aService "GetTask" net channel request timeout metadata

def cancelTask (request : V03.CancelTaskRequest) (timeout : Option ℕ)
    (metadata : Option (Dict String String)) : Co σ PyException V03.Task :=
  unary a2aService "CancelTask" net channel request timeout metadata

def taskSubscription (request : V03.TaskSubscriptionRequest) (timeout : Option ℕ)
    (metadata : Option (Dict String String)) : AsyncGen σ PyException V03.StreamResponse :=
  unaryStream a2aService "TaskSubscription" net channel request timeout metadata

def createTaskPushNotificationConfig (request : V03.CreateTaskPushNotificationConfigRequest)
    (timeout : Option ℕ) (metadata : Option (Dict String String)) :
    Co σ PyException V03.TaskPushNotificationConfig :=
  unary a2aService "CreateTaskPushNotificationConfig" net channel request timeout metadata

def getTaskPushNotificationConfig (request : V03.GetTaskPushNotificationConfigRequest)
    (timeout : Option ℕ) (metadata : Option (Dict String String)) :
    Co σ PyException V03.TaskPushNotificationConfig :=
  unary a2aService "GetTaskPushNotificationConfig" net channel request timeout metadata

def listTaskPushNotificationConfig (request : V03.ListTaskPushNotificationConfigRequest)
    (timeout : Option ℕ) (metadata : Option (Dict String String)) :
    Co σ PyException V03.ListTaskPushNotificationConfigResponse :=
  unary a2aService "ListTaskPushNotificationConfig" net channel request timeout metadata

def getAgentCard (request : V03.GetAgentCardRequest) (timeout : Option ℕ)
    (metadata : Option (Dict String String)) : Co σ PyException V03.AgentCard :=
  unary a2aService "GetAgentCard" net channel request timeout metadata

def deleteTaskPushNotificationConfig (request : V03.DeleteTaskPushNotificationConfigRequest)
    (timeout : Option ℕ) (metadata : Option (Dict String String)) : Co σ PyException Empty :=
  unary a2aService "DeleteTaskPushNotificationConfig" net channel request timeout metadata

end A2AServiceStub

/-! ### The transport -/

/-- A backward compatible SlimRPC transport for A2A v0.3. -/
structure SRPCCompatTransport where
  agentCard : Option AgentCard
  channel : Channel
deriving DecidableEq

namespace SRPCCompatTransport

/-- Creates SlimRPC metadata for the request. -/
def getMetadata (context : Option ClientCallContext) : Dict String String :=
  let metadata : Dict String String :=
    (∅ : Dict String String).insert A2aSdk.versionHeader A2aSdk.protocolVersion03
  match context.bind (·.serviceParameters) with
  | some parameters => metadata.update parameters
  | none => metadata

variable (t : SRPCCompatTransport) (net : Network σ)

/-- The v0.3 request for a message. -/
def sendMessageRequest (request : SendMessageRequest) :
    Except PyException V03.SendMessageRequest := do
  let reqV03 ← Conversions03.toCompatSendMessageRequest request
  return {
    request := ← Conversions03.toProtoMessage (Conversions03.message reqV03.params)
    configuration :=
      ← Conversions03.toProtoMessageSendConfiguration (Conversions03.configuration reqV03.params)
    metadata := ← Conversions03.toProtoMetadata (Conversions03.metadata reqV03.params) }

/-- The v0.3 request for a push-notification config. -/
def createTaskPushNotificationConfigRequest (request : TaskPushNotificationConfig) :
    Except PyException V03.CreateTaskPushNotificationConfigRequest := do
  let reqV03 ← Conversions03.toCompatCreateTaskPushNotificationConfigRequest request
  return {
    parent := taskName request.taskId
    configId := Conversions03.pushNotificationConfigId reqV03.params
    config := ← Conversions03.toProtoTaskPushNotificationConfig reqV03.params }

/-- The conversion of a streamed response. -/
def streamResponse (response : V03.StreamResponse) : Except PyException StreamResponse := do
  let result ← Conversions03.fromStreamResponse response
  Conversions03.toCoreStreamResponse result

/-- Sends a non-streaming message request to the agent (v0.3). -/
def sendMessage (request : SendMessageRequest) (context : Option ClientCallContext) :
    Co σ PyException SendMessageResponse := do
  let reqProto ← Co.ofExcept (sendMessageRequest request)
  let respProto ← A2AServiceStub.sendMessage net t.channel reqProto none
    (some (getMetadata context))
  match respProto with
  | .task task => do
      let task ← Co.ofExcept (Conversions03.fromTask task)
      let task ← Co.ofExcept (Conversions03.toCoreTask task)
      return .task task
  | .msg message => do
      let message ← Co.ofExcept (Conversions03.fromMessage message)
      let message ← Co.ofExcept (Conversions03.toCoreMessage message)
      return .message message
  | .unset => return .unset

/-- Sends a streaming message request to the agent (v0.3). -/
def sendMessageStreaming (request : SendMessageRequest) (context : Option ClientCallContext) :
    AsyncGen σ PyException StreamResponse :=
  AsyncGen.awaitThen (Co.ofExcept (sendMessageRequest request)) fun reqProto =>
    (A2AServiceStub.sendStreamingMessage net t.channel reqProto none
      (some (getMetadata context))).mapExcept streamResponse

/-- Reconnects to get task updates (v0.3). -/
def subscribe (request : SubscribeToTaskRequest) (context : Option ClientCallContext) :
    AsyncGen σ PyException StreamResponse :=
  (A2AServiceStub.taskSubscription net t.channel ⟨taskName request.id⟩ none
    (some (getMetadata context))).mapExcept streamResponse

/-- Retrieves the current state and history of a specific task (v0.3). -/
def getTask (request : GetTaskRequest) (context : Option ClientCallContext) :
    Co σ PyException Task := do
  let respProto ← A2AServiceStub.getTask net t.channel
    ⟨taskName request.id, request.historyLength.getD 0⟩ none (some (getMetadata context))
  let task ← Co.ofExcept (Conversions03.fromTask respProto)
  Co.ofExcept (Conversions03.toCoreTask task)

/-- Not supported in A2A v0.3. -/
def listTasks (_request : ListTasksRequest) (_context : Option ClientCallContext) :
    Co σ PyException ListTasksResponse :=
  Co.raise (.exception .notImplementedError "ListTasks is not supported in A2A v0.3 SlimRPC.")

/-- Requests the agent to cancel a specific task (v0.3). -/
def cancelTask (request : CancelTaskRequest) (context : Option ClientCallContext) :
    Co σ PyException Task := do
  let respProto ← A2AServiceStub.cancelTask net t.channel ⟨taskName request.id⟩ none
    (some (getMetadata context))
  let task ← Co.ofExcept (Conversions03.fromTask respProto)
  Co.ofExcept (Conversions03.toCoreTask task)

/-- Sets or updates the push notification configuration (v0.3). -/
def createTaskPushNotificationConfig (request : TaskPushNotificationConfig)
    (context : Option ClientCallContext) : Co σ PyException TaskPushNotificationConfig := do
  let reqProto ← Co.ofExcept (createTaskPushNotificationConfigRequest request)
  let respProto ← A2AServiceStub.createTaskPushNotificationConfig net t.channel reqProto none
    (some (getMetadata context))
  let config ← Co.ofExcept (Conversions03.fromTaskPushNotificationConfig respProto)
  Co.ofExcept (Conversions03.toCoreTaskPushNotificationConfig config)

/-- Retrieves the push notification configuration (v0.3). -/
def getTaskPushNotificationConfig (request : GetTaskPushNotificationConfigRequest)
    (context : Option ClientCallContext) : Co σ PyException TaskPushNotificationConfig := do
  let respProto ← A2AServiceStub.getTaskPushNotificationConfig net t.channel
    ⟨taskPushConfigName request.taskId request.id⟩ none (some (getMetadata context))
  let config ← Co.ofExcept (Conversions03.fromTaskPushNotificationConfig respProto)
  Co.ofExcept (Conversions03.toCoreTaskPushNotificationConfig config)

/-- Lists push notification configurations for a specific task (v0.3). -/
def listTaskPushNotificationConfigs (request : ListTaskPushNotificationConfigsRequest)
    (context : Option ClientCallContext) :
    Co σ PyException ListTaskPushNotificationConfigsResponse := do
  let respProto ← A2AServiceStub.listTaskPushNotificationConfig net t.channel
    ⟨taskName request.taskId⟩ none (some (getMetadata context))
  let configs ← Co.ofExcept (Conversions03.fromListTaskPushNotificationConfigResponse respProto)
  Co.ofExcept (Conversions03.toCoreListTaskPushNotificationConfigResponse configs)

/-- Deletes the push notification configuration (v0.3). -/
def deleteTaskPushNotificationConfig (request : DeleteTaskPushNotificationConfigRequest)
    (context : Option ClientCallContext) : Co σ PyException Unit := do
  let _ ← A2AServiceStub.deleteTaskPushNotificationConfig net t.channel
    ⟨taskPushConfigName request.taskId request.id⟩ none (some (getMetadata context))

/-- Retrieves the agent's card (v0.3). -/
def getExtendedAgentCard (_request : GetExtendedAgentCardRequest)
    (context : Option ClientCallContext) : Co σ PyException (AgentCard × SRPCCompatTransport) := do
  let respProto ← A2AServiceStub.getAgentCard net t.channel ⟨⟩ none (some (getMetadata context))
  let card ← Co.ofExcept (Conversions03.fromAgentCard respProto)
  let card ← Co.ofExcept (Conversions03.toCoreAgentCard card)
  return (card, { t with agentCard := some card })

end SRPCCompatTransport
end
end SlimA2a.Compat
