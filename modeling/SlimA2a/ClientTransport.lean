import SlimA2a.Handler
import SlimA2a.Slimrpc

/-! # The client of version 1

The client transports of `client_transport.py` and the client for several agents.

* `SRPCTransport` calls one agent.
* `SRPCMulticastTransport` calls a group and yields each response with its source.
* `MulticastClient` is the client over a `SRPCMulticastTransport`.

The methods of both transports take the caller's `ClientCallContext` and call the stub with no
timeout and no metadata. -/

namespace SlimA2a

section transports
variable [Proto SendMessageRequest] [Proto SendMessageResponse] [Proto StreamResponse]
  [Proto GetTaskRequest] [Proto Task] [Proto ListTasksRequest] [Proto ListTasksResponse]
  [Proto CancelTaskRequest] [Proto SubscribeToTaskRequest] [Proto TaskPushNotificationConfig]
  [Proto GetTaskPushNotificationConfigRequest] [Proto ListTaskPushNotificationConfigsRequest]
  [Proto ListTaskPushNotificationConfigsResponse] [Proto GetExtendedAgentCardRequest]
  [Proto AgentCard] [Proto DeleteTaskPushNotificationConfigRequest] [Proto Empty]
  {σ : Type}

/-! ### One agent -/

/-- A SlimRPC transport for the A2A client. -/
structure SRPCTransport where
  agentCard : Option AgentCard
  channel : Channel
deriving DecidableEq

namespace SRPCTransport
variable (t : SRPCTransport) (net : Network σ)

/-- Sends a non-streaming message request to the agent. -/
def sendMessage (request : SendMessageRequest) (_context : Option ClientCallContext) :
    Co σ PyException SendMessageResponse :=
  A2AServiceStub.sendMessage net t.channel request none none

/-- Sends a streaming message request to the agent and yields responses as they arrive. -/
def sendMessageStreaming (request : SendMessageRequest) (_context : Option ClientCallContext) :
    AsyncGen σ PyException StreamResponse :=
  (A2AServiceStub.sendStreamingMessage net t.channel request none none).map fun response => response

/-- Reconnects to get task updates. -/
def subscribe (request : SubscribeToTaskRequest) (_context : Option ClientCallContext) :
    AsyncGen σ PyException StreamResponse :=
  (A2AServiceStub.subscribeToTask net t.channel request none none).map fun response => response

/-- Retrieves the current state and history of a specific task. -/
def getTask (request : GetTaskRequest) (_context : Option ClientCallContext) :
    Co σ PyException Task :=
  A2AServiceStub.getTask net t.channel request none none

/-- Retrieves tasks for an agent. -/
def listTasks (request : ListTasksRequest) (_context : Option ClientCallContext) :
    Co σ PyException ListTasksResponse :=
  A2AServiceStub.listTasks net t.channel request none none

/-- Requests the agent to cancel a specific task. -/
def cancelTask (request : CancelTaskRequest) (_context : Option ClientCallContext) :
    Co σ PyException Task :=
  A2AServiceStub.cancelTask net t.channel request none none

/-- Sets or updates the push notification configuration for a specific task. -/
def createTaskPushNotificationConfig (request : TaskPushNotificationConfig)
    (_context : Option ClientCallContext) :
    Co σ PyException TaskPushNotificationConfig :=
  A2AServiceStub.createTaskPushNotificationConfig net t.channel request none none

/-- Retrieves the push notification configuration for a specific task. -/
def getTaskPushNotificationConfig (request : GetTaskPushNotificationConfigRequest)
    (_context : Option ClientCallContext) :
    Co σ PyException TaskPushNotificationConfig :=
  A2AServiceStub.getTaskPushNotificationConfig net t.channel request none none

/-- Lists push notification configurations for a specific task. -/
def listTaskPushNotificationConfigs (request : ListTaskPushNotificationConfigsRequest)
    (_context : Option ClientCallContext) :
    Co σ PyException ListTaskPushNotificationConfigsResponse :=
  A2AServiceStub.listTaskPushNotificationConfigs net t.channel request none none

/-- Deletes the push notification configuration for a specific task. -/
def deleteTaskPushNotificationConfig (request : DeleteTaskPushNotificationConfigRequest)
    (_context : Option ClientCallContext) :
    Co σ PyException Unit := do
  let _ ← A2AServiceStub.deleteTaskPushNotificationConfig net t.channel request none none

/-- Retrieves the agent's extended card. -/
def getExtendedAgentCard (request : GetExtendedAgentCardRequest)
    (_context : Option ClientCallContext) :
    Co σ PyException AgentCard :=
  match t.agentCard with
  | some card =>
      if card.capabilities.extendedAgentCard then
        A2AServiceStub.getExtendedAgentCard net t.channel request none none
      else pure card
  | none => A2AServiceStub.getExtendedAgentCard net t.channel request none none

end SRPCTransport

/-! ### A group of agents -/

/-- A SlimRPC multicast transport for querying multiple A2A agents simultaneously. -/
structure SRPCMulticastTransport where
  channel : Channel
deriving DecidableEq

namespace SRPCMulticastTransport
variable (t : SRPCMulticastTransport) (net : Network σ)

def sendMessage (request : SendMessageRequest) (_context : Option ClientCallContext) :
    AsyncGen σ PyException (Context × SendMessageResponse) :=
  (A2AServiceGroupStub.sendMessage net t.channel request none none).map
    fun (source, response) => (source, response)

def sendMessageStreaming (request : SendMessageRequest) (_context : Option ClientCallContext) :
    AsyncGen σ PyException (Context × StreamResponse) :=
  (A2AServiceGroupStub.sendStreamingMessage net t.channel request none none).map
    fun (source, response) => (source, response)

def subscribe (request : SubscribeToTaskRequest) (_context : Option ClientCallContext) :
    AsyncGen σ PyException (Context × StreamResponse) :=
  (A2AServiceGroupStub.subscribeToTask net t.channel request none none).map
    fun (source, response) => (source, response)

def getTask (request : GetTaskRequest) (_context : Option ClientCallContext) :
    AsyncGen σ PyException (Context × Task) :=
  (A2AServiceGroupStub.getTask net t.channel request none none).map
    fun (source, response) => (source, response)

def listTasks (request : ListTasksRequest) (_context : Option ClientCallContext) :
    AsyncGen σ PyException (Context × ListTasksResponse) :=
  (A2AServiceGroupStub.listTasks net t.channel request none none).map
    fun (source, response) => (source, response)

def cancelTask (request : CancelTaskRequest) (_context : Option ClientCallContext) :
    AsyncGen σ PyException (Context × Task) :=
  (A2AServiceGroupStub.cancelTask net t.channel request none none).map
    fun (source, response) => (source, response)

def createTaskPushNotificationConfig (request : TaskPushNotificationConfig)
    (_context : Option ClientCallContext) :
    AsyncGen σ PyException (Context × TaskPushNotificationConfig) :=
  (A2AServiceGroupStub.createTaskPushNotificationConfig net t.channel request none none).map
    fun (source, response) => (source, response)

def getTaskPushNotificationConfig (request : GetTaskPushNotificationConfigRequest)
    (_context : Option ClientCallContext) :
    AsyncGen σ PyException (Context × TaskPushNotificationConfig) :=
  (A2AServiceGroupStub.getTaskPushNotificationConfig net t.channel request none none).map
    fun (source, response) => (source, response)

def listTaskPushNotificationConfigs (request : ListTaskPushNotificationConfigsRequest)
    (_context : Option ClientCallContext) :
    AsyncGen σ PyException (Context × ListTaskPushNotificationConfigsResponse) :=
  (A2AServiceGroupStub.listTaskPushNotificationConfigs net t.channel request none none).map
    fun (source, response) => (source, response)

def deleteTaskPushNotificationConfig (request : DeleteTaskPushNotificationConfigRequest)
    (_context : Option ClientCallContext) :
    AsyncGen σ PyException (Context × Unit) :=
  (A2AServiceGroupStub.deleteTaskPushNotificationConfig net t.channel request none none).map
    fun (source, _) => (source, ())

def getExtendedAgentCard (request : GetExtendedAgentCardRequest)
    (_context : Option ClientCallContext) :
    AsyncGen σ PyException (Context × AgentCard) :=
  (A2AServiceGroupStub.getExtendedAgentCard net t.channel request none none).map
    fun (source, response) => (source, response)

end SRPCMulticastTransport

/-- A2A client for querying multiple agents simultaneously via sRPC multicast. -/
structure MulticastClient where
  transport : SRPCMulticastTransport
deriving DecidableEq

namespace MulticastClient
variable (client : MulticastClient) (net : Network σ)

/-- The `StreamResponse` with the content of a `SendMessageResponse`. -/
def wrapResponse : SendMessageResponse → StreamResponse
  | .task task => .task task
  | .message message => .message message
  | .unset => .unset

/-- Sends a message to all agents in the group: one complete response per agent, wrapped as a
`StreamResponse`. -/
def sendMessage (request : SendMessageRequest) (context : Option ClientCallContext) :
    AsyncGen σ PyException (Context × StreamResponse) :=
  (client.transport.sendMessage net request context).map
    fun (source, response) => (source, wrapResponse response)

/-- Sends a streaming message to all agents in the group. -/
def sendMessageStreaming (request : SendMessageRequest) (context : Option ClientCallContext) :
    AsyncGen σ PyException (Context × StreamResponse) :=
  (client.transport.sendMessageStreaming net request context).map
    fun (source, response) => (source, response)

def subscribe (request : SubscribeToTaskRequest) (context : Option ClientCallContext) :
    AsyncGen σ PyException (Context × StreamResponse) :=
  (client.transport.subscribe net request context).map
    fun (source, response) => (source, response)

def getTask (request : GetTaskRequest) (context : Option ClientCallContext) :
    AsyncGen σ PyException (Context × Task) :=
  (client.transport.getTask net request context).map
    fun (source, response) => (source, response)

def listTasks (request : ListTasksRequest) (context : Option ClientCallContext) :
    AsyncGen σ PyException (Context × ListTasksResponse) :=
  (client.transport.listTasks net request context).map
    fun (source, response) => (source, response)

def cancelTask (request : CancelTaskRequest) (context : Option ClientCallContext) :
    AsyncGen σ PyException (Context × Task) :=
  (client.transport.cancelTask net request context).map
    fun (source, response) => (source, response)

def createTaskPushNotificationConfig (request : TaskPushNotificationConfig)
    (context : Option ClientCallContext) :
    AsyncGen σ PyException (Context × TaskPushNotificationConfig) :=
  (client.transport.createTaskPushNotificationConfig net request context).map
    fun (source, response) => (source, response)

def getTaskPushNotificationConfig (request : GetTaskPushNotificationConfigRequest)
    (context : Option ClientCallContext) :
    AsyncGen σ PyException (Context × TaskPushNotificationConfig) :=
  (client.transport.getTaskPushNotificationConfig net request context).map
    fun (source, response) => (source, response)

def listTaskPushNotificationConfigs (request : ListTaskPushNotificationConfigsRequest)
    (context : Option ClientCallContext) :
    AsyncGen σ PyException (Context × ListTaskPushNotificationConfigsResponse) :=
  (client.transport.listTaskPushNotificationConfigs net request context).map
    fun (source, response) => (source, response)

def deleteTaskPushNotificationConfig (request : DeleteTaskPushNotificationConfigRequest)
    (context : Option ClientCallContext) :
    AsyncGen σ PyException (Context × Unit) :=
  (client.transport.deleteTaskPushNotificationConfig net request context).map
    fun (source, response) => (source, response)

def getExtendedAgentCard (request : GetExtendedAgentCardRequest)
    (context : Option ClientCallContext) :
    AsyncGen σ PyException (Context × AgentCard) :=
  (client.transport.getExtendedAgentCard net request context).map
    fun (source, response) => (source, response)

end MulticastClient
end transports
end SlimA2a
