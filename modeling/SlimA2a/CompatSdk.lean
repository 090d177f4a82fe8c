import SlimA2a.Sdk

/-! # What the package takes from the v0.3 compatibility layer

Version 0.3 of the protocol has messages of its own (`a2a_v0_3_pb2`, here in the namespace `V03`)
and a second set of types for what they decode to (`types_v03`).  The package never looks into the
latter, so they are type parameters of `Conversions03`, together with the conversions between the
three.  Every conversion can raise: one of a response raises on a part, or on a card, that has no
counterpart in version 0.3.

`RequestHandler03` is the interface the v0.3 servicer calls.  The SDK implements it over a request
handler of version 1; that implementation is a parameter of `CompatSdk`, and `ForwardsTo` states
what the package relies on: the request is converted, the call is forwarded with its call context,
the answer or each event is converted, and what the handler raises goes through. -/

namespace SlimA2a

/-! ### Messages -/

namespace V03

/-- `a2a_v0_3_pb2.Message`; `Task`, `StreamResponse` and the others below are its siblings. -/
structure Message where
  unread : Bytes
deriving DecidableEq

structure SendMessageConfiguration where
  unread : Bytes
deriving DecidableEq

/-- `google.protobuf.Struct` -/
structure Struct where
  unread : Bytes
deriving DecidableEq

structure Task where
  unread : Bytes
deriving DecidableEq, Inhabited

structure StreamResponse where
  unread : Bytes
deriving DecidableEq

structure TaskPushNotificationConfig where
  unread : Bytes
deriving DecidableEq, Inhabited

structure AgentCard where
  unread : Bytes
deriving DecidableEq

structure SendMessageRequest where
  request : Message
  configuration : SendMessageConfiguration
  metadata : Struct
deriving DecidableEq

/-- `history_length` is a plain `int32` here. -/
structure GetTaskRequest where
  name : String
  historyLength : Int32
deriving DecidableEq

structure CancelTaskRequest where
  name : String
deriving DecidableEq

structure TaskSubscriptionRequest where
  name : String
deriving DecidableEq

structure CreateTaskPushNotificationConfigRequest where
  parent : String
  configId : String
  config : TaskPushNotificationConfig
deriving DecidableEq

structure GetTaskPushNotificationConfigRequest where
  name : String
deriving DecidableEq

structure ListTaskPushNotificationConfigRequest where
  parent : String
deriving DecidableEq

structure DeleteTaskPushNotificationConfigRequest where
  name : String
deriving DecidableEq

structure GetAgentCardRequest where
deriving DecidableEq

inductive SendMessageResponse where
  | unset
  | task (task : Task)
  | msg (message : Message)
deriving DecidableEq

structure ListTaskPushNotificationConfigResponse where
  configs : List TaskPushNotificationConfig
deriving DecidableEq, Inhabited

end V03

/-- A request of `types_v03`: a JSON-RPC id and its params. -/
structure Request03 (π : Type) where
  id : ℕ
  params : π

structure GetTaskPushNotificationConfigParams where
  id : String
  pushNotificationConfigId : String
deriving DecidableEq

structure ListTaskPushNotificationConfigParams where
  id : String
deriving DecidableEq

structure DeleteTaskPushNotificationConfigParams where
  id : String
  pushNotificationConfigId : String
deriving DecidableEq

/-! ### Types and conversions -/

/-- The types of `types_v03` that the package only passes along. -/
class Types03 where
  MessageSendParams : Type
  TaskQueryParams : Type
  TaskIdParams : Type
  Message : Type
  Task : Type
  MessageSendConfiguration : Type
  Metadata : Type
  /-- The `result` of a streaming response. -/
  StreamResult : Type
  TaskPushNotificationConfig : Type
  AgentCard : Type

/-- The answer of `on_message_send`: a task or a message of `types_v03`. -/
inductive TaskOrMessage03 [Types03] where
  | task (task : Types03.Task)
  | message (message : Types03.Message)

/-- `types_v03.SendStreamingMessageSuccessResponse` -/
structure StreamingResponse03 [Types03] where
  result : Types03.StreamResult

/-- The functions of `proto_utils` and `conversions`. -/
class Conversions03 extends Types03 where
  fromMessageSendParams : V03.SendMessageRequest → Except PyException MessageSendParams
  fromTaskQueryParams : V03.GetTaskRequest → Except PyException TaskQueryParams
  /-- `FromProto.task_id_params`, by the resource name of either request type. -/
  fromTaskIdParams : String → Except PyException TaskIdParams
  fromTaskPushNotificationConfigRequest : V03.CreateTaskPushNotificationConfigRequest →
    Except PyException TaskPushNotificationConfig
  fromTask : V03.Task → Except PyException Task
  fromMessage : V03.Message → Except PyException Message
  fromStreamResponse : V03.StreamResponse → Except PyException StreamResult
  fromTaskPushNotificationConfig : V03.TaskPushNotificationConfig →
    Except PyException TaskPushNotificationConfig
  fromListTaskPushNotificationConfigResponse : V03.ListTaskPushNotificationConfigResponse →
    Except PyException (List TaskPushNotificationConfig)
  fromAgentCard : V03.AgentCard → Except PyException AgentCard
  toProtoTask : Task → Except PyException V03.Task
  toProtoMessage : Message → Except PyException V03.Message
  toProtoMessageSendConfiguration : MessageSendConfiguration →
    Except PyException V03.SendMessageConfiguration
  toProtoMetadata : Metadata → Except PyException V03.Struct
  toProtoStreamResponse : StreamResult → Except PyException V03.StreamResponse
  toProtoTaskPushNotificationConfig : TaskPushNotificationConfig →
    Except PyException V03.TaskPushNotificationConfig
  toProtoAgentCard : AgentCard → Except PyException V03.AgentCard
  /-- `params.message`, `params.configuration` and `params.metadata`. -/
  message : MessageSendParams → Message
  configuration : MessageSendParams → MessageSendConfiguration
  metadata : MessageSendParams → Metadata
  /-- `params.push_notification_config.id` -/
  pushNotificationConfigId : TaskPushNotificationConfig → String
  toCoreSendMessageRequest : Request03 MessageSendParams → Except PyException SendMessageRequest
  toCoreGetTaskRequest : Request03 TaskQueryParams → Except PyException GetTaskRequest
  toCoreCancelTaskRequest : Request03 TaskIdParams → Except PyException CancelTaskRequest
  toCoreSubscribeToTaskRequest : Request03 TaskIdParams → Except PyException SubscribeToTaskRequest
  toCoreCreateTaskPushNotificationConfigRequest : Request03 TaskPushNotificationConfig →
    Except PyException SlimA2a.TaskPushNotificationConfig
  toCoreGetTaskPushNotificationConfigRequest : Request03 GetTaskPushNotificationConfigParams →
    Except PyException GetTaskPushNotificationConfigRequest
  toCoreListTaskPushNotificationConfigRequest : Request03 ListTaskPushNotificationConfigParams →
    Except PyException ListTaskPushNotificationConfigsRequest
  toCoreDeleteTaskPushNotificationConfigRequest :
    Request03 DeleteTaskPushNotificationConfigParams →
      Except PyException DeleteTaskPushNotificationConfigRequest
  toCoreTask : Task → Except PyException SlimA2a.Task
  toCoreMessage : Message → Except PyException SlimA2a.Message
  toCoreStreamResponse : StreamResult → Except PyException StreamResponse
  toCoreTaskPushNotificationConfig : TaskPushNotificationConfig →
    Except PyException SlimA2a.TaskPushNotificationConfig
  toCoreListTaskPushNotificationConfigResponse : List TaskPushNotificationConfig →
    Except PyException ListTaskPushNotificationConfigsResponse
  toCoreAgentCard : AgentCard → Except PyException SlimA2a.AgentCard
  toCompatSendMessageRequest : SendMessageRequest → Except PyException (Request03 MessageSendParams)
  toCompatCreateTaskPushNotificationConfigRequest : SlimA2a.TaskPushNotificationConfig →
    Except PyException (Request03 TaskPushNotificationConfig)
  toCompatTask : SlimA2a.Task → Except PyException Task
  toCompatMessage : SlimA2a.Message → Except PyException Message
  toCompatStreamResult : Event → Except PyException StreamResult
  toCompatTaskPushNotificationConfig : SlimA2a.TaskPushNotificationConfig →
    Except PyException TaskPushNotificationConfig
  toCompatListTaskPushNotificationConfigs : ListTaskPushNotificationConfigsResponse →
    Except PyException (List TaskPushNotificationConfig)
  toCompatAgentCard : SlimA2a.AgentCard → Except PyException AgentCard
  /-- The message of the `TaskNotFoundError` raised for a missing task. -/
  taskNotFoundMessage03 : String

/-! ### The request handler -/

/-- `a2a.compat.v0_3.request_handler.RequestHandler03` -/
structure RequestHandler03 [Types03] (σ : Type) where
  onMessageSend : Request03 Types03.MessageSendParams → ServerCallContext →
    Co σ PyException TaskOrMessage03
  onMessageSendStream : Request03 Types03.MessageSendParams → ServerCallContext →
    AsyncGen σ PyException StreamingResponse03
  onGetTask : Request03 Types03.TaskQueryParams → ServerCallContext →
    Co σ PyException Types03.Task
  onCancelTask : Request03 Types03.TaskIdParams → ServerCallContext →
    Co σ PyException Types03.Task
  onSubscribeToTask : Request03 Types03.TaskIdParams → ServerCallContext →
    AsyncGen σ PyException StreamingResponse03
  onCreateTaskPushNotificationConfig : Request03 Types03.TaskPushNotificationConfig →
    ServerCallContext → Co σ PyException Types03.TaskPushNotificationConfig
  onGetTaskPushNotificationConfig : Request03 GetTaskPushNotificationConfigParams →
    ServerCallContext → Co σ PyException Types03.TaskPushNotificationConfig
  onListTaskPushNotificationConfigs : Request03 ListTaskPushNotificationConfigParams →
    ServerCallContext → Co σ PyException (List Types03.TaskPushNotificationConfig)
  onDeleteTaskPushNotificationConfig : Request03 DeleteTaskPushNotificationConfigParams →
    ServerCallContext → Co σ PyException Unit

/-- A call of a method of a `RequestHandler03`. -/
inductive HandlerCall03 [Types03] where
  | onMessageSend (request : Request03 Types03.MessageSendParams) (context : ServerCallContext)
  | onMessageSendStream (request : Request03 Types03.MessageSendParams)
      (context : ServerCallContext)
  | onGetTask (request : Request03 Types03.TaskQueryParams) (context : ServerCallContext)
  | onCancelTask (request : Request03 Types03.TaskIdParams) (context : ServerCallContext)
  | onSubscribeToTask (request : Request03 Types03.TaskIdParams) (context : ServerCallContext)
  | onCreateTaskPushNotificationConfig (request : Request03 Types03.TaskPushNotificationConfig)
      (context : ServerCallContext)
  | onGetTaskPushNotificationConfig (request : Request03 GetTaskPushNotificationConfigParams)
      (context : ServerCallContext)
  | onListTaskPushNotificationConfigs (request : Request03 ListTaskPushNotificationConfigParams)
      (context : ServerCallContext)
  | onDeleteTaskPushNotificationConfig
      (request : Request03 DeleteTaskPushNotificationConfigParams) (context : ServerCallContext)

/-- The same handler beside a log of the calls it received. -/
def RequestHandler03.logged [Types03] {σ : Type} (h : RequestHandler03 σ) :
    RequestHandler03 (σ × List HandlerCall03) where
  onMessageSend r c := (h.onMessageSend r c).logged (.onMessageSend r c)
  onMessageSendStream r c := (h.onMessageSendStream r c).logged (.onMessageSendStream r c)
  onGetTask r c := (h.onGetTask r c).logged (.onGetTask r c)
  onCancelTask r c := (h.onCancelTask r c).logged (.onCancelTask r c)
  onSubscribeToTask r c := (h.onSubscribeToTask r c).logged (.onSubscribeToTask r c)
  onCreateTaskPushNotificationConfig r c :=
    (h.onCreateTaskPushNotificationConfig r c).logged (.onCreateTaskPushNotificationConfig r c)
  onGetTaskPushNotificationConfig r c :=
    (h.onGetTaskPushNotificationConfig r c).logged (.onGetTaskPushNotificationConfig r c)
  onListTaskPushNotificationConfigs r c :=
    (h.onListTaskPushNotificationConfigs r c).logged (.onListTaskPushNotificationConfigs r c)
  onDeleteTaskPushNotificationConfig r c :=
    (h.onDeleteTaskPushNotificationConfig r c).logged (.onDeleteTaskPushNotificationConfig r c)

/-! ### Forwarding to a request handler of version 1 -/

section forward
variable {σ : Type}

/-- Convert the request, forward it, and convert the answer. -/
def forward {ρ ρ' α β : Type} (convert : ρ → Except PyException ρ')
    (call : ρ' → ServerCallContext → Co σ PyException α) (respond : α → Except PyException β)
    (request : ρ) (context : ServerCallContext) : Co σ PyException β := do
  let request ← Co.ofExcept (convert request)
  let answer ← call request context
  Co.ofExcept (respond answer)

/-- Convert the request, forward it to a generator, and convert each event. -/
def forwardGen {ρ ρ' α β : Type} (convert : ρ → Except PyException ρ')
    (call : ρ' → ServerCallContext → AsyncGen σ PyException α) (respond : α → Except PyException β)
    (request : ρ) (context : ServerCallContext) : AsyncGen σ PyException β :=
  AsyncGen.awaitThen (Co.ofExcept (convert request)) fun request =>
    (call request context).mapExcept respond

variable [Conversions03]
open Conversions03

/-- The answer of `on_message_send`. -/
def compatTaskOrMessage : TaskOrMessage → Except PyException TaskOrMessage03
  | .task task => do return .task (← toCompatTask task)
  | .message message => do return .message (← toCompatMessage message)

/-- The answer of a task method: a missing task raises `TaskNotFoundError`. -/
def compatTask : Option Task → Except PyException Types03.Task
  | some task => toCompatTask task
  | none => .error (.a2a ⟨.taskNotFoundError, taskNotFoundMessage03⟩)

/-- An event of a stream. -/
def compatStreamingResponse (event : Event) : Except PyException StreamingResponse03 := do
  return ⟨← toCompatStreamResult event⟩

/-- The conversion of an event of the request handler to v0.3, in the SDK and in the package. -/
def toProtoEvent (event : Event) : Except PyException V03.StreamResponse := do
  toProtoStreamResponse (← toCompatStreamResult event)

theorem compatStreamingResponse_bind (event : Event) :
    (compatStreamingResponse event >>= fun response => toProtoStreamResponse response.result) =
      toProtoEvent event := by
  unfold compatStreamingResponse toProtoEvent
  cases toCompatStreamResult event <;> rfl

/-- What `wrapped` does with each call is to forward it to `h`. -/
structure RequestHandler03.ForwardsTo (wrapped : RequestHandler03 σ) (h : RequestHandler σ) :
    Prop where
  onMessageSend : wrapped.onMessageSend =
    forward toCoreSendMessageRequest h.onMessageSend compatTaskOrMessage
  onMessageSendStream : wrapped.onMessageSendStream =
    forwardGen toCoreSendMessageRequest h.onMessageSendStream compatStreamingResponse
  onGetTask : wrapped.onGetTask = forward toCoreGetTaskRequest h.onGetTask compatTask
  onCancelTask : wrapped.onCancelTask = forward toCoreCancelTaskRequest h.onCancelTask compatTask
  onSubscribeToTask : wrapped.onSubscribeToTask =
    forwardGen toCoreSubscribeToTaskRequest h.onSubscribeToTask compatStreamingResponse
  onCreateTaskPushNotificationConfig : wrapped.onCreateTaskPushNotificationConfig =
    forward toCoreCreateTaskPushNotificationConfigRequest h.onCreateTaskPushNotificationConfig
      toCompatTaskPushNotificationConfig
  onGetTaskPushNotificationConfig : wrapped.onGetTaskPushNotificationConfig =
    forward toCoreGetTaskPushNotificationConfigRequest h.onGetTaskPushNotificationConfig
      toCompatTaskPushNotificationConfig
  onListTaskPushNotificationConfigs : wrapped.onListTaskPushNotificationConfigs =
    forward toCoreListTaskPushNotificationConfigRequest h.onListTaskPushNotificationConfigs
      toCompatListTaskPushNotificationConfigs
  onDeleteTaskPushNotificationConfig : wrapped.onDeleteTaskPushNotificationConfig =
    forward toCoreDeleteTaskPushNotificationConfigRequest h.onDeleteTaskPushNotificationConfig .ok

/-- The v0.3 request handler that forwards to `h` and does nothing else. -/
def RequestHandler03.forwarding (h : RequestHandler σ) : RequestHandler03 σ where
  onMessageSend := forward toCoreSendMessageRequest h.onMessageSend compatTaskOrMessage
  onMessageSendStream :=
    forwardGen toCoreSendMessageRequest h.onMessageSendStream compatStreamingResponse
  onGetTask := forward toCoreGetTaskRequest h.onGetTask compatTask
  onCancelTask := forward toCoreCancelTaskRequest h.onCancelTask compatTask
  onSubscribeToTask :=
    forwardGen toCoreSubscribeToTaskRequest h.onSubscribeToTask compatStreamingResponse
  onCreateTaskPushNotificationConfig :=
    forward toCoreCreateTaskPushNotificationConfigRequest h.onCreateTaskPushNotificationConfig
      toCompatTaskPushNotificationConfig
  onGetTaskPushNotificationConfig :=
    forward toCoreGetTaskPushNotificationConfigRequest h.onGetTaskPushNotificationConfig
      toCompatTaskPushNotificationConfig
  onListTaskPushNotificationConfigs :=
    forward toCoreListTaskPushNotificationConfigRequest h.onListTaskPushNotificationConfigs
      toCompatListTaskPushNotificationConfigs
  onDeleteTaskPushNotificationConfig :=
    forward toCoreDeleteTaskPushNotificationConfigRequest h.onDeleteTaskPushNotificationConfig .ok

theorem RequestHandler03.forwardsTo_forwarding (h : RequestHandler σ) :
    (RequestHandler03.forwarding h).ForwardsTo h :=
  ⟨rfl, rfl, rfl, rfl, rfl, rfl, rfl, rfl, rfl⟩

/-- Forwarding says all that a v0.3 request handler does. -/
theorem RequestHandler03.ForwardsTo.eq_forwarding {wrapped : RequestHandler03 σ}
    {h : RequestHandler σ} (hforwards : wrapped.ForwardsTo h) :
    wrapped = RequestHandler03.forwarding h := by
  obtain ⟨h₁, h₂, h₃, h₄, h₅, h₆, h₇, h₈, h₉⟩ := hforwards
  cases wrapped
  simp only [RequestHandler03.forwarding, RequestHandler03.mk.injEq]
  exact ⟨h₁, h₂, h₃, h₄, h₅, h₆, h₇, h₈, h₉⟩

end forward

/-- The conversions, and the v0.3 request handler that the SDK makes of one of version 1. -/
class CompatSdk extends Conversions03 where
  /-- `RequestHandler03(request_handler=...)` -/
  requestHandler03 : ∀ {σ : Type}, RequestHandler σ → RequestHandler03 σ
  forwardsTo : ∀ {σ : Type} (h : RequestHandler σ), (requestHandler03 h).ForwardsTo h

theorem requestHandler03_eq [CompatSdk] {σ : Type} (h : RequestHandler σ) :
    CompatSdk.requestHandler03 h = RequestHandler03.forwarding h :=
  (CompatSdk.forwardsTo h).eq_forwarding

end SlimA2a
