import SlimA2a.Errors

/-! # Messages

The messages of the A2A protocol, version 1.

A message keeps the fields that the package reads or writes; the rest of its content is carried
along in `unread`, and is compared and copied but never looked into.  A `oneof` is an inductive type
with a constructor for the case that no member is set. -/

namespace SlimA2a

/-! ### Agent cards -/

structure AgentCapabilities where
  streaming : Bool
  pushNotifications : Bool
  extendedAgentCard : Bool
deriving DecidableEq, Inhabited

structure AgentInterface where
  url : String
  protocolBinding : String
  unread : Bytes
deriving DecidableEq

structure AgentCard where
  name : String
  capabilities : AgentCapabilities
  supportedInterfaces : List AgentInterface
  unread : Bytes
deriving DecidableEq, Inhabited

/-! ### Requests -/

structure SendMessageRequest where
  tenant : String
  unread : Bytes
deriving DecidableEq

structure CancelTaskRequest where
  tenant : String
  id : String
  unread : Bytes
deriving DecidableEq

structure SubscribeToTaskRequest where
  tenant : String
  id : String
deriving DecidableEq

/-- `history_length` is an optional `int32`; `none` is the unset field. -/
structure GetTaskRequest where
  tenant : String
  id : String
  historyLength : Option Int32
deriving DecidableEq

structure ListTasksRequest where
  tenant : String
  unread : Bytes
deriving DecidableEq

structure TaskPushNotificationConfig where
  tenant : String
  taskId : String
  unread : Bytes
deriving DecidableEq, Inhabited

structure GetTaskPushNotificationConfigRequest where
  tenant : String
  taskId : String
  id : String
deriving DecidableEq

structure ListTaskPushNotificationConfigsRequest where
  tenant : String
  taskId : String
  unread : Bytes
deriving DecidableEq

structure DeleteTaskPushNotificationConfigRequest where
  tenant : String
  taskId : String
  id : String
deriving DecidableEq

structure GetExtendedAgentCardRequest where
  tenant : String
deriving DecidableEq

/-- `getattr(request, "tenant", "")`; every request of version 1 has the field. -/
class HasTenant (α : Type) where
  tenant : α → String

instance : HasTenant SendMessageRequest := ⟨(·.tenant)⟩
instance : HasTenant CancelTaskRequest := ⟨(·.tenant)⟩
instance : HasTenant SubscribeToTaskRequest := ⟨(·.tenant)⟩
instance : HasTenant GetTaskRequest := ⟨(·.tenant)⟩
instance : HasTenant ListTasksRequest := ⟨(·.tenant)⟩
instance : HasTenant TaskPushNotificationConfig := ⟨(·.tenant)⟩
instance : HasTenant GetTaskPushNotificationConfigRequest := ⟨(·.tenant)⟩
instance : HasTenant ListTaskPushNotificationConfigsRequest := ⟨(·.tenant)⟩
instance : HasTenant DeleteTaskPushNotificationConfigRequest := ⟨(·.tenant)⟩
instance : HasTenant GetExtendedAgentCardRequest := ⟨(·.tenant)⟩

/-! ### Responses -/

structure Task where
  unread : Bytes
deriving DecidableEq, Inhabited

structure Message where
  unread : Bytes
deriving DecidableEq

structure TaskStatusUpdateEvent where
  unread : Bytes
deriving DecidableEq

structure TaskArtifactUpdateEvent where
  unread : Bytes
deriving DecidableEq

structure ListTasksResponse where
  unread : Bytes
deriving DecidableEq, Inhabited

structure ListTaskPushNotificationConfigsResponse where
  unread : Bytes
deriving DecidableEq, Inhabited

/-- `google.protobuf.Empty` -/
structure Empty where
deriving DecidableEq

/-- The answer of `on_message_send`: a task or a message. -/
inductive TaskOrMessage where
  | task (task : Task)
  | message (message : Message)
deriving DecidableEq

/-- An event of a streaming request handler. -/
inductive Event where
  | task (task : Task)
  | message (message : Message)
  | statusUpdate (update : TaskStatusUpdateEvent)
  | artifactUpdate (update : TaskArtifactUpdateEvent)
deriving DecidableEq

inductive SendMessageResponse where
  | unset
  | task (task : Task)
  | message (message : Message)
deriving DecidableEq

inductive StreamResponse where
  | unset
  | task (task : Task)
  | message (message : Message)
  | statusUpdate (update : TaskStatusUpdateEvent)
  | artifactUpdate (update : TaskArtifactUpdateEvent)
deriving DecidableEq

end SlimA2a
