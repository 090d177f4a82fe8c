import SlimA2a.Codecs
import SlimA2a.CompatErrors

/-! # Concrete runs

The SDK's values, the conversions and the codecs as instances, for statements about fixed inputs
(`open scoped Concrete`), and an agent to make calls to.  The agent counts the messages it was
sent. -/

namespace SlimA2a

namespace Concrete

scoped instance : A2aSdk := standardSdk
scoped instance : CompatSdk := Compat.standardCompatSdk
scoped instance : Proto SendMessageRequest := SendMessageRequest.codec
scoped instance : Proto SendMessageResponse := SendMessageResponse.codec
scoped instance : Proto StreamResponse := StreamResponse.codec
scoped instance : Proto GetTaskRequest := GetTaskRequest.codec
scoped instance : Proto Task := Task.codec
scoped instance : Proto ListTasksRequest := ListTasksRequest.codec
scoped instance : Proto ListTasksResponse := ListTasksResponse.codec
scoped instance : Proto CancelTaskRequest := CancelTaskRequest.codec
scoped instance : Proto SubscribeToTaskRequest := SubscribeToTaskRequest.codec
scoped instance : Proto TaskPushNotificationConfig := TaskPushNotificationConfig.codec
scoped instance : Proto GetTaskPushNotificationConfigRequest :=
  GetTaskPushNotificationConfigRequest.codec
scoped instance : Proto ListTaskPushNotificationConfigsRequest :=
  ListTaskPushNotificationConfigsRequest.codec
scoped instance : Proto ListTaskPushNotificationConfigsResponse :=
  ListTaskPushNotificationConfigsResponse.codec
scoped instance : Proto GetExtendedAgentCardRequest := GetExtendedAgentCardRequest.codec
scoped instance : Proto AgentCard := AgentCard.codec
scoped instance : Proto DeleteTaskPushNotificationConfigRequest :=
  DeleteTaskPushNotificationConfigRequest.codec
scoped instance : Proto Empty := Empty.codec
scoped instance : Proto V03.SendMessageRequest := V03.SendMessageRequest.codec
scoped instance : Proto V03.SendMessageResponse := V03.SendMessageResponse.codec
scoped instance : Proto V03.StreamResponse := V03.StreamResponse.codec
scoped instance : Proto V03.GetTaskRequest := V03.GetTaskRequest.codec
scoped instance : Proto V03.Task := V03.Task.codec
scoped instance : Proto V03.CancelTaskRequest := V03.CancelTaskRequest.codec
scoped instance : Proto V03.TaskSubscriptionRequest := V03.TaskSubscriptionRequest.codec
scoped instance : Proto V03.CreateTaskPushNotificationConfigRequest :=
  V03.CreateTaskPushNotificationConfigRequest.codec
scoped instance : Proto V03.TaskPushNotificationConfig := V03.TaskPushNotificationConfig.codec
scoped instance : Proto V03.GetTaskPushNotificationConfigRequest :=
  V03.GetTaskPushNotificationConfigRequest.codec
scoped instance : Proto V03.ListTaskPushNotificationConfigRequest :=
  V03.ListTaskPushNotificationConfigRequest.codec
scoped instance : Proto V03.ListTaskPushNotificationConfigResponse :=
  V03.ListTaskPushNotificationConfigResponse.codec
scoped instance : Proto V03.GetAgentCardRequest := V03.GetAgentCardRequest.codec
scoped instance : Proto V03.AgentCard := V03.AgentCard.codec
scoped instance : Proto V03.DeleteTaskPushNotificationConfigRequest :=
  V03.DeleteTaskPushNotificationConfigRequest.codec

end Concrete

/-- Answers a message with a task, streams two tasks, and refuses everything else. -/
def countingHandler : RequestHandler ℕ :=
  { RequestHandler.refusing (.a2a ⟨.unsupportedOperationError, "not supported"⟩) with
    onMessageSend := fun r _ => do
      Co.modify (· + 1)
      return .task ⟨r.unread⟩
    onMessageSendStream := fun r _ =>
      .act (· + 1) fun _ => .yield (.task ⟨r.unread⟩) <|
        .act (· + 1) fun _ => .yield (.task ⟨r.unread⟩) .stop
    onGetTask := fun r _ => return if r.id = "t" then some default else none }

/-- The agent with its two servers. -/
def countingServicers : Servicers ℕ where
  agentCard := { (default : AgentCard) with capabilities := ⟨true, true, true⟩ }
  requestHandler := countingHandler
  contextBuilder := none
  cardModifier := none
  compatContextBuilder := none
  compatCardModifier := none

end SlimA2a
