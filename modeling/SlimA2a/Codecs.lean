import SlimA2a.CompatHandler

/-! # Codecs of A2A messages

The development takes the codecs of the A2A messages as parameters (`Proto`).  Concrete runs use the
ones defined here, which write the members of a `oneof` and the fields of a message one after the
other and everything else as it is.  `standardCompatSdk` does the same for the conversions
of v0.3: it decodes resource names and copies contents. -/

namespace SlimA2a

open Protobuf

namespace SendMessageRequest

def fields (m : SendMessageRequest) : List Field := writeString 1 m.tenant ++ [(2, .len m.unread)]

def read (fs : List Field) : Option SendMessageRequest := do
  let tenant ← stringField 1 fs
  some ⟨tenant, (lenFields 2 fs).getLastD []⟩

theorem read_fields (m : SendMessageRequest) : read m.fields = some m := by
  have h₁ : stringField 1 m.fields = some m.tenant :=
    stringField_writeString 1 m.tenant [] _ rfl rfl
  have h₂ : lenFields 2 m.fields = [m.unread] := by
    rw [fields, lenFields_append, lenFields_writeString_ne (by omega)]
    rfl
  simp [read, h₁, h₂]

@[reducible] def codec : Proto SendMessageRequest where
  serializeToString m := encode m.fields
  fromString := parseFields read
  fromString_serializeToString m := parseFields_encode (read_fields m)

end SendMessageRequest

namespace SendMessageResponse

def fields : SendMessageResponse → List Field
  | .unset => []
  | .task t => [(1, .len t.unread)]
  | .message m => [(2, .len m.unread)]

/-- The last member of the `oneof` on the wire wins. -/
def read (fs : List Field) : Option SendMessageResponse :=
  match fs.getLast? with
  | none => some unset
  | some (1, .len bs) => some (task ⟨bs⟩)
  | some (2, .len bs) => some (message ⟨bs⟩)
  | _ => none

theorem read_fields : ∀ m : SendMessageResponse, read m.fields = some m
  | .unset => rfl
  | .task _ => rfl
  | .message _ => rfl

@[reducible] def codec : Proto SendMessageResponse where
  serializeToString m := encode m.fields
  fromString := parseFields read
  fromString_serializeToString m := parseFields_encode (read_fields m)

end SendMessageResponse

namespace StreamResponse

def fields : StreamResponse → List Field
  | .unset => []
  | .task t => [(1, .len t.unread)]
  | .message m => [(2, .len m.unread)]
  | .statusUpdate update => [(3, .len update.unread)]
  | .artifactUpdate update => [(4, .len update.unread)]

def read (fs : List Field) : Option StreamResponse :=
  match fs.getLast? with
  | none => some unset
  | some (1, .len bs) => some (task ⟨bs⟩)
  | some (2, .len bs) => some (message ⟨bs⟩)
  | some (3, .len bs) => some (statusUpdate ⟨bs⟩)
  | some (4, .len bs) => some (artifactUpdate ⟨bs⟩)
  | _ => none

theorem read_fields : ∀ m : StreamResponse, read m.fields = some m
  | .unset => rfl
  | .task _ => rfl
  | .message _ => rfl
  | .statusUpdate _ => rfl
  | .artifactUpdate _ => rfl

@[reducible] def codec : Proto StreamResponse where
  serializeToString m := encode m.fields
  fromString := parseFields read
  fromString_serializeToString m := parseFields_encode (read_fields m)

end StreamResponse

/-! ### Messages of several parts -/

/-- The codec of a message whose content is carried along as it is. -/
@[reducible] def ofBytes {α : Type} (content : α → Bytes) (make : Bytes → α)
    (h : ∀ a, make (content a) = a) : Proto α where
  serializeToString := content
  fromString bs := .ok (make bs)
  fromString_serializeToString a := by rw [h]

/-- The codec of a message that is split into parts, one field for each. -/
@[reducible] def ofParts {α : Type} (split : α → List Bytes) (join : List Bytes → Option α)
    (h : ∀ a, join (split a) = some a) : Proto α where
  serializeToString a := encode (numbered 1 (split a))
  fromString := parseFields (join ∘ payloads)
  fromString_serializeToString a := by
    apply parseFields_encode
    rw [Function.comp_apply, payloads_numbered, h]

/-- The codec of a message that is one string. -/
@[reducible] def ofString {α : Type} (string : α → String) (make : String → α)
    (h : ∀ a, make (string a) = a) : Proto α :=
  ofParts (fun m => [utf8 (string m)])
    (fun
      | [bs] => do some (make (← ofUtf8 bs))
      | _ => none)
    fun m => by simp [ofUtf8_utf8, h]

@[reducible] def Task.codec : Proto Task := ofBytes (·.unread) (⟨·⟩) fun _ => rfl

@[reducible] def ListTasksResponse.codec : Proto ListTasksResponse :=
  ofBytes (·.unread) (⟨·⟩) fun _ => rfl

@[reducible] def ListTaskPushNotificationConfigsResponse.codec :
    Proto ListTaskPushNotificationConfigsResponse :=
  ofBytes (·.unread) (⟨·⟩) fun _ => rfl

@[reducible] def Empty.codec : Proto Empty := ofBytes (fun _ => []) (fun _ => ⟨⟩) fun _ => rfl

/-- The optional limit is a field of its own, which is absent when it is not set. -/
@[reducible] def GetTaskRequest.codec : Proto GetTaskRequest :=
  ofParts
    (fun m => [utf8 m.tenant, utf8 m.id,
      encode (m.historyLength.toList.map fun n => (3, .varint (ofInt32 n)))])
    (fun
      | [tenant, id, rest] => do
          let fs ← decode rest
          some ⟨← ofUtf8 tenant, ← ofUtf8 id, (varintFields 3 fs).getLast?.map toInt32⟩
      | _ => none)
    fun ⟨tenant, id, historyLength⟩ => by
      cases historyLength with
      | none => simp [ofUtf8_utf8, decode_encode, varintFields]
      | some n => simp [ofUtf8_utf8, decode_encode, varintFields, toInt32_ofInt32]

@[reducible] def ListTasksRequest.codec : Proto ListTasksRequest :=
  ofParts (fun m => [utf8 m.tenant, m.unread])
    (fun
      | [tenant, unread] => do some ⟨← ofUtf8 tenant, unread⟩
      | _ => none)
    fun m => by simp [ofUtf8_utf8]

@[reducible] def CancelTaskRequest.codec : Proto CancelTaskRequest :=
  ofParts (fun m => [utf8 m.tenant, utf8 m.id, m.unread])
    (fun
      | [tenant, id, unread] => do some ⟨← ofUtf8 tenant, ← ofUtf8 id, unread⟩
      | _ => none)
    fun m => by simp [ofUtf8_utf8]

@[reducible] def SubscribeToTaskRequest.codec : Proto SubscribeToTaskRequest :=
  ofParts (fun m => [utf8 m.tenant, utf8 m.id])
    (fun
      | [tenant, id] => do some ⟨← ofUtf8 tenant, ← ofUtf8 id⟩
      | _ => none)
    fun m => by simp [ofUtf8_utf8]

@[reducible] def TaskPushNotificationConfig.codec : Proto TaskPushNotificationConfig :=
  ofParts (fun m => [utf8 m.tenant, utf8 m.taskId, m.unread])
    (fun
      | [tenant, taskId, unread] => do some ⟨← ofUtf8 tenant, ← ofUtf8 taskId, unread⟩
      | _ => none)
    fun m => by simp [ofUtf8_utf8]

@[reducible] def GetTaskPushNotificationConfigRequest.codec :
    Proto GetTaskPushNotificationConfigRequest :=
  ofParts (fun m => [utf8 m.tenant, utf8 m.taskId, utf8 m.id])
    (fun
      | [tenant, taskId, id] => do some ⟨← ofUtf8 tenant, ← ofUtf8 taskId, ← ofUtf8 id⟩
      | _ => none)
    fun m => by simp [ofUtf8_utf8]

@[reducible] def ListTaskPushNotificationConfigsRequest.codec :
    Proto ListTaskPushNotificationConfigsRequest :=
  ofParts (fun m => [utf8 m.tenant, utf8 m.taskId, m.unread])
    (fun
      | [tenant, taskId, unread] => do some ⟨← ofUtf8 tenant, ← ofUtf8 taskId, unread⟩
      | _ => none)
    fun m => by simp [ofUtf8_utf8]

@[reducible] def DeleteTaskPushNotificationConfigRequest.codec :
    Proto DeleteTaskPushNotificationConfigRequest :=
  ofParts (fun m => [utf8 m.tenant, utf8 m.taskId, utf8 m.id])
    (fun
      | [tenant, taskId, id] => do some ⟨← ofUtf8 tenant, ← ofUtf8 taskId, ← ofUtf8 id⟩
      | _ => none)
    fun m => by simp [ofUtf8_utf8]

@[reducible] def GetExtendedAgentCardRequest.codec : Proto GetExtendedAgentCardRequest :=
  ofString (·.tenant) (⟨·⟩) fun _ => rfl

@[reducible] def AgentInterface.codec : Proto AgentInterface :=
  ofParts (fun m => [utf8 m.url, utf8 m.protocolBinding, m.unread])
    (fun
      | [url, protocolBinding, unread] => do
          some ⟨← ofUtf8 url, ← ofUtf8 protocolBinding, unread⟩
      | _ => none)
    fun m => by simp [ofUtf8_utf8]

/-- A flag as a byte. -/
def flag (b : Bool) : UInt8 := if b then 1 else 0

theorem flag_eq_one (b : Bool) : (flag b == 1) = b := by cases b <;> rfl

@[reducible] def AgentCard.codec : Proto AgentCard :=
  have := AgentInterface.codec
  ofParts
    (fun m => [utf8 m.name,
      [flag m.capabilities.streaming, flag m.capabilities.pushNotifications,
        flag m.capabilities.extendedAgentCard],
      encode ((m.supportedInterfaces.map Proto.serializeToString).map fun bs => (1, .len bs)),
      m.unread])
    (fun
      | [name, [s, p, e], interfaces, unread] => do
          let fs ← decode interfaces
          let interfaces ← (lenFields 1 fs).mapM fun bs => (Proto.fromString bs).toOption
          some ⟨← ofUtf8 name, ⟨s == 1, p == 1, e == 1⟩, interfaces, unread⟩
      | _ => none)
    fun m => by
      have hinterfaces := mapM_fromString m.supportedInterfaces
      simp only [decode_encode, lenFields_map_len, ofUtf8_utf8, flag_eq_one, Option.bind_eq_bind,
        Option.bind_some, hinterfaces]

/-! ### Version 0.3 -/

namespace V03.GetTaskRequest

def fields (m : V03.GetTaskRequest) : List Field :=
  writeString 1 m.name ++ writeVarint 2 (ofInt32 m.historyLength)

def read (fs : List Field) : Option V03.GetTaskRequest := do
  let name ← stringField 1 fs
  some ⟨name, toInt32 (varintField 2 fs)⟩

theorem read_fields (m : V03.GetTaskRequest) : read m.fields = some m := by
  have h₁ : stringField 1 m.fields = some m.name :=
    stringField_writeString 1 m.name [] _ rfl (lenFields_writeVarint _ _ _)
  have h₂ : varintField 2 m.fields = ofInt32 m.historyLength := by
    have hlength := varintField_writeVarint 2 (ofInt32 m.historyLength) [] rfl
    rw [List.append_nil] at hlength
    rw [fields, varintField, varintFields, List.filterMap_append, ← varintFields, ← varintFields,
      varintFields_writeString, List.nil_append]
    exact hlength
  simp [read, h₁, h₂, toInt32_ofInt32]

@[reducible] def codec : Proto V03.GetTaskRequest where
  serializeToString m := encode m.fields
  fromString := parseFields read
  fromString_serializeToString m := parseFields_encode (read_fields m)

end V03.GetTaskRequest

@[reducible] def V03.Task.codec : Proto V03.Task := ofBytes (·.unread) (⟨·⟩) fun _ => rfl

@[reducible] def V03.StreamResponse.codec : Proto V03.StreamResponse :=
  ofBytes (·.unread) (⟨·⟩) fun _ => rfl

@[reducible] def V03.TaskPushNotificationConfig.codec : Proto V03.TaskPushNotificationConfig :=
  ofBytes (·.unread) (⟨·⟩) fun _ => rfl

@[reducible] def V03.AgentCard.codec : Proto V03.AgentCard :=
  ofBytes (·.unread) (⟨·⟩) fun _ => rfl

@[reducible] def V03.GetAgentCardRequest.codec : Proto V03.GetAgentCardRequest :=
  ofBytes (fun _ => []) (fun _ => ⟨⟩) fun _ => rfl

@[reducible] def V03.SendMessageRequest.codec : Proto V03.SendMessageRequest :=
  ofParts (fun m => [m.request.unread, m.configuration.unread, m.metadata.unread])
    (fun
      | [request, configuration, metadata] => some ⟨⟨request⟩, ⟨configuration⟩, ⟨metadata⟩⟩
      | _ => none)
    fun _ => rfl

namespace V03.SendMessageResponse

def fields : V03.SendMessageResponse → List Field
  | .unset => []
  | .task t => [(1, .len t.unread)]
  | .msg m => [(2, .len m.unread)]

def read (fs : List Field) : Option V03.SendMessageResponse :=
  match fs.getLast? with
  | none => some unset
  | some (1, .len bs) => some (task ⟨bs⟩)
  | some (2, .len bs) => some (msg ⟨bs⟩)
  | _ => none

theorem read_fields : ∀ m : V03.SendMessageResponse, read m.fields = some m
  | .unset => rfl
  | .task _ => rfl
  | .msg _ => rfl

@[reducible] def codec : Proto V03.SendMessageResponse where
  serializeToString m := encode m.fields
  fromString := parseFields read
  fromString_serializeToString m := parseFields_encode (read_fields m)

end V03.SendMessageResponse

@[reducible] def V03.CancelTaskRequest.codec : Proto V03.CancelTaskRequest :=
  ofString (·.name) (⟨·⟩) fun _ => rfl

@[reducible] def V03.TaskSubscriptionRequest.codec : Proto V03.TaskSubscriptionRequest :=
  ofString (·.name) (⟨·⟩) fun _ => rfl

@[reducible] def V03.GetTaskPushNotificationConfigRequest.codec :
    Proto V03.GetTaskPushNotificationConfigRequest :=
  ofString (·.name) (⟨·⟩) fun _ => rfl

@[reducible] def V03.ListTaskPushNotificationConfigRequest.codec :
    Proto V03.ListTaskPushNotificationConfigRequest :=
  ofString (·.parent) (⟨·⟩) fun _ => rfl

@[reducible] def V03.DeleteTaskPushNotificationConfigRequest.codec :
    Proto V03.DeleteTaskPushNotificationConfigRequest :=
  ofString (·.name) (⟨·⟩) fun _ => rfl

@[reducible] def V03.CreateTaskPushNotificationConfigRequest.codec :
    Proto V03.CreateTaskPushNotificationConfigRequest :=
  ofParts (fun m => [utf8 m.parent, utf8 m.configId, m.config.unread])
    (fun
      | [parent, configId, config] => do
          some ⟨← ofUtf8 parent, ← ofUtf8 configId, ⟨config⟩⟩
      | _ => none)
    fun m => by simp [ofUtf8_utf8]

@[reducible] def V03.ListTaskPushNotificationConfigResponse.codec :
    Proto V03.ListTaskPushNotificationConfigResponse :=
  ofParts (fun m => m.configs.map (·.unread)) (fun configs => some ⟨configs.map (⟨·⟩)⟩)
    fun m => by simp [Function.comp_def]

namespace Compat

/-- Conversions for concrete runs. -/
@[reducible] def standardConversions : Conversions03 where
  MessageSendParams := V03.SendMessageRequest
  TaskQueryParams := String × Option Int32
  TaskIdParams := String
  Message := V03.Message
  Task := V03.Task
  MessageSendConfiguration := V03.SendMessageConfiguration
  Metadata := V03.Struct
  StreamResult := V03.StreamResponse
  TaskPushNotificationConfig := V03.TaskPushNotificationConfig
  AgentCard := V03.AgentCard
  fromMessageSendParams request := .ok request
  fromTaskQueryParams request := do
    let id ← extractTaskId request.name
    return (id, if request.historyLength = 0 then none else some request.historyLength)
  fromTaskIdParams := extractTaskId
  fromTaskPushNotificationConfigRequest request := .ok request.config
  fromTask task := .ok task
  fromMessage message := .ok message
  fromStreamResponse response := .ok response
  fromTaskPushNotificationConfig config := .ok config
  fromListTaskPushNotificationConfigResponse response := .ok response.configs
  fromAgentCard card := .ok card
  toProtoTask task := .ok task
  toProtoMessage message := .ok message
  toProtoMessageSendConfiguration configuration := .ok configuration
  toProtoMetadata metadata := .ok metadata
  toProtoStreamResponse result := .ok result
  toProtoTaskPushNotificationConfig config := .ok config
  toProtoAgentCard card := .ok card
  message params := params.request
  configuration params := params.configuration
  metadata params := params.metadata
  pushNotificationConfigId _ := ""
  toCoreSendMessageRequest request := .ok ⟨"", request.params.request.unread⟩
  toCoreGetTaskRequest request := .ok ⟨"", request.params.1, request.params.2⟩
  toCoreCancelTaskRequest request := .ok ⟨"", request.params, []⟩
  toCoreSubscribeToTaskRequest request := .ok ⟨"", request.params⟩
  toCoreCreateTaskPushNotificationConfigRequest request := .ok ⟨"", "", request.params.unread⟩
  toCoreGetTaskPushNotificationConfigRequest request :=
    .ok ⟨"", request.params.id, request.params.pushNotificationConfigId⟩
  toCoreListTaskPushNotificationConfigRequest request := .ok ⟨"", request.params.id, []⟩
  toCoreDeleteTaskPushNotificationConfigRequest request :=
    .ok ⟨"", request.params.id, request.params.pushNotificationConfigId⟩
  toCoreTask task := .ok ⟨task.unread⟩
  toCoreMessage message := .ok ⟨message.unread⟩
  toCoreStreamResponse result := parseFields StreamResponse.read result.unread
  toCoreTaskPushNotificationConfig config := .ok ⟨"", "", config.unread⟩
  toCoreListTaskPushNotificationConfigResponse configs := .ok ⟨configs.flatMap (·.unread)⟩
  toCoreAgentCard card := .ok { (default : AgentCard) with unread := card.unread }
  toCompatSendMessageRequest request := .ok ⟨0, ⟨⟨request.unread⟩, ⟨[]⟩, ⟨[]⟩⟩⟩
  toCompatCreateTaskPushNotificationConfigRequest request := .ok ⟨0, ⟨request.unread⟩⟩
  toCompatTask task := .ok ⟨task.unread⟩
  toCompatMessage message := .ok ⟨message.unread⟩
  toCompatStreamResult event := .ok ⟨encode (standardSdk.toStreamResponse event).fields⟩
  toCompatTaskPushNotificationConfig config := .ok ⟨config.unread⟩
  toCompatListTaskPushNotificationConfigs response := .ok [⟨response.unread⟩]
  toCompatAgentCard card := .ok ⟨card.unread⟩
  taskNotFoundMessage03 := standardSdk.taskNotFoundMessage

/-- The conversions, and the request handler that only forwards. -/
@[reducible] def standardCompatSdk : CompatSdk where
  toConversions03 := standardConversions
  requestHandler03 h := @RequestHandler03.forwarding _ standardConversions h
  forwardsTo h := @RequestHandler03.forwardsTo_forwarding _ standardConversions h

end Compat
end SlimA2a
