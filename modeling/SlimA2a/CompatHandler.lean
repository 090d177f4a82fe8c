import SlimA2a.CompatSdk
import SlimA2a.Handler
import SlimA2a.PrefixMatch

/-! # The server of version 0.3

`SRPCCompatHandler` (`compat/v3_0/handler.py`) serves the v0.3 messages from a request handler of
version 1.  Every method but `getAgentCard` is one `try` around building the call context, decoding
the request and calling the handler; its errors carry no details.

Tasks and push-notification configs are named by strings, `tasks/{id}` and
`tasks/{id}/pushNotificationConfigs/{id}`, which `extractTaskId` and `extractTaskAndConfigId` take
apart again with a regular expression that is anchored at the start of the string only. -/

namespace SlimA2a.Compat

section
variable [A2aSdk] {σ : Type}

/-! ### Resource names -/

/-- `TASK_NAME_MATCH`: the pattern `tasks/([^/]+)` -/
def taskNameMatch : List (Piece Char) := [.lit "tasks/".toList, .run '/']

/-- `TASK_PUSH_CONFIG_NAME_MATCH`: the pattern `tasks/([^/]+)/pushNotificationConfigs/([^/]+)` -/
def taskPushConfigNameMatch : List (Piece Char) :=
  [.lit "tasks/".toList, .run '/', .lit "/pushNotificationConfigs/".toList, .run '/']

/-- `pattern.match(s)` -/
def Pattern.match (pattern : List (Piece Char)) (s : String) : Option (List String) :=
  (prefixMatch pattern s.toList).map (·.map String.ofList)

/-- `m.group(i)` -/
def group (m : List String) (i : ℕ) : String := m.getD (i - 1) ""

def invalidParams (message : String) : PyException := .a2a ⟨.invalidParamsError, message⟩

/-- Extracts task_id from resource name like 'tasks/{id}'. -/
def extractTaskId (resourceName : String) : Except PyException String :=
  match Pattern.match taskNameMatch resourceName with
  | none => .error (invalidParams ("No task for " ++ resourceName))
  | some m => .ok (group m 1)

/-- Extracts task_id and config_id from resource name. -/
def extractTaskAndConfigId (resourceName : String) : Except PyException (String × String) :=
  match Pattern.match taskPushConfigNameMatch resourceName with
  | none => .error (invalidParams ("Bad resource name " ++ resourceName))
  | some m => .ok (group m 1, group m 2)

/-! ### Errors and call contexts -/

/-- `_SLIM_ERROR_CODE_MAP.get` -/
def slimErrorCodeMap : A2AErrorType → Option RpcCode
  | .invalidRequestError => some .invalidArgument
  | .methodNotFoundError => some .notFound
  | .invalidParamsError => some .invalidArgument
  | .internalError => some .internal
  | .taskNotFoundError => some .notFound
  | .taskNotCancelableError => some .failedPrecondition
  | .pushNotificationNotSupportedError => some .unimplemented
  | .unsupportedOperationError => some .unimplemented
  | .contentTypeNotSupportedError => some .invalidArgument
  | .invalidAgentResponseError => some .internal
  | _ => none

/-- What `raise_error_response` raises. -/
def slimRPCError (error : A2AError) : RpcError where
  code := (slimErrorCodeMap error.type).getD .unknown
  message := error.type.name ++ ": " ++ error.message
  details := none

/-- Extract metadata value from slim_bindings context; the body is that of version 1. -/
def getMetadataValue (context : Context) (key : String) : String :=
  SlimA2a.getMetadataValue context key

/-- A default implementation of CallContextBuilder; the body is that of version 1. -/
def DefaultCallContextBuilder.build : CallContextBuilder σ :=
  SlimA2a.DefaultCallContextBuilder.build

end

/-! ### The servicer -/

/-- Backward compatible SlimRPC handler for A2A v0.3. -/
structure SRPCCompatHandler [Types03] (σ : Type) where
  agentCard : AgentCard
  handler03 : RequestHandler03 σ
  contextBuilder : CallContextBuilder σ
  cardModifier : Option (AgentCard → Co σ PyException AgentCard)

namespace SRPCCompatHandler

section steps
variable {σ : Type}

/-- Raises SlimRPC errors appropriately. -/
def raiseErrorResponse (error : A2AError) : Co σ PyException Unit :=
  Co.raise (.rpc (slimRPCError error))

/-- `try: body` / `except A2AError as e: await self.raise_error_response(e)` / `return default` -/
def reporting {α : Type} (dflt : α) (body : Co σ PyException α) : Co σ PyException α :=
  Co.tryExcept body <| exceptA2AError fun e => do
    raiseErrorResponse e
    return dflt

/-- The same clause around a generator, which has nothing to return. -/
def reportingGen {α : Type} (body : AsyncGen σ PyException α) : AsyncGen σ PyException α :=
  body.tryExcept <| exceptA2AError fun e =>
    AsyncGen.awaitThen (raiseErrorResponse e) fun _ => AsyncGen.stop

variable [Types03] (h : SRPCCompatHandler σ)

/-- Build the call context, decode the params into a request with id `0`, and return both. -/
def prepare {π : Type} (context : Context) (params : Except PyException π) :
    Co σ PyException (Request03 π × ServerCallContext) := do
  let serverContext ← h.contextBuilder context
  let params ← Co.ofExcept params
  return (⟨0, params⟩, serverContext)

/-- Prepare, then `call` the request handler. -/
def withRequest {π α : Type} (context : Context) (params : Except PyException π)
    (call : Request03 π → ServerCallContext → Co σ PyException α) : Co σ PyException α := do
  let (request, serverContext) ← h.prepare context params
  call request serverContext

end steps

variable [A2aSdk] [CompatSdk] {σ : Type}

/-- The constructor: the request handler is wrapped for v0.3. -/
def init (agentCard : AgentCard) (requestHandler : RequestHandler σ)
    (contextBuilder : Option (CallContextBuilder σ))
    (cardModifier : Option (AgentCard → Co σ PyException AgentCard)) : SRPCCompatHandler σ where
  agentCard := agentCard
  handler03 := CompatSdk.requestHandler03 requestHandler
  contextBuilder := contextBuilder.getD DefaultCallContextBuilder.build
  cardModifier := cardModifier

variable (h : SRPCCompatHandler σ)

/-- Prepare, then iterate over the events of the request handler. -/
def streaming {π : Type} (context : Context) (params : Except PyException π)
    (call : Request03 π → ServerCallContext → AsyncGen σ PyException StreamingResponse03) :
    AsyncGen σ PyException V03.StreamResponse :=
  reportingGen <| AsyncGen.awaitThen (h.prepare context params) fun (request, serverContext) =>
    (call request serverContext).mapExcept fun response =>
      Conversions03.toProtoStreamResponse response.result

/-- Handles the 'SendMessage' SlimRPC method (v0.3). -/
def sendMessage (request : V03.SendMessageRequest) (context : Context) :
    Co σ PyException V03.SendMessageResponse :=
  reporting .unset do
    match ← h.withRequest context (Conversions03.fromMessageSendParams request)
      h.handler03.onMessageSend with
    | .task task => return .task (← Co.ofExcept (Conversions03.toProtoTask task))
    | .message message => return .msg (← Co.ofExcept (Conversions03.toProtoMessage message))

/-- Handles the 'SendStreamingMessage' SlimRPC method (v0.3). -/
def sendStreamingMessage (request : V03.SendMessageRequest) (context : Context) :
    AsyncGen σ PyException V03.StreamResponse :=
  h.streaming context (Conversions03.fromMessageSendParams request) h.handler03.onMessageSendStream

/-- Handles the 'GetTask' SlimRPC method (v0.3). -/
def getTask (request : V03.GetTaskRequest) (context : Context) : Co σ PyException V03.Task :=
  reporting default do
    let result ← h.withRequest context (Conversions03.fromTaskQueryParams request)
      h.handler03.onGetTask
    Co.ofExcept (Conversions03.toProtoTask result)

/-- Handles the 'CancelTask' SlimRPC method (v0.3). -/
def cancelTask (request : V03.CancelTaskRequest) (context : Context) :
    Co σ PyException V03.Task :=
  reporting default do
    let result ← h.withRequest context (Conversions03.fromTaskIdParams request.name)
      h.handler03.onCancelTask
    Co.ofExcept (Conversions03.toProtoTask result)

/-- Handles the 'TaskSubscription' SlimRPC method (v0.3). -/
def taskSubscription (request : V03.TaskSubscriptionRequest) (context : Context) :
    AsyncGen σ PyException V03.StreamResponse :=
  h.streaming context (Conversions03.fromTaskIdParams request.name) h.handler03.onSubscribeToTask

/-- Handles the 'CreateTaskPushNotificationConfig' SlimRPC method (v0.3). -/
def createTaskPushNotificationConfig (request : V03.CreateTaskPushNotificationConfigRequest)
    (context : Context) : Co σ PyException V03.TaskPushNotificationConfig :=
  reporting default do
    let result ← h.withRequest context
      (Conversions03.fromTaskPushNotificationConfigRequest request)
      h.handler03.onCreateTaskPushNotificationConfig
    Co.ofExcept (Conversions03.toProtoTaskPushNotificationConfig result)

/-- Handles the 'GetTaskPushNotificationConfig' SlimRPC method (v0.3). -/
def getTaskPushNotificationConfig (request : V03.GetTaskPushNotificationConfigRequest)
    (context : Context) : Co σ PyException V03.TaskPushNotificationConfig :=
  reporting default do
    let result ← h.withRequest context
      (do
        let (taskId, configId) ← extractTaskAndConfigId request.name
        return ⟨taskId, configId⟩)
      h.handler03.onGetTaskPushNotificationConfig
    Co.ofExcept (Conversions03.toProtoTaskPushNotificationConfig result)

/-- Handles the 'ListTaskPushNotificationConfig' SlimRPC method (v0.3). -/
def listTaskPushNotificationConfig (request : V03.ListTaskPushNotificationConfigRequest)
    (context : Context) : Co σ PyException V03.ListTaskPushNotificationConfigResponse :=
  reporting default do
    let configs ← h.withRequest context
      (do
        let taskId ← extractTaskId request.parent
        return ⟨taskId⟩)
      h.handler03.onListTaskPushNotificationConfigs
    return ⟨← Co.ofExcept (configs.mapM Conversions03.toProtoTaskPushNotificationConfig)⟩

/-- Get the agent card for the agent served (v0.3). -/
def getAgentCard (_request : V03.GetAgentCardRequest) (_context : Context) :
    Co σ PyException V03.AgentCard := do
  let cardToServe ← match h.cardModifier with
    | some cardModifier => cardModifier h.agentCard
    | none => pure h.agentCard
  let card ← Co.ofExcept (Conversions03.toCompatAgentCard cardToServe)
  Co.ofExcept (Conversions03.toProtoAgentCard card)

/-- Handles the 'DeleteTaskPushNotificationConfig' SlimRPC method (v0.3). -/
def deleteTaskPushNotificationConfig (request : V03.DeleteTaskPushNotificationConfigRequest)
    (context : Context) : Co σ PyException Empty :=
  reporting ⟨⟩ do
    h.withRequest context
      (do
        let (taskId, configId) ← extractTaskAndConfigId request.name
        return ⟨taskId, configId⟩)
      h.handler03.onDeleteTaskPushNotificationConfig
    return ⟨⟩

end SRPCCompatHandler

/-! ### Calls -/

/-- A call of one of the ten methods. -/
inductive CompatCall where
  | sendMessage (request : V03.SendMessageRequest)
  | sendStreamingMessage (request : V03.SendMessageRequest)
  | getTask (request : V03.GetTaskRequest)
  | cancelTask (request : V03.CancelTaskRequest)
  | taskSubscription (request : V03.TaskSubscriptionRequest)
  | createTaskPushNotificationConfig (request : V03.CreateTaskPushNotificationConfigRequest)
  | getTaskPushNotificationConfig (request : V03.GetTaskPushNotificationConfigRequest)
  | listTaskPushNotificationConfig (request : V03.ListTaskPushNotificationConfigRequest)
  | getAgentCard (request : V03.GetAgentCardRequest)
  | deleteTaskPushNotificationConfig (request : V03.DeleteTaskPushNotificationConfigRequest)
deriving DecidableEq

/-- What a method returns; a generator method returns nothing when it ends. -/
inductive CompatResponse where
  | sendMessageResponse (response : V03.SendMessageResponse)
  | task (response : V03.Task)
  | taskPushNotificationConfig (response : V03.TaskPushNotificationConfig)
  | listTaskPushNotificationConfigResponse (response : V03.ListTaskPushNotificationConfigResponse)
  | agentCard (response : V03.AgentCard)
  | empty
  | ended
deriving DecidableEq

/-- Serve a call in the world `s`. -/
def SRPCCompatHandler.serve [CompatSdk] {σ : Type} (h : SRPCCompatHandler σ) (context : Context)
    (s : σ) : CompatCall → Outcome V03.StreamResponse CompatResponse σ
  | .sendMessage r => .ofUnary .sendMessageResponse ((h.sendMessage r context).run s)
  | .sendStreamingMessage r => .ofStream .ended ((h.sendStreamingMessage r context).run s)
  | .getTask r => .ofUnary .task ((h.getTask r context).run s)
  | .cancelTask r => .ofUnary .task ((h.cancelTask r context).run s)
  | .taskSubscription r => .ofStream .ended ((h.taskSubscription r context).run s)
  | .createTaskPushNotificationConfig r =>
      .ofUnary .taskPushNotificationConfig ((h.createTaskPushNotificationConfig r context).run s)
  | .getTaskPushNotificationConfig r =>
      .ofUnary .taskPushNotificationConfig ((h.getTaskPushNotificationConfig r context).run s)
  | .listTaskPushNotificationConfig r =>
      .ofUnary .listTaskPushNotificationConfigResponse
        ((h.listTaskPushNotificationConfig r context).run s)
  | .getAgentCard r => .ofUnary .agentCard ((h.getAgentCard r context).run s)
  | .deleteTaskPushNotificationConfig r =>
      .ofUnary (fun _ => .empty) ((h.deleteTaskPushNotificationConfig r context).run s)

end SlimA2a.Compat
