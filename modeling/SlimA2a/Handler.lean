import SlimA2a.Sdk

/-! # The server of version 1

`SRPCHandler` (`handler.py`) maps incoming SlimRPC requests to the methods of a `RequestHandler`.

Each method builds the call context, calls the request handler and turns an `A2AError` into an
`RpcError` whose details are a serialized `google.rpc.Status` (`statusDetails`).  Most of them are
one `try` around these steps (`reporting`).  The exceptions are what matters later: three methods
carry a guard that runs outside of the `try`, `sendStreamingMessage` builds its call context before
the `try`, and `getExtendedAgentCard` applies the card modifier after it. -/

namespace SlimA2a

section
variable [A2aSdk] {σ : Type}

/-! ### Errors -/

/-- `_SLIM_ERROR_CODE_MAP.get` -/
def slimErrorCodeMap : A2AErrorType → Option RpcCode
  | .invalidRequestError => some .invalidArgument
  | .methodNotFoundError => some .notFound
  | .invalidParamsError => some .invalidArgument
  | .internalError => some .internal
  | .taskNotFoundError => some .notFound
  | .taskNotCancelableError => some .failedPrecondition
  | .pushNotificationNotSupportedError => some .unimplemented
  | .unsupportedOperationError => some .unimplemented
  | .contentTypeNotSupportedError => some .invalidArgument
  | .invalidAgentResponseError => some .internal
  | .extendedAgentCardNotConfiguredError => some .failedPrecondition
  | .extensionSupportRequiredError => some .failedPrecondition
  | .versionNotSupportedError => some .unimplemented
  | .other _ => none

/-- `ErrorInfo.domain` for A2A errors. -/
def a2aErrorDomain : String := "a2a-protocol.org"

/-- The `ErrorInfo` of an error. -/
def errorInfo (error : A2AError) : ErrorInfo where
  reason := (A2aSdk.a2aErrorReasons error.type).getD "UNKNOWN_ERROR"
  domain := a2aErrorDomain

/-- The `google.rpc.Status` that carries the error's `ErrorInfo`. -/
def errorStatus (error : A2AError) (code : RpcCode) : Status where
  code := A2aSdk.rpcCodeValue code
  message := error.message
  details := [Any.pack (errorInfo error)]

/-- A serialized `google.rpc.Status` carrying the error's `ErrorInfo`. -/
def statusDetails (error : A2AError) (code : RpcCode) : Bytes :=
  Proto.serializeToString (errorStatus error code)

/-- What `raise_error_response` raises. -/
def slimRPCError (error : A2AError) : RpcError :=
  let code := (slimErrorCodeMap error.type).getD .unknown
  { code := code
    message := error.type.name ++ ": " ++ error.message
    details := some (statusDetails error code) }

/-- `TaskNotFoundError()` -/
def taskNotFoundError : A2AError := ⟨.taskNotFoundError, A2aSdk.taskNotFoundMessage⟩

/-! ### Call contexts -/

/-- A class for building ServerCallContexts using the slim_bindings Context. -/
abbrev CallContextBuilder (σ : Type) : Type := Context → Co σ PyException ServerCallContext

/-- Extract metadata value from slim_bindings context. -/
def getMetadataValue (context : Context) (key : String) : String :=
  (context.metadata.lookup key).getD ""

/-- A default implementation of CallContextBuilder. -/
def DefaultCallContextBuilder.build : CallContextBuilder σ := fun context => do
  let user := userFromContext context
  let state : Dict String Context := (∅ : Dict String Context).insert "slim_context" context
  return {
    user := user
    state := state
    requestedExtensions :=
      A2aSdk.getRequestedExtensions [getMetadataValue context A2aSdk.httpExtensionHeader]
    tenant := A2aSdk.defaultTenant }

/-! ### The servicer -/

/-- Maps incoming SlimRPC requests to the appropriate request handler method. -/
structure SRPCHandler (σ : Type) where
  agentCard : AgentCard
  requestHandler : RequestHandler σ
  contextBuilder : CallContextBuilder σ
  cardModifier : Option (AgentCard → Co σ PyException AgentCard)

namespace SRPCHandler

/-- The constructor: without a context builder the default one is used. -/
def init (agentCard : AgentCard) (requestHandler : RequestHandler σ)
    (contextBuilder : Option (CallContextBuilder σ))
    (cardModifier : Option (AgentCard → Co σ PyException AgentCard)) : SRPCHandler σ where
  agentCard := agentCard
  requestHandler := requestHandler
  contextBuilder := contextBuilder.getD DefaultCallContextBuilder.build
  cardModifier := cardModifier

variable (h : SRPCHandler σ)

def buildCallContext {ρ : Type} [HasTenant ρ] (context : Context) (request : ρ) :
    Co σ PyException ServerCallContext := do
  let serverContext ← h.contextBuilder context
  return { serverContext with tenant := HasTenant.tenant request }

/-- Raises SlimRPC errors appropriately. -/
def raiseErrorResponse (error : A2AError) : Co σ PyException Unit :=
  Co.raise (.rpc (slimRPCError error))

/-- `try: body` / `except A2AError as e: await self.raise_error_response(e)` / `return default` -/
def reporting {α : Type} (dflt : α) (body : Co σ PyException α) : Co σ PyException α :=
  Co.tryExcept body <| exceptA2AError fun e => do
    raiseErrorResponse e
    return dflt

/-- The same clause around a generator, which has nothing to return. -/
def reportingGen {α : Type} (body : AsyncGen σ PyException α) : AsyncGen σ PyException α :=
  body.tryExcept <| exceptA2AError fun e =>
    AsyncGen.awaitThen (raiseErrorResponse e) fun _ => AsyncGen.stop

/-- Build the call context, then `call` the request handler with it. -/
def withContext {ρ α : Type} [HasTenant ρ] (context : Context) (request : ρ)
    (call : ρ → ServerCallContext → Co σ PyException α) : Co σ PyException α := do
  let serverContext ← h.buildCallContext context request
  call request serverContext

/-- `if task: return task` / `await self.raise_error_response(TaskNotFoundError())` -/
def taskOrNotFound (task : Option Task) : Co σ PyException Task :=
  match task with
  | some task => return task
  | none => do
      raiseErrorResponse taskNotFoundError
      return default

def streamingNotSupported : String := "Streaming is not supported by the agent"

def pushNotificationsNotSupported : String := "Push notifications are not supported by the agent"

/-- Handles the 'SendMessage' SlimRPC method. -/
def sendMessage (request : SendMessageRequest) (context : Context) :
    Co σ PyException SendMessageResponse :=
  reporting .unset do
    match ← h.withContext context request h.requestHandler.onMessageSend with
    | .task task => return .task task
    | .message message => return .message message

/-- Handles the 'SendStreamingMessage' SlimRPC method. -/
def sendStreamingMessage (request : SendMessageRequest) (context : Context) :
    AsyncGen σ PyException StreamResponse :=
  A2aSdk.validateGen h.agentCard.capabilities.streaming streamingNotSupported <|
    AsyncGen.awaitThen (h.buildCallContext context request) fun serverContext =>
      reportingGen <|
        (h.requestHandler.onMessageSendStream request serverContext).map A2aSdk.toStreamResponse

/-- Handles the 'CancelTask' SlimRPC method. -/
def cancelTask (request : CancelTaskRequest) (context : Context) : Co σ PyException Task :=
  reporting default do
    taskOrNotFound (← h.withContext context request h.requestHandler.onCancelTask)

/-- Handles the 'SubscribeToTask' SlimRPC method. -/
def subscribeToTask (request : SubscribeToTaskRequest) (context : Context) :
    AsyncGen σ PyException StreamResponse :=
  A2aSdk.validateGen h.agentCard.capabilities.streaming streamingNotSupported <|
    reportingGen <|
      AsyncGen.awaitThen (h.buildCallContext context request) fun serverContext =>
        (h.requestHandler.onSubscribeToTask request serverContext).map A2aSdk.toStreamResponse

/-- Handles the 'GetTask' SlimRPC method. -/
def getTask (request : GetTaskRequest) (context : Context) : Co σ PyException Task :=
  reporting default do
    taskOrNotFound (← h.withContext context request h.requestHandler.onGetTask)

/-- Handles the 'ListTasks' SlimRPC method. -/
def listTasks (request : ListTasksRequest) (context : Context) :
    Co σ PyException ListTasksResponse :=
  reporting default (h.withContext context request h.requestHandler.onListTasks)

/-- Handles the 'GetTaskPushNotificationConfig' SlimRPC method. -/
def getTaskPushNotificationConfig (request : GetTaskPushNotificationConfigRequest)
    (context : Context) : Co σ PyException TaskPushNotificationConfig :=
  reporting default
    (h.withContext context request h.requestHandler.onGetTaskPushNotificationConfig)

/-- Handles the 'CreateTaskPushNotificationConfig' SlimRPC method. -/
def createTaskPushNotificationConfig (request : TaskPushNotificationConfig) (context : Context) :
    Co σ PyException TaskPushNotificationConfig :=
  A2aSdk.validate h.agentCard.capabilities.pushNotifications pushNotificationsNotSupported <|
    reporting default
      (h.withContext context request h.requestHandler.onCreateTaskPushNotificationConfig)

/-- Handles the 'ListTaskPushNotificationConfigs' SlimRPC method. -/
def listTaskPushNotificationConfigs (request : ListTaskPushNotificationConfigsRequest)
    (context : Context) : Co σ PyException ListTaskPushNotificationConfigsResponse :=
  reporting default
    (h.withContext context request h.requestHandler.onListTaskPushNotificationConfigs)

/-- Handles the 'DeleteTaskPushNotificationConfig' SlimRPC method. -/
def deleteTaskPushNotificationConfig (request : DeleteTaskPushNotificationConfigRequest)
    (context : Context) : Co σ PyException Empty :=
  reporting ⟨⟩ do
    h.withContext context request h.requestHandler.onDeleteTaskPushNotificationConfig
    return ⟨⟩

/-- Handles the 'GetExtendedAgentCard' SlimRPC method.  The `return` in the `except` clause of the
source is never reached, since `raise_error_response` raises. -/
def getExtendedAgentCard (request : GetExtendedAgentCardRequest) (context : Context) :
    Co σ PyException AgentCard := do
  let cardToServe ← reporting default
    (h.withContext context request h.requestHandler.onGetExtendedAgentCard)
  match h.cardModifier with
  | some cardModifier => cardModifier cardToServe
  | none => return cardToServe

end SRPCHandler

/-! ### Calls -/

/-- A call of one of the eleven methods. -/
inductive Call where
  | sendMessage (request : SendMessageRequest)
  | sendStreamingMessage (request : SendMessageRequest)
  | cancelTask (request : CancelTaskRequest)
  | subscribeToTask (request : SubscribeToTaskRequest)
  | getTask (request : GetTaskRequest)
  | listTasks (request : ListTasksRequest)
  | getTaskPushNotificationConfig (request : GetTaskPushNotificationConfigRequest)
  | createTaskPushNotificationConfig (request : TaskPushNotificationConfig)
  | listTaskPushNotificationConfigs (request : ListTaskPushNotificationConfigsRequest)
  | deleteTaskPushNotificationConfig (request : DeleteTaskPushNotificationConfigRequest)
  | getExtendedAgentCard (request : GetExtendedAgentCardRequest)
deriving DecidableEq

/-- What a method returns; a generator method returns nothing when it ends. -/
inductive Response where
  | sendMessageResponse (response : SendMessageResponse)
  | task (response : Task)
  | listTasksResponse (response : ListTasksResponse)
  | taskPushNotificationConfig (response : TaskPushNotificationConfig)
  | listTaskPushNotificationConfigsResponse (response : ListTaskPushNotificationConfigsResponse)
  | empty
  | agentCard (response : AgentCard)
  | ended
deriving DecidableEq

/-- What a call did: the messages it yielded, how it ended, and the world it left. -/
structure Outcome (ι ρ σ : Type) where
  items : List ι
  result : Except PyException ρ
  state : σ

namespace Outcome
variable {ι ρ : Type}

/-- The outcome of a coroutine method. -/
def ofUnary {α : Type} (wrap : α → ρ) (r : Except PyException α × σ) : Outcome ι ρ σ :=
  ⟨[], r.1.map wrap, r.2⟩

/-- The outcome of a generator method. -/
def ofStream (ended : ρ) (em : Emission σ PyException ι) : Outcome ι ρ σ :=
  ⟨em.items, em.result.map fun _ => ended, em.state⟩

end Outcome

/-- Serve a call in the world `s`. -/
def SRPCHandler.serve (h : SRPCHandler σ) (context : Context) (s : σ) :
    Call → Outcome StreamResponse Response σ
  | .sendMessage r => .ofUnary .sendMessageResponse ((h.sendMessage r context).run s)
  | .sendStreamingMessage r => .ofStream .ended ((h.sendStreamingMessage r context).run s)
  | .cancelTask r => .ofUnary .task ((h.cancelTask r context).run s)
  | .subscribeToTask r => .ofStream .ended ((h.subscribeToTask r context).run s)
  | .getTask r => .ofUnary .task ((h.getTask r context).run s)
  | .listTasks r => .ofUnary .listTasksResponse ((h.listTasks r context).run s)
  | .getTaskPushNotificationConfig r =>
      .ofUnary .taskPushNotificationConfig ((h.getTaskPushNotificationConfig r context).run s)
  | .createTaskPushNotificationConfig r =>
      .ofUnary .taskPushNotificationConfig ((h.createTaskPushNotificationConfig r context).run s)
  | .listTaskPushNotificationConfigs r =>
      .ofUnary .listTaskPushNotificationConfigsResponse
        ((h.listTaskPushNotificationConfigs r context).run s)
  | .deleteTaskPushNotificationConfig r =>
      .ofUnary (fun _ => .empty) ((h.deleteTaskPushNotificationConfig r context).run s)
  | .getExtendedAgentCard r => .ofUnary .agentCard ((h.getExtendedAgentCard r context).run s)

end
end SlimA2a
