import Mathlib.Data.Finset.Basic
import Mathlib.Data.List.DropRight
import SlimA2a.AsyncGen
import SlimA2a.Identity
import SlimA2a.Messages

/-! # What the package takes from the A2A SDK

`A2aSdk` collects the constants and functions that the package uses and does not define.  They are
parameters of the whole development; what the package relies on is stated by the fields that are
propositions.

`RequestHandler σ` is the interface an agent implements, over a world `σ` of its own.
`RequestHandler.logged` is the same handler beside a log of the calls it received; the handler
itself does not see the log. -/

namespace SlimA2a

class A2aSdk where
  /-- `a2a.extensions.common.HTTP_EXTENSION_HEADER` -/
  httpExtensionHeader : String
  /-- `a2a.utils.constants.VERSION_HEADER` -/
  versionHeader : String
  /-- `a2a.utils.constants.PROTOCOL_VERSION_0_3` -/
  protocolVersion03 : String
  versionHeader_ne : versionHeader ≠ httpExtensionHeader
  /-- The extensions that a list of header values asks for. -/
  getRequestedExtensions : List String → Finset String
  /-- The tenant of a `ServerCallContext` that was built without one. -/
  defaultTenant : String
  /-- `A2A_ERROR_REASONS.get` -/
  a2aErrorReasons : A2AErrorType → Option String
  /-- The message of `TaskNotFoundError()`. -/
  taskNotFoundMessage : String
  /-- `code.value` -/
  rpcCodeValue : RpcCode → ℕ
  /-- `str(e)` -/
  str : PyException → String
  /-- `a2a.utils.proto_utils.to_stream_response` -/
  toStreamResponse : Event → StreamResponse
  /-- The `validate` decorator on a coroutine method, by the value of its predicate. -/
  validate : ∀ {σ α : Type}, Bool → String → Co σ PyException α → Co σ PyException α
  validate_true : ∀ {σ α : Type} errorMessage (body : Co σ PyException α),
    validate true errorMessage body = body
  /-- The body is not run when the predicate is false. -/
  validate_false : ∀ {σ α : Type} errorMessage (body : Co σ PyException α),
    validate false errorMessage body = Co.raise (.a2a ⟨.unsupportedOperationError, errorMessage⟩)
  /-- The `validate` decorator on an async generator method. -/
  validateGen : ∀ {σ α : Type}, Bool → String → AsyncGen σ PyException α →
    AsyncGen σ PyException α
  validateGen_true : ∀ {σ α : Type} errorMessage (body : AsyncGen σ PyException α),
    validateGen true errorMessage body = body
  validateGen_false : ∀ {σ α : Type} errorMessage (body : AsyncGen σ PyException α),
    validateGen false errorMessage body =
      AsyncGen.raise (.a2a ⟨.unsupportedOperationError, errorMessage⟩)

/-- The characters that `str.strip` removes. -/
def isSpace (c : Char) : Bool :=
  c.toNat ∈ [0x20, 0x85, 0xa0, 0x1680, 0x2028, 0x2029, 0x202f, 0x205f, 0x3000] ||
    (0x9 ≤ c.toNat && c.toNat ≤ 0xd) || (0x1c ≤ c.toNat && c.toNat ≤ 0x1f) ||
    (0x2000 ≤ c.toNat && c.toNat ≤ 0x200a)

/-- The SDK's own values, as far as concrete runs need them. -/
@[reducible] def standardSdk : A2aSdk where
  httpExtensionHeader := "A2A-Extensions"
  versionHeader := "A2A-Version"
  protocolVersion03 := "0.3"
  versionHeader_ne := by decide
  getRequestedExtensions values :=
    (values.flatMap fun v => (v.toList.splitOn ',').filterMap fun ext =>
      let stripped := (ext.dropWhile isSpace).rdropWhile isSpace
      if stripped = [] then none else some (String.ofList stripped)).toFinset
  defaultTenant := ""
  a2aErrorReasons
    | .invalidRequestError => some "INVALID_REQUEST"
    | .methodNotFoundError => some "METHOD_NOT_FOUND"
    | .invalidParamsError => some "INVALID_PARAMS"
    | .internalError => some "INTERNAL_ERROR"
    | .taskNotFoundError => some "TASK_NOT_FOUND"
    | .taskNotCancelableError => some "TASK_NOT_CANCELABLE"
    | .pushNotificationNotSupportedError => some "PUSH_NOTIFICATION_NOT_SUPPORTED"
    | .unsupportedOperationError => some "UNSUPPORTED_OPERATION"
    | .contentTypeNotSupportedError => some "CONTENT_TYPE_NOT_SUPPORTED"
    | .invalidAgentResponseError => some "INVALID_AGENT_RESPONSE"
    | .extendedAgentCardNotConfiguredError => some "EXTENDED_AGENT_CARD_NOT_CONFIGURED"
    | .extensionSupportRequiredError => some "EXTENSION_SUPPORT_REQUIRED"
    | .versionNotSupportedError => some "VERSION_NOT_SUPPORTED"
    | .other _ => none
  taskNotFoundMessage := "Task not found"
  rpcCodeValue
    | .unknown => 2
    | .invalidArgument => 3
    | .notFound => 5
    | .failedPrecondition => 9
    | .unimplemented => 12
    | .internal => 13
    | .other _ => 0
  str
    | .a2a e => e.message
    | .rpc e => e.message
    | .exception _ message => message
    | .base _ => ""
  toStreamResponse
    | .task task => .task task
    | .message message => .message message
    | .statusUpdate update => .statusUpdate update
    | .artifactUpdate update => .artifactUpdate update
  validate predicate errorMessage body :=
    if predicate then body else Co.raise (.a2a ⟨.unsupportedOperationError, errorMessage⟩)
  validate_true _ _ := rfl
  validate_false _ _ := rfl
  validateGen predicate errorMessage body :=
    if predicate then body else AsyncGen.raise (.a2a ⟨.unsupportedOperationError, errorMessage⟩)
  validateGen_true _ _ := rfl
  validateGen_false _ _ := rfl

/-- `a2a.server.context.ServerCallContext` -/
structure ServerCallContext where
  user : User
  state : Dict String Context
  requestedExtensions : Finset String
  tenant : String
deriving DecidableEq

/-- `a2a.client.client.ClientCallContext` -/
structure ClientCallContext where
  serviceParameters : Option (Dict String String)

/-- `a2a.server.request_handlers.request_handler.RequestHandler` -/
structure RequestHandler (σ : Type) where
  onMessageSend : SendMessageRequest → ServerCallContext → Co σ PyException TaskOrMessage
  onMessageSendStream : SendMessageRequest → ServerCallContext → AsyncGen σ PyException Event
  onCancelTask : CancelTaskRequest → ServerCallContext → Co σ PyException (Option Task)
  onSubscribeToTask : SubscribeToTaskRequest → ServerCallContext → AsyncGen σ PyException Event
  onGetTask : GetTaskRequest → ServerCallContext → Co σ PyException (Option Task)
  onListTasks : ListTasksRequest → ServerCallContext → Co σ PyException ListTasksResponse
  onGetTaskPushNotificationConfig : GetTaskPushNotificationConfigRequest → ServerCallContext →
    Co σ PyException TaskPushNotificationConfig
  onCreateTaskPushNotificationConfig : TaskPushNotificationConfig → ServerCallContext →
    Co σ PyException TaskPushNotificationConfig
  onListTaskPushNotificationConfigs : ListTaskPushNotificationConfigsRequest →
    ServerCallContext → Co σ PyException ListTaskPushNotificationConfigsResponse
  onDeleteTaskPushNotificationConfig : DeleteTaskPushNotificationConfigRequest →
    ServerCallContext → Co σ PyException Unit
  onGetExtendedAgentCard : GetExtendedAgentCardRequest → ServerCallContext →
    Co σ PyException AgentCard

/-- The request handler that refuses every call with `e`. -/
def RequestHandler.refusing {σ : Type} (e : PyException) : RequestHandler σ where
  onMessageSend _ _ := Co.raise e
  onMessageSendStream _ _ := AsyncGen.raise e
  onCancelTask _ _ := Co.raise e
  onSubscribeToTask _ _ := AsyncGen.raise e
  onGetTask _ _ := Co.raise e
  onListTasks _ _ := Co.raise e
  onGetTaskPushNotificationConfig _ _ := Co.raise e
  onCreateTaskPushNotificationConfig _ _ := Co.raise e
  onListTaskPushNotificationConfigs _ _ := Co.raise e
  onDeleteTaskPushNotificationConfig _ _ := Co.raise e
  onGetExtendedAgentCard _ _ := Co.raise e

/-- A call of a method of a `RequestHandler`. -/
inductive HandlerCall where
  | onMessageSend (request : SendMessageRequest) (context : ServerCallContext)
  | onMessageSendStream (request : SendMessageRequest) (context : ServerCallContext)
  | onCancelTask (request : CancelTaskRequest) (context : ServerCallContext)
  | onSubscribeToTask (request : SubscribeToTaskRequest) (context : ServerCallContext)
  | onGetTask (request : GetTaskRequest) (context : ServerCallContext)
  | onListTasks (request : ListTasksRequest) (context : ServerCallContext)
  | onGetTaskPushNotificationConfig (request : GetTaskPushNotificationConfigRequest)
      (context : ServerCallContext)
  | onCreateTaskPushNotificationConfig (request : TaskPushNotificationConfig)
      (context : ServerCallContext)
  | onListTaskPushNotificationConfigs (request : ListTaskPushNotificationConfigsRequest)
      (context : ServerCallContext)
  | onDeleteTaskPushNotificationConfig (request : DeleteTaskPushNotificationConfigRequest)
      (context : ServerCallContext)
  | onGetExtendedAgentCard (request : GetExtendedAgentCardRequest) (context : ServerCallContext)
deriving DecidableEq

/-- The call context that was passed along. -/
def HandlerCall.context : HandlerCall → ServerCallContext
  | onMessageSend _ context => context
  | onMessageSendStream _ context => context
  | onCancelTask _ context => context
  | onSubscribeToTask _ context => context
  | onGetTask _ context => context
  | onListTasks _ context => context
  | onGetTaskPushNotificationConfig _ context => context
  | onCreateTaskPushNotificationConfig _ context => context
  | onListTaskPushNotificationConfigs _ context => context
  | onDeleteTaskPushNotificationConfig _ context => context
  | onGetExtendedAgentCard _ context => context

/-- The same handler beside a log of the calls it received. -/
def RequestHandler.logged {σ : Type} (h : RequestHandler σ) :
    RequestHandler (σ × List HandlerCall) where
  onMessageSend r c := (h.onMessageSend r c).logged (.onMessageSend r c)
  onMessageSendStream r c := (h.onMessageSendStream r c).logged (.onMessageSendStream r c)
  onCancelTask r c := (h.onCancelTask r c).logged (.onCancelTask r c)
  onSubscribeToTask r c := (h.onSubscribeToTask r c).logged (.onSubscribeToTask r c)
  onGetTask r c := (h.onGetTask r c).logged (.onGetTask r c)
  onListTasks r c := (h.onListTasks r c).logged (.onListTasks r c)
  onGetTaskPushNotificationConfig r c :=
    (h.onGetTaskPushNotificationConfig r c).logged (.onGetTaskPushNotificationConfig r c)
  onCreateTaskPushNotificationConfig r c :=
    (h.onCreateTaskPushNotificationConfig r c).logged (.onCreateTaskPushNotificationConfig r c)
  onListTaskPushNotificationConfigs r c :=
    (h.onListTaskPushNotificationConfigs r c).logged (.onListTaskPushNotificationConfigs r c)
  onDeleteTaskPushNotificationConfig r c :=
    (h.onDeleteTaskPushNotificationConfig r c).logged (.onDeleteTaskPushNotificationConfig r c)
  onGetExtendedAgentCard r c :=
    (h.onGetExtendedAgentCard r c).logged (.onGetExtendedAgentCard r c)

/-! ### Clauses -/

section clauses
variable {σ α β : Type}

/-- The clause `except A2AError as e: k(e)`. -/
def exceptA2AError (k : A2AError → β) : PyException → Option β
  | .a2a e => some (k e)
  | _ => none

/-- The exceptions with the A2A errors among them replaced by RPC errors. -/
def reportWith (rpcError : A2AError → RpcError) : PyException → PyException
  | .a2a e => .rpc (rpcError e)
  | e => e

/-- No A2A error is left once they have been replaced. -/
theorem mapError_reportWith_ne (rpcError : A2AError → RpcError) (r : Except PyException α)
    (e : A2AError) : r.mapError (reportWith rpcError) ≠ .error (.a2a e) := by
  intro he
  cases r with
  | ok a => cases he
  | error x => cases x <;> cases he

/-- Replacing errors makes no success. -/
theorem eq_ok_of_mapError {f : PyException → PyException} {r : Except PyException α} {a : α}
    (h : r.mapError f = .ok a) : r = .ok a := by
  cases r with
  | ok a' => exact h
  | error x => cases h

/-- A clause that always raises replaces the A2A errors and changes nothing else. -/
theorem run_tryExcept_report {rpcError : A2AError → RpcError} {k : A2AError → Co σ PyException α}
    (hk : ∀ e s, (k e).run s = (.error (.rpc (rpcError e)), s)) (m : Co σ PyException α) (s : σ) :
    (Co.tryExcept m (exceptA2AError k)).run s =
      ((m.run s).1.mapError (reportWith rpcError), (m.run s).2) := by
  rw [Co.run_tryExcept]
  rcases m.run s with ⟨e | a, s'⟩
  · cases e with
    | a2a e => exact hk e s'
    | rpc e => rfl
    | exception type message => rfl
    | base type => rfl
  · rfl

/-- The same for a generator. -/
theorem run_tryExceptGen_report {rpcError : A2AError → RpcError}
    {k : A2AError → AsyncGen σ PyException α}
    (hk : ∀ e s, (k e).run s = ⟨[], .error (.rpc (rpcError e)), s⟩) (g : AsyncGen σ PyException α)
    (s : σ) :
    (g.tryExcept (exceptA2AError k)).run s =
      { g.run s with result := (g.run s).result.mapError (reportWith rpcError) } := by
  rw [AsyncGen.run_tryExcept]
  rcases g.run s with ⟨items, e | u, s'⟩
  · cases e with
    | a2a e =>
        simp only [Emission.recover, exceptA2AError, hk, List.append_nil]
        rfl
    | rpc e => rfl
    | exception type message => rfl
    | base type => rfl
  · rfl

end clauses

end SlimA2a
