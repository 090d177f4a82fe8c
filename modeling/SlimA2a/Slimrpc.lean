import SlimA2a.Sdk
import SlimA2a.SlimBindings

/-! # The generated SlimRPC code

The client stubs and server wrappers that the SlimRPC plugin generates
(`types/v1/a2a_pb2_slimrpc.py`; `types/v0` comes from the same template).  All methods of one kind
share one template, so each template is a definition and each method an application of it.

* `unary`, `unaryStream`: the methods of `A2AServiceStub`.
* `multicastUnary`, `multicastUnaryStream`: the methods of `A2AServiceGroupStub`.
* `UnaryUnaryHandler.handle`, `UnaryStreamHandler.handle`: the server wrappers. -/

namespace SlimA2a

section templates
variable {σ τ ρ α : Type} [Proto ρ] [Proto α]

/-! ### Stub templates -/

/-- The loop over a response stream. -/
def readStream : List StreamMessage → AsyncGen σ PyException α
  | [] => .stop
  | .end :: _ => .stop
  | .error e :: _ => .raise (.rpc e)
  | .data message :: rest =>
      match Proto.fromString message with
      | .ok response => .yield response (readStream rest)
      | .error e => .raise e

/-- The loop over a multicast reader. -/
def readMulticast : List MulticastMessage → AsyncGen σ PyException (Context × α)
  | [] => .stop
  | .end :: _ => .stop
  | .error e :: _ => .raise (.rpc e)
  | .data context message :: rest =>
      match Proto.fromString message with
      | .ok response => .yield (context, response) (readMulticast rest)
      | .error e => .raise e

/-- A stub method that awaits one response. -/
def unary (service method : String) (net : Network σ) (channel : Channel) (request : ρ)
    (timeout : Option ℕ) (metadata : Option (Dict String String)) : Co σ PyException α := do
  let responseBytes ← net.callUnaryAsync channel
    ⟨service, method, Proto.serializeToString request, timeout, metadata⟩
  Co.ofExcept (Proto.fromString responseBytes)

/-- A stub method that iterates over a response stream. -/
def unaryStream (service method : String) (net : Network σ) (channel : Channel) (request : ρ)
    (timeout : Option ℕ) (metadata : Option (Dict String String)) : AsyncGen σ PyException α :=
  AsyncGen.awaitThen
    (net.callUnaryStreamAsync channel
      ⟨service, method, Proto.serializeToString request, timeout, metadata⟩)
    readStream

/-- A group stub method with one response per server. -/
def multicastUnary (service method : String) (net : Network σ) (channel : Channel) (request : ρ)
    (timeout : Option ℕ) (metadata : Option (Dict String String)) :
    AsyncGen σ PyException (Context × α) :=
  AsyncGen.awaitThen
    (net.callMulticastUnaryAsync channel
      ⟨service, method, Proto.serializeToString request, timeout, metadata⟩)
    readMulticast

/-- A group stub method with streaming responses per server. -/
def multicastUnaryStream (service method : String) (net : Network σ) (channel : Channel)
    (request : ρ) (timeout : Option ℕ) (metadata : Option (Dict String String)) :
    AsyncGen σ PyException (Context × α) :=
  AsyncGen.awaitThen
    (net.callMulticastUnaryStreamAsync channel
      ⟨service, method, Proto.serializeToString request, timeout, metadata⟩)
    readMulticast

/-! ### Server templates -/

variable [A2aSdk]

/-- The clauses `except slim_bindings.RpcError` and `except Exception`: the error to report. -/
def rpcErrorOf : PyException → Option RpcError
  | .rpc e => some e
  | .a2a e => some ⟨.internal, A2aSdk.str (.a2a e), none⟩
  | .exception type message => some ⟨.internal, A2aSdk.str (.exception type message), none⟩
  | .base _ => none

/-- The wrapper of a method that returns one response. -/
def UnaryUnaryHandler.handle (method : ρ → Context → Co σ PyException α) (request : Bytes)
    (context : Context) : Co σ PyException Bytes :=
  Co.tryExcept
    (do
      let requestMsg ← Co.ofExcept (Proto.fromString request)
      let response ← method requestMsg context
      return Proto.serializeToString response)
    fun e => (rpcErrorOf e).map fun e => Co.raise (.rpc e)

/-- The wrapper of a generator method; the sink lives in a world of its own. -/
def UnaryStreamHandler.handle (method : ρ → Context → AsyncGen σ PyException α) (request : Bytes)
    (context : Context) (sink : ResponseSink τ) : Co (σ × τ) PyException Unit :=
  Co.tryExcept
    (do
      let requestMsg ← Co.ofExcept (Proto.fromString request)
      (method requestMsg context).onFst.forEach fun response =>
        (sink.sendAsync (Proto.serializeToString response)).onSnd
      sink.closeAsync.onSnd)
    fun e => (rpcErrorOf e).map fun e => (sink.sendErrorAsync e).onSnd

/-- The wrapper of a unary method encodes its response, or reports its exception, and changes the
world as the method does. -/
theorem UnaryUnaryHandler.run_handle (method : ρ → Context → Co σ PyException α) (request : ρ)
    (context : Context) (s : σ) :
    (UnaryUnaryHandler.handle method (Proto.serializeToString request) context).run s =
      (match ((method request context).run s).1 with
        | .ok response => .ok (Proto.serializeToString response)
        | .error e =>
            match rpcErrorOf e with
            | some r => .error (.rpc r)
            | none => .error e,
        ((method request context).run s).2) := by
  unfold UnaryUnaryHandler.handle
  rw [Proto.fromString_serializeToString, Co.run_tryExcept,
    Co.run_bind_ok (Co.run_ofExcept _ _), Co.run_bind]
  rcases (method request context).run s with ⟨e | response, s'⟩
  · dsimp only
    cases rpcErrorOf e <;> rfl
  · rfl

end templates

/-! ### The stubs of version 1 -/

section stubs
variable [Proto SendMessageRequest] [Proto SendMessageResponse] [Proto StreamResponse]
  [Proto GetTaskRequest] [Proto Task] [Proto ListTasksRequest] [Proto ListTasksResponse]
  [Proto CancelTaskRequest] [Proto SubscribeToTaskRequest] [Proto TaskPushNotificationConfig]
  [Proto GetTaskPushNotificationConfigRequest] [Proto ListTaskPushNotificationConfigsRequest]
  [Proto ListTaskPushNotificationConfigsResponse] [Proto GetExtendedAgentCardRequest]
  [Proto AgentCard] [Proto DeleteTaskPushNotificationConfigRequest] [Proto Empty]
  {σ : Type} (net : Network σ) (channel : Channel)

def a2aService : String := "lf.a2a.v1.A2AService"

namespace A2AServiceStub

def sendMessage (request : SendMessageRequest) (timeout : Option ℕ)
    (metadata : Option (Dict String String)) : Co σ PyException SendMessageResponse :=
  unary a2aService "SendMessage" net channel request timeout metadata

def sendStreamingMessage (request : SendMessageRequest) (timeout : Option ℕ)
    (metadata : Option (Dict String String)) : AsyncGen σ PyException StreamResponse :=
  unaryStream a2aService "SendStreamingMessage" net channel request timeout metadata

def getTask (request : GetTaskRequest) (timeout : Option ℕ)
    (metadata : Option (Dict String String)) : Co σ PyException Task :=
  unary a2aService "GetTask" net channel request timeout metadata

def listTasks (request : ListTasksRequest) (timeout : Option ℕ)
    (metadata : Option (Dict String String)) : Co σ PyException ListTasksResponse :=
  unary a2aService "ListTasks" net channel request timeout metadata

def cancelTask (request : CancelTaskRequest) (timeout : Option ℕ)
    (metadata : Option (Dict String String)) : Co σ PyException Task :=
  unary a2aService "CancelTask" net channel request timeout metadata

def subscribeToTask (request : SubscribeToTaskRequest) (timeout : Option ℕ)
    (metadata : Option (Dict String String)) : AsyncGen σ PyException StreamResponse :=
  unaryStream a2aService "SubscribeToTask" net channel request timeout metadata

def createTaskPushNotificationConfig (request : TaskPushNotificationConfig) (timeout : Option ℕ)
    (metadata : Option (Dict String String)) : Co σ PyException TaskPushNotificationConfig :=
  unary a2aService "CreateTaskPushNotificationConfig" net channel request timeout metadata

def getTaskPushNotificationConfig (request : GetTaskPushNotificationConfigRequest)
    (timeout : Option ℕ) (metadata : Option (Dict String String)) :
    Co σ PyException TaskPushNotificationConfig :=
  unary a2aService "GetTaskPushNotificationConfig" net channel request timeout metadata

def listTaskPushNotificationConfigs (request : ListTaskPushNotificationConfigsRequest)
    (timeout : Option ℕ) (metadata : Option (Dict String String)) :
    Co σ PyException ListTaskPushNotificationConfigsResponse :=
  unary a2aService "ListTaskPushNotificationConfigs" net channel request timeout metadata

def getExtendedAgentCard (request : GetExtendedAgentCardRequest) (timeout : Option ℕ)
    (metadata : Option (Dict String String)) : Co σ PyException AgentCard :=
  unary a2aService "GetExtendedAgentCard" net channel request timeout metadata

def deleteTaskPushNotificationConfig (request : DeleteTaskPushNotificationConfigRequest)
    (timeout : Option ℕ) (metadata : Option (Dict String String)) : Co σ PyException Empty :=
  unary a2aService "DeleteTaskPushNotificationConfig" net channel request timeout metadata

end A2AServiceStub

namespace A2AServiceGroupStub

def sendMessage (request : SendMessageRequest) (timeout : Option ℕ)
    (metadata : Option (Dict String String)) :
    AsyncGen σ PyException (Context × SendMessageResponse) :=
  multicastUnary a2aService "SendMessage" net channel request timeout metadata

def sendStreamingMessage (request : SendMessageRequest) (timeout : Option ℕ)
    (metadata : Option (Dict String String)) : AsyncGen σ PyException (Context × StreamResponse) :=
  multicastUnaryStream a2aService "SendStreamingMessage" net channel request timeout metadata

def getTask (request : GetTaskRequest) (timeout : Option ℕ)
    (metadata : Option (Dict String String)) : AsyncGen σ PyException (Context × Task) :=
  multicastUnary a2aService "GetTask" net channel request timeout metadata

def listTasks (request : ListTasksRequest) (timeout : Option ℕ)
    (metadata : Option (Dict String String)) :
    AsyncGen σ PyException (Context × ListTasksResponse) :=
  multicastUnary a2aService "ListTasks" net channel request timeout metadata

def cancelTask (request : CancelTaskRequest) (timeout : Option ℕ)
    (metadata : Option (Dict String String)) : AsyncGen σ PyException (Context × Task) :=
  multicastUnary a2aService "CancelTask" net channel request timeout metadata

def subscribeToTask (request : SubscribeToTaskRequest) (timeout : Option ℕ)
    (metadata : Option (Dict String String)) : AsyncGen σ PyException (Context × StreamResponse) :=
  multicastUnaryStream a2aService "SubscribeToTask" net channel request timeout metadata

def createTaskPushNotificationConfig (request : TaskPushNotificationConfig) (timeout : Option ℕ)
    (metadata : Option (Dict String String)) :
    AsyncGen σ PyException (Context × TaskPushNotificationConfig) :=
  multicastUnary a2aService "CreateTaskPushNotificationConfig" net channel request timeout metadata

def getTaskPushNotificationConfig (request : GetTaskPushNotificationConfigRequest)
    (timeout : Option ℕ) (metadata : Option (Dict String String)) :
    AsyncGen σ PyException (Context × TaskPushNotificationConfig) :=
  multicastUnary a2aService "GetTaskPushNotificationConfig" net channel request timeout metadata

def listTaskPushNotificationConfigs (request : ListTaskPushNotificationConfigsRequest)
    (timeout : Option ℕ) (metadata : Option (Dict String String)) :
    AsyncGen σ PyException (Context × ListTaskPushNotificationConfigsResponse) :=
  multicastUnary a2aService "ListTaskPushNotificationConfigs" net channel request timeout metadata

def getExtendedAgentCard (request : GetExtendedAgentCardRequest) (timeout : Option ℕ)
    (metadata : Option (Dict String String)) : AsyncGen σ PyException (Context × AgentCard) :=
  multicastUnary a2aService "GetExtendedAgentCard" net channel request timeout metadata

def deleteTaskPushNotificationConfig (request : DeleteTaskPushNotificationConfigRequest)
    (timeout : Option ℕ) (metadata : Option (Dict String String)) :
    AsyncGen σ PyException (Context × Empty) :=
  multicastUnary a2aService "DeleteTaskPushNotificationConfig" net channel request timeout metadata

end A2AServiceGroupStub
end stubs
end SlimA2a
