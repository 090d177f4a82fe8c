import SlimA2a.ClientTransport
import SlimA2a.CompatTransport
import SlimA2a.Servicers

/-! # The server

An agent registers its servicers on a `slim_bindings.Server`, one handler for each method
(`add_A2AServiceServicer_to_server`, generated for both versions).  The server is a table of
handlers by service and method name; registering under a name that is taken replaces its entry.

Each version registers under a service name of its own, so an agent can offer both:
`lookup_register` says what the registration of a list of methods changes, and that is the entries
of its own service only. -/

namespace SlimA2a

/-- A registered handler.  A stream handler has the operations on its sink written down. -/
inductive ServerMethod (σ : Type) where
  | unaryUnary (handle : Bytes → Context → Co σ PyException Bytes)
  | unaryStream (handle : Bytes → Context → Co (σ × List SinkOp) PyException Unit)

/-- `slim_bindings.Server`: the registered handlers, by service and method name. -/
abbrev Server (σ : Type) : Type := Dict (String × String) (ServerMethod σ)

section register
variable {σ : Type}

/-- `register_unary_unary` and `register_unary_stream` for the methods of a service, one after the
other. -/
def Server.register (serviceName : String) (server : Server σ)
    (methods : List (String × ServerMethod σ)) : Server σ :=
  methods.foldl (fun server m => server.insert (serviceName, m.1) m.2) server

theorem lookup_eq_none_of_not_mem {α β : Type} [DecidableEq α] {a : α} :
    ∀ {l : List (α × β)}, a ∉ l.map Prod.fst → l.lookup a = none
  | [], _ => rfl
  | (b, c) :: l, h => by
      rw [List.map_cons, List.mem_cons, not_or] at h
      rw [List.lookup_cons, beq_false_of_ne h.1]
      exact lookup_eq_none_of_not_mem h.2

/-- A service that is registered replaces its own entries and no others. -/
theorem Server.lookup_register (serviceName : String) :
    ∀ (methods : List (String × ServerMethod σ)), (methods.map Prod.fst).Nodup →
      ∀ (server : Server σ) (key : String × String),
        (server.register serviceName methods).lookup key =
          (if key.1 = serviceName then methods.lookup key.2 else none).or (server.lookup key)
  | [], _, server, key => by
      rw [List.lookup_nil, ite_self]
      rfl
  | (name, method) :: methods, hnodup, server, key => by
      obtain ⟨hname, hnodup⟩ := List.nodup_cons.mp hnodup
      have ih := lookup_register serviceName methods hnodup
        (server.insert (serviceName, name) method) key
      rw [register, List.foldl_cons, ← register, ih]
      by_cases hkey : key = (serviceName, name)
      · subst hkey
        rw [if_pos rfl, if_pos rfl, lookup_eq_none_of_not_mem hname, AList.lookup_insert,
          List.lookup_cons_self]
        rfl
      · rw [AList.lookup_insert_ne hkey]
        by_cases hservice : key.1 = serviceName
        · have hne : key.2 ≠ name := fun h => hkey (Prod.ext hservice h)
          rw [if_pos hservice, if_pos hservice, List.lookup_cons, beq_false_of_ne hne]
        · rw [if_neg hservice, if_neg hservice]

end register

/-! ### The servicers -/

section servicers
variable [A2aSdk] {σ : Type}

/-- The registered wrapper of a method that returns one response. -/
def ServerMethod.ofUnary {ρ α : Type} [Proto ρ] [Proto α]
    (method : ρ → Context → Co σ PyException α) : ServerMethod σ :=
  .unaryUnary (UnaryUnaryHandler.handle method)

/-- The registered wrapper of a generator method. -/
def ServerMethod.ofStream {ρ α : Type} [Proto ρ] [Proto α]
    (method : ρ → Context → AsyncGen σ PyException α) : ServerMethod σ :=
  .unaryStream fun request context => UnaryStreamHandler.handle method request context recordingSink

section v1
variable [Proto SendMessageRequest] [Proto SendMessageResponse] [Proto StreamResponse]
  [Proto GetTaskRequest] [Proto Task] [Proto ListTasksRequest] [Proto ListTasksResponse]
  [Proto CancelTaskRequest] [Proto SubscribeToTaskRequest] [Proto TaskPushNotificationConfig]
  [Proto GetTaskPushNotificationConfigRequest] [Proto ListTaskPushNotificationConfigsRequest]
  [Proto ListTaskPushNotificationConfigsResponse] [Proto GetExtendedAgentCardRequest]
  [Proto AgentCard] [Proto DeleteTaskPushNotificationConfigRequest] [Proto Empty]

/-- The handlers of version 1, in the order of their registration. -/
def SRPCHandler.methods (servicer : SRPCHandler σ) : List (String × ServerMethod σ) :=
  [("SendMessage", .ofUnary servicer.sendMessage),
    ("SendStreamingMessage", .ofStream servicer.sendStreamingMessage),
    ("GetTask", .ofUnary servicer.getTask),
    ("ListTasks", .ofUnary servicer.listTasks),
    ("CancelTask", .ofUnary servicer.cancelTask),
    ("SubscribeToTask", .ofStream servicer.subscribeToTask),
    ("CreateTaskPushNotificationConfig", .ofUnary servicer.createTaskPushNotificationConfig),
    ("GetTaskPushNotificationConfig", .ofUnary servicer.getTaskPushNotificationConfig),
    ("ListTaskPushNotificationConfigs", .ofUnary servicer.listTaskPushNotificationConfigs),
    ("GetExtendedAgentCard", .ofUnary servicer.getExtendedAgentCard),
    ("DeleteTaskPushNotificationConfig", .ofUnary servicer.deleteTaskPushNotificationConfig)]

/-- `add_A2AServiceServicer_to_server` of version 1. -/
def addA2AServiceServicerToServer (servicer : SRPCHandler σ) (server : Server σ) : Server σ :=
  server.register "lf.a2a.v1.A2AService" servicer.methods

/-- The name that a call has on the wire. -/
def Call.name : Call → String
  | sendMessage _ => "SendMessage"
  | sendStreamingMessage _ => "SendStreamingMessage"
  | cancelTask _ => "CancelTask"
  | subscribeToTask _ => "SubscribeToTask"
  | getTask _ => "GetTask"
  | listTasks _ => "ListTasks"
  | getTaskPushNotificationConfig _ => "GetTaskPushNotificationConfig"
  | createTaskPushNotificationConfig _ => "CreateTaskPushNotificationConfig"
  | listTaskPushNotificationConfigs _ => "ListTaskPushNotificationConfigs"
  | deleteTaskPushNotificationConfig _ => "DeleteTaskPushNotificationConfig"
  | getExtendedAgentCard _ => "GetExtendedAgentCard"

/-- The wrapper of the method that serves a call. -/
def SRPCHandler.serverMethod (servicer : SRPCHandler σ) : Call → ServerMethod σ
  | .sendMessage _ => .ofUnary servicer.sendMessage
  | .sendStreamingMessage _ => .ofStream servicer.sendStreamingMessage
  | .cancelTask _ => .ofUnary servicer.cancelTask
  | .subscribeToTask _ => .ofStream servicer.subscribeToTask
  | .getTask _ => .ofUnary servicer.getTask
  | .listTasks _ => .ofUnary servicer.listTasks
  | .getTaskPushNotificationConfig _ => .ofUnary servicer.getTaskPushNotificationConfig
  | .createTaskPushNotificationConfig _ => .ofUnary servicer.createTaskPushNotificationConfig
  | .listTaskPushNotificationConfigs _ => .ofUnary servicer.listTaskPushNotificationConfigs
  | .deleteTaskPushNotificationConfig _ => .ofUnary servicer.deleteTaskPushNotificationConfig
  | .getExtendedAgentCard _ => .ofUnary servicer.getExtendedAgentCard

theorem SRPCHandler.lookup_methods (servicer : SRPCHandler σ) (call : Call) :
    servicer.methods.lookup call.name = some (servicer.serverMethod call) := by
  cases call <;> rfl

theorem SRPCHandler.nodup_methods (servicer : SRPCHandler σ) :
    (servicer.methods.map Prod.fst).Nodup := by
  show ["SendMessage", "SendStreamingMessage", "GetTask", "ListTasks", "CancelTask",
    "SubscribeToTask", "CreateTaskPushNotificationConfig", "GetTaskPushNotificationConfig",
    "ListTaskPushNotificationConfigs", "GetExtendedAgentCard",
    "DeleteTaskPushNotificationConfig"].Nodup
  decide

/-- The server has the servicer's methods under the names of their calls. -/
def Serves (server : Server σ) (servicer : SRPCHandler σ) : Prop :=
  ∀ call : Call, server.lookup (a2aService, call.name) = some (servicer.serverMethod call)

theorem serves_add (servicer : SRPCHandler σ) (server : Server σ) :
    Serves (addA2AServiceServicerToServer servicer server) servicer := by
  intro call
  have hservice : (a2aService, call.name).1 = "lf.a2a.v1.A2AService" := rfl
  rw [addA2AServiceServicerToServer, Server.lookup_register _ _ servicer.nodup_methods,
    if_pos hservice, servicer.lookup_methods]
  rfl

/-- What is registered for another service does not change what is served. -/
theorem Serves.register {server : Server σ} {servicer : SRPCHandler σ} (h : Serves server servicer)
    {serviceName : String} (hservice : serviceName ≠ a2aService)
    {methods : List (String × ServerMethod σ)} (hmethods : (methods.map Prod.fst).Nodup) :
    Serves (server.register serviceName methods) servicer := by
  intro call
  rw [Server.lookup_register _ _ hmethods, if_neg hservice.symm, Option.none_or]
  exact h call

end v1

section v03
variable [CompatSdk]
  [Proto V03.SendMessageRequest] [Proto V03.SendMessageResponse] [Proto V03.StreamResponse]
  [Proto V03.GetTaskRequest] [Proto V03.Task] [Proto V03.CancelTaskRequest]
  [Proto V03.TaskSubscriptionRequest] [Proto V03.CreateTaskPushNotificationConfigRequest]
  [Proto V03.TaskPushNotificationConfig] [Proto V03.GetTaskPushNotificationConfigRequest]
  [Proto V03.ListTaskPushNotificationConfigRequest]
  [Proto V03.ListTaskPushNotificationConfigResponse] [Proto V03.GetAgentCardRequest]
  [Proto V03.AgentCard] [Proto V03.DeleteTaskPushNotificationConfigRequest] [Proto Empty]

namespace Compat

/-- The handlers of version 0.3, in the order of their registration. -/
def SRPCCompatHandler.methods (servicer : SRPCCompatHandler σ) : List (String × ServerMethod σ) :=
  [("SendMessage", .ofUnary servicer.sendMessage),
    ("SendStreamingMessage", .ofStream servicer.sendStreamingMessage),
    ("GetTask", .ofUnary servicer.getTask),
    ("CancelTask", .ofUnary servicer.cancelTask),
    ("TaskSubscription", .ofStream servicer.taskSubscription),
    ("CreateTaskPushNotificationConfig", .ofUnary servicer.createTaskPushNotificationConfig),
    ("GetTaskPushNotificationConfig", .ofUnary servicer.getTaskPushNotificationConfig),
    ("ListTaskPushNotificationConfig", .ofUnary servicer.listTaskPushNotificationConfig),
    ("GetAgentCard", .ofUnary servicer.getAgentCard),
    ("DeleteTaskPushNotificationConfig", .ofUnary servicer.deleteTaskPushNotificationConfig)]

/-- `add_A2AServiceServicer_to_server` of version 0.3. -/
def addA2AServiceServicerToServer (servicer : SRPCCompatHandler σ) (server : Server σ) : Server σ :=
  server.register "a2a.v1.A2AService" servicer.methods

/-- The name that a call has on the wire. -/
def CompatCall.name : CompatCall → String
  | sendMessage _ => "SendMessage"
  | sendStreamingMessage _ => "SendStreamingMessage"
  | getTask _ => "GetTask"
  | cancelTask _ => "CancelTask"
  | taskSubscription _ => "TaskSubscription"
  | createTaskPushNotificationConfig _ => "CreateTaskPushNotificationConfig"
  | getTaskPushNotificationConfig _ => "GetTaskPushNotificationConfig"
  | listTaskPushNotificationConfig _ => "ListTaskPushNotificationConfig"
  | getAgentCard _ => "GetAgentCard"
  | deleteTaskPushNotificationConfig _ => "DeleteTaskPushNotificationConfig"

/-- The wrapper of the method that serves a call. -/
def SRPCCompatHandler.serverMethod (servicer : SRPCCompatHandler σ) : CompatCall → ServerMethod σ
  | .sendMessage _ => .ofUnary servicer.sendMessage
  | .sendStreamingMessage _ => .ofStream servicer.sendStreamingMessage
  | .getTask _ => .ofUnary servicer.getTask
  | .cancelTask _ => .ofUnary servicer.cancelTask
  | .taskSubscription _ => .ofStream servicer.taskSubscription
  | .createTaskPushNotificationConfig _ => .ofUnary servicer.createTaskPushNotificationConfig
  | .getTaskPushNotificationConfig _ => .ofUnary servicer.getTaskPushNotificationConfig
  | .listTaskPushNotificationConfig _ => .ofUnary servicer.listTaskPushNotificationConfig
  | .getAgentCard _ => .ofUnary servicer.getAgentCard
  | .deleteTaskPushNotificationConfig _ => .ofUnary servicer.deleteTaskPushNotificationConfig

theorem SRPCCompatHandler.lookup_methods (servicer : SRPCCompatHandler σ) (call : CompatCall) :
    servicer.methods.lookup call.name = some (servicer.serverMethod call) := by
  cases call <;> rfl

theorem SRPCCompatHandler.nodup_methods (servicer : SRPCCompatHandler σ) :
    (servicer.methods.map Prod.fst).Nodup := by
  show ["SendMessage", "SendStreamingMessage", "GetTask", "CancelTask", "TaskSubscription",
    "CreateTaskPushNotificationConfig", "GetTaskPushNotificationConfig",
    "ListTaskPushNotificationConfig", "GetAgentCard", "DeleteTaskPushNotificationConfig"].Nodup
  decide

/-- The server has the servicer's methods under the names of their calls. -/
def Serves (server : Server σ) (servicer : SRPCCompatHandler σ) : Prop :=
  ∀ call : CompatCall, server.lookup (a2aService, call.name) = some (servicer.serverMethod call)

theorem serves_add (servicer : SRPCCompatHandler σ) (server : Server σ) :
    Serves (addA2AServiceServicerToServer servicer server) servicer := by
  intro call
  have hservice : (a2aService, call.name).1 = "a2a.v1.A2AService" := rfl
  rw [addA2AServiceServicerToServer, Server.lookup_register _ _ servicer.nodup_methods,
    if_pos hservice, servicer.lookup_methods]
  rfl

/-- What is registered for another service does not change what is served. -/
theorem Serves.register {server : Server σ} {servicer : SRPCCompatHandler σ}
    (h : Serves server servicer) {serviceName : String} (hservice : serviceName ≠ a2aService)
    {methods : List (String × ServerMethod σ)} (hmethods : (methods.map Prod.fst).Nodup) :
    Serves (server.register serviceName methods) servicer := by
  intro call
  rw [Server.lookup_register _ _ hmethods, if_neg hservice.symm, Option.none_or]
  exact h call

end Compat
end v03
end servicers

/-! ### Both versions -/

/-- The two versions are two services. -/
theorem a2aService_ne : a2aService ≠ Compat.a2aService := by decide

section both
variable [A2aSdk] [CompatSdk]
  [Proto SendMessageRequest] [Proto SendMessageResponse] [Proto StreamResponse]
  [Proto GetTaskRequest] [Proto Task] [Proto ListTasksRequest] [Proto ListTasksResponse]
  [Proto CancelTaskRequest] [Proto SubscribeToTaskRequest] [Proto TaskPushNotificationConfig]
  [Proto GetTaskPushNotificationConfigRequest] [Proto ListTaskPushNotificationConfigsRequest]
  [Proto ListTaskPushNotificationConfigsResponse] [Proto GetExtendedAgentCardRequest]
  [Proto AgentCard] [Proto DeleteTaskPushNotificationConfigRequest] [Proto Empty]
  [Proto V03.SendMessageRequest] [Proto V03.SendMessageResponse] [Proto V03.StreamResponse]
  [Proto V03.GetTaskRequest] [Proto V03.Task] [Proto V03.CancelTaskRequest]
  [Proto V03.TaskSubscriptionRequest] [Proto V03.CreateTaskPushNotificationConfigRequest]
  [Proto V03.TaskPushNotificationConfig] [Proto V03.GetTaskPushNotificationConfigRequest]
  [Proto V03.ListTaskPushNotificationConfigRequest]
  [Proto V03.ListTaskPushNotificationConfigResponse] [Proto V03.GetAgentCardRequest]
  [Proto V03.AgentCard] [Proto V03.DeleteTaskPushNotificationConfigRequest]
  {σ : Type}

/-- A server with both servicers, registered in either order, serves both. -/
theorem serves_add_both (servicer : SRPCHandler σ) (compat : Compat.SRPCCompatHandler σ)
    (server : Server σ) :
    (Serves (addA2AServiceServicerToServer servicer
        (Compat.addA2AServiceServicerToServer compat server)) servicer ∧
      Compat.Serves (addA2AServiceServicerToServer servicer
        (Compat.addA2AServiceServicerToServer compat server)) compat) ∧
    (Serves (Compat.addA2AServiceServicerToServer compat
        (addA2AServiceServicerToServer servicer server)) servicer ∧
      Compat.Serves (Compat.addA2AServiceServicerToServer compat
        (addA2AServiceServicerToServer servicer server)) compat) := by
  refine ⟨⟨serves_add _ _, ?_⟩, ?_, Compat.serves_add _ _⟩
  · exact (Compat.serves_add compat server).register a2aService_ne servicer.nodup_methods
  · exact (serves_add servicer server).register a2aService_ne.symm compat.nodup_methods

/-- The server of an agent that offers both versions, as the echo agent sets it up. -/
def Servicers.server (servicers : Servicers σ) : Server σ :=
  addA2AServiceServicerToServer servicers.v1
    (Compat.addA2AServiceServicerToServer servicers.v03 (∅ : Dict _ _))

theorem Servicers.serves_server (servicers : Servicers σ) :
    Serves servicers.server servicers.v1 ∧ Compat.Serves servicers.server servicers.v03 :=
  (serves_add_both servicers.v1 servicers.v03 ∅).1

end both
end SlimA2a
