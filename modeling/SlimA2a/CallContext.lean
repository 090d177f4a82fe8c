import SlimA2a.Codecs
import SlimA2a.HandlerCalls

/-! # Caller identity in the call context

What a caller can change about the `ServerCallContext` that the request handler gets, on both
servers and with the default context builder.

The request handler is put beside a log of its calls, and `received` is that log after one
RPC.  Every call in it carries the context that `callContext` describes (`context_of_mem_received`):
the user comes from the verified claims of the session, the requested extensions from one metadata
entry, the tenant from the request, and nothing else depends on the caller.  The two-run statements
compare two such contexts. -/

namespace SlimA2a

/-! ### Coroutines that pass one context on -/

section logs
variable {σ α β : Type}

/-- Every call that `m` logs carries `context`. -/
def PassesOn (context : ServerCallContext) (m : Co (σ × List HandlerCall) PyException α) : Prop :=
  ∀ s, ∀ call ∈ (m.run s).2.2, call ∈ s.2 ∨ call.context = context

/-- Every call that the generator logs carries `context`. -/
def PassesOnGen (context : ServerCallContext)
    (g : AsyncGen (σ × List HandlerCall) PyException α) : Prop :=
  ∀ s, ∀ call ∈ (g.run s).state.2, call ∈ s.2 ∨ call.context = context

variable {context : ServerCallContext}

theorem passesOn_still {m : Co (σ × List HandlerCall) PyException α} (hm : Co.Still m) :
    PassesOn context m := by
  intro s call hcall
  rw [hm s] at hcall
  exact Or.inl hcall

theorem passesOn_onFst (m : Co σ PyException α) :
    PassesOn context (m.onFst : Co (σ × List HandlerCall) PyException α) :=
  fun _ _ hcall => Or.inl hcall

theorem passesOn_logged {entry : HandlerCall} (hentry : entry.context = context)
    (m : Co σ PyException α) : PassesOn context (m.logged entry) := by
  rintro ⟨s, log⟩ call hcall
  rw [Co.run_logged, List.mem_append, List.mem_singleton] at hcall
  rcases hcall with hcall | rfl
  · exact Or.inl hcall
  · exact Or.inr hentry

theorem passesOn_bind {m : Co (σ × List HandlerCall) PyException α}
    {f : α → Co (σ × List HandlerCall) PyException β} (hm : PassesOn context m)
    (hf : ∀ a, PassesOn context (f a)) : PassesOn context (m >>= f) := by
  intro s call hcall
  have hs := hm s
  rw [Co.run_bind] at hcall
  rcases h : m.run s with ⟨e | a, s'⟩
  · rw [h] at hcall hs
    exact hs call hcall
  · rw [h] at hcall hs
    rcases hf a s' call hcall with hcall | hcall
    · exact hs call hcall
    · exact Or.inr hcall

/-- The result may be converted. -/
theorem passesOn_map {m : Co (σ × List HandlerCall) PyException α} {f : α → β}
    (hm : PassesOn context m) : PassesOn context (do return f (← m)) :=
  passesOn_bind hm fun _ => passesOn_still (Co.still_pure _)

/-- The result may be converted by a step that can raise. -/
theorem passesOn_convert {m : Co (σ × List HandlerCall) PyException α}
    {f : α → Except PyException β} (hm : PassesOn context m) :
    PassesOn context (do Co.ofExcept (f (← m))) :=
  passesOn_bind hm fun _ => passesOn_still (Co.still_ofExcept _)

theorem passesOnGen_logged {entry : HandlerCall} (hentry : entry.context = context)
    (g : AsyncGen σ PyException α) : PassesOnGen context (g.logged entry) := by
  rintro ⟨s, log⟩ call hcall
  rw [AsyncGen.run_logged, List.mem_append, List.mem_singleton] at hcall
  rcases hcall with hcall | rfl
  · exact Or.inl hcall
  · exact Or.inr hentry

theorem passesOnGen_awaitThen {m : Co (σ × List HandlerCall) PyException α}
    {k : α → AsyncGen (σ × List HandlerCall) PyException β} (hm : PassesOn context m)
    (hk : ∀ a, PassesOnGen context (k a)) : PassesOnGen context (AsyncGen.awaitThen m k) := by
  intro s call hcall
  have hs := hm s
  rw [AsyncGen.run_awaitThen] at hcall
  rcases h : m.run s with ⟨e | a, s'⟩
  · rw [h] at hcall hs
    exact hs call hcall
  · rw [h] at hcall hs
    rcases hk a s' call hcall with hcall | hcall
    · exact hs call hcall
    · exact Or.inr hcall

theorem passesOnGen_map {g : AsyncGen (σ × List HandlerCall) PyException α} (f : α → β)
    (hg : PassesOnGen context g) : PassesOnGen context (g.map f) := by
  intro s
  rw [AsyncGen.run_map]
  exact hg s

theorem passesOnGen_raise (e : PyException) :
    PassesOnGen context (AsyncGen.raise e : AsyncGen (σ × List HandlerCall) PyException α) :=
  fun _ _ hcall => Or.inl hcall

theorem passesOnGen_congr {g g' : AsyncGen (σ × List HandlerCall) PyException α}
    (h : ∀ s, g.run s = g'.run s) (hg : PassesOnGen context g') : PassesOnGen context g := by
  intro s
  rw [h s]
  exact hg s

/-- From an empty log, every call that is logged carries the context. -/
theorem PassesOn.context_of_mem {m : Co (σ × List HandlerCall) PyException α}
    (hm : PassesOn context m) {s : σ} {x : HandlerCall} (hx : x ∈ (m.run (s, [])).2.2) :
    x.context = context :=
  (hm _ x hx).resolve_left List.not_mem_nil

theorem PassesOnGen.context_of_mem {g : AsyncGen (σ × List HandlerCall) PyException α}
    (hg : PassesOnGen context g) {s : σ} {x : HandlerCall} (hx : x ∈ (g.run (s, [])).state.2) :
    x.context = context :=
  (hg _ x hx).resolve_left List.not_mem_nil

end logs

/-! ### An agent behind both servers -/

/-- What an agent gives to both servers; the context builder is the default one. -/
structure Agent (σ : Type) where
  agentCard : AgentCard
  requestHandler : RequestHandler σ
  cardModifier : Option (AgentCard → Co σ PyException AgentCard)

/-- An RPC on either server. -/
inductive Rpc where
  | v1 (call : Call)
  | v03 (call : Compat.CompatCall)

/-- The tenant that a request names. -/
def Call.tenant : Call → String
  | sendMessage r => HasTenant.tenant r
  | sendStreamingMessage r => HasTenant.tenant r
  | cancelTask r => HasTenant.tenant r
  | subscribeToTask r => HasTenant.tenant r
  | getTask r => HasTenant.tenant r
  | listTasks r => HasTenant.tenant r
  | getTaskPushNotificationConfig r => HasTenant.tenant r
  | createTaskPushNotificationConfig r => HasTenant.tenant r
  | listTaskPushNotificationConfigs r => HasTenant.tenant r
  | deleteTaskPushNotificationConfig r => HasTenant.tenant r
  | getExtendedAgentCard r => HasTenant.tenant r

section
variable [A2aSdk] [CompatSdk] {σ : Type}

namespace Agent
variable (agent : Agent σ)

/-- The card modifier beside the log. -/
def loggedCardModifier :
    Option (AgentCard → Co (σ × List HandlerCall) PyException AgentCard) :=
  agent.cardModifier.map fun cardModifier card => (cardModifier card).onFst

/-- The server of version 1, its request handler beside a log. -/
def handler : SRPCHandler (σ × List HandlerCall) :=
  SRPCHandler.init agent.agentCard agent.requestHandler.logged none agent.loggedCardModifier

/-- The server of version 0.3, its request handler beside a log. -/
def compatHandler : Compat.SRPCCompatHandler (σ × List HandlerCall) :=
  Compat.SRPCCompatHandler.init agent.agentCard agent.requestHandler.logged none
    agent.loggedCardModifier

/-- The calls that the request handler receives in one RPC. -/
def received (context : Context) (s : σ) : Rpc → List HandlerCall
  | .v1 call => (agent.handler.serve context (s, []) call).state.2
  | .v03 call => (agent.compatHandler.serve context (s, []) call).state.2

end Agent

/-- The call context of the default builder. -/
def defaultContext (context : Context) : ServerCallContext where
  user := userFromContext context
  state := (∅ : Dict String Context).insert "slim_context" context
  requestedExtensions :=
    A2aSdk.getRequestedExtensions [getMetadataValue context A2aSdk.httpExtensionHeader]
  tenant := A2aSdk.defaultTenant

/-- The same context for another tenant. -/
def ServerCallContext.withTenant (context : ServerCallContext) (tenant : String) :
    ServerCallContext :=
  { context with tenant := tenant }

/-- The tenant that an RPC is served for: on version 1 the request's, on version 0.3 the default. -/
def Rpc.tenant : Rpc → String
  | v1 call => call.tenant
  | v03 _ => A2aSdk.defaultTenant

/-- The call context of an RPC. -/
def callContext (context : Context) (rpc : Rpc) : ServerCallContext :=
  (defaultContext context).withTenant rpc.tenant

/-! ### Version 1 -/

section v1
variable {ctx : ServerCallContext}

omit [CompatSdk] in
theorem passesOn_reporting {α : Type} {dflt : α} {m : Co (σ × List HandlerCall) PyException α}
    (hm : PassesOn ctx m) : PassesOn ctx (SRPCHandler.reporting dflt m) := by
  intro s
  rw [SRPCHandler.run_reporting]
  exact hm s

omit [CompatSdk] in
theorem passesOnGen_reportingGen
    {g : AsyncGen (σ × List HandlerCall) PyException StreamResponse} (hg : PassesOnGen ctx g) :
    PassesOnGen ctx (SRPCHandler.reportingGen g) := by
  intro s
  rw [SRPCHandler.run_reportingGen]
  exact hg s

omit [CompatSdk] in
theorem passesOn_validate {α : Type} {guard : Bool} {message : String}
    {m : Co (σ × List HandlerCall) PyException α} (hm : PassesOn ctx m) :
    PassesOn ctx (A2aSdk.validate guard message m) := by
  cases guard with
  | true => rwa [A2aSdk.validate_true]
  | false =>
      rw [A2aSdk.validate_false]
      exact passesOn_still fun _ => rfl

omit [CompatSdk] in
theorem passesOnGen_validateGen {α : Type} {guard : Bool} {message : String}
    {g : AsyncGen (σ × List HandlerCall) PyException α} (hg : PassesOnGen ctx g) :
    PassesOnGen ctx (A2aSdk.validateGen guard message g) := by
  cases guard with
  | true => rwa [A2aSdk.validateGen_true]
  | false =>
      rw [A2aSdk.validateGen_false]
      exact passesOnGen_raise _

variable (agent : Agent σ) (context : Context)

omit [CompatSdk] in
/-- A method hands the request handler the context of the default builder with its tenant. -/
theorem passesOn_withContext {ρ α : Type} [HasTenant ρ] {request : ρ}
    {f : ρ → ServerCallContext → Co σ PyException α} {entry : ρ → ServerCallContext → HandlerCall}
    (hentry : ∀ r c, (entry r c).context = c) :
    PassesOn ((defaultContext context).withTenant (HasTenant.tenant request))
      (agent.handler.withContext context request fun r c => (f r c).logged (entry r c)) :=
  passesOn_logged (hentry _ _) _

omit [CompatSdk] in
theorem passesOnGen_buildCallContext {ρ α : Type} [HasTenant ρ] {request : ρ}
    {k : ServerCallContext → AsyncGen (σ × List HandlerCall) PyException α}
    (hk : PassesOnGen ctx (k ((defaultContext context).withTenant (HasTenant.tenant request)))) :
    PassesOnGen ctx
      (AsyncGen.awaitThen (agent.handler.buildCallContext context request) k) :=
  passesOnGen_congr (fun _ => AsyncGen.run_awaitThen_ok rfl k) hk

omit [CompatSdk] in
theorem passesOn_taskMethod {m : Co (σ × List HandlerCall) PyException (Option Task)}
    (hm : PassesOn ctx m) :
    PassesOn ctx (SRPCHandler.reporting default (m >>= SRPCHandler.taskOrNotFound)) := by
  refine passesOn_reporting (passesOn_bind hm fun task => passesOn_still ?_)
  cases task with
  | some task => exact Co.still_pure _
  | none => exact fun _ => rfl

omit [CompatSdk] in
/-- Every method of version 1 passes on the call context of its request. -/
theorem context_of_mem_serve (s : σ) (call : Call) :
    ∀ x ∈ (agent.handler.serve context (s, []) call).state.2,
      x.context = (defaultContext context).withTenant call.tenant := by
  intro x hx
  cases call with
  | sendMessage r =>
      have h : PassesOn ((defaultContext context).withTenant (HasTenant.tenant r))
          (agent.handler.sendMessage r context) := by
        refine passesOn_reporting (passesOn_bind
          (passesOn_withContext agent context fun _ _ => rfl) fun a => ?_)
        cases a <;> exact passesOn_still (Co.still_pure _)
      exact h.context_of_mem hx
  | sendStreamingMessage r =>
      have h : PassesOnGen ((defaultContext context).withTenant (HasTenant.tenant r))
          (agent.handler.sendStreamingMessage r context) := by
        refine passesOnGen_validateGen (passesOnGen_buildCallContext agent context
          (passesOnGen_reportingGen (passesOnGen_map _ (passesOnGen_logged ?_ _))))
        rfl
      exact h.context_of_mem hx
  | cancelTask r =>
      have h : PassesOn ((defaultContext context).withTenant (HasTenant.tenant r))
          (agent.handler.cancelTask r context) :=
        passesOn_taskMethod (passesOn_withContext agent context fun _ _ => rfl)
      exact h.context_of_mem hx
  | subscribeToTask r =>
      have h : PassesOnGen ((defaultContext context).withTenant (HasTenant.tenant r))
          (agent.handler.subscribeToTask r context) := by
        refine passesOnGen_validateGen (passesOnGen_reportingGen
          (passesOnGen_buildCallContext agent context
            (passesOnGen_map _ (passesOnGen_logged ?_ _))))
        rfl
      exact h.context_of_mem hx
  | getTask r =>
      have h : PassesOn ((defaultContext context).withTenant (HasTenant.tenant r))
          (agent.handler.getTask r context) :=
        passesOn_taskMethod (passesOn_withContext agent context fun _ _ => rfl)
      exact h.context_of_mem hx
  | listTasks r =>
      have h : PassesOn ((defaultContext context).withTenant (HasTenant.tenant r))
          (agent.handler.listTasks r context) :=
        passesOn_reporting (passesOn_withContext agent context fun _ _ => rfl)
      exact h.context_of_mem hx
  | getTaskPushNotificationConfig r =>
      have h : PassesOn ((defaultContext context).withTenant (HasTenant.tenant r))
          (agent.handler.getTaskPushNotificationConfig r context) :=
        passesOn_reporting (passesOn_withContext agent context fun _ _ => rfl)
      exact h.context_of_mem hx
  | createTaskPushNotificationConfig r =>
      have h : PassesOn ((defaultContext context).withTenant (HasTenant.tenant r))
          (agent.handler.createTaskPushNotificationConfig r context) :=
        passesOn_validate (passesOn_reporting
          (passesOn_withContext agent context fun _ _ => rfl))
      exact h.context_of_mem hx
  | listTaskPushNotificationConfigs r =>
      have h : PassesOn ((defaultContext context).withTenant (HasTenant.tenant r))
          (agent.handler.listTaskPushNotificationConfigs r context) :=
        passesOn_reporting (passesOn_withContext agent context fun _ _ => rfl)
      exact h.context_of_mem hx
  | deleteTaskPushNotificationConfig r =>
      have h : PassesOn ((defaultContext context).withTenant (HasTenant.tenant r))
          (agent.handler.deleteTaskPushNotificationConfig r context) :=
        passesOn_reporting (passesOn_map (passesOn_withContext agent context fun _ _ => rfl))
      exact h.context_of_mem hx
  | getExtendedAgentCard r =>
      have h : PassesOn ((defaultContext context).withTenant (HasTenant.tenant r))
          (agent.handler.getExtendedAgentCard r context) := by
        refine passesOn_bind (passesOn_reporting
          (passesOn_withContext agent context fun _ _ => rfl)) fun card => ?_
        have hmodifier : agent.handler.cardModifier = agent.loggedCardModifier := rfl
        rw [hmodifier, Agent.loggedCardModifier]
        cases agent.cardModifier with
        | none => exact passesOn_still (Co.still_pure card)
        | some cardModifier => exact passesOn_onFst (cardModifier card)
      exact h.context_of_mem hx

end v1

/-! ### Version 0.3 -/

section v03
variable (agent : Agent σ) (context : Context)

omit [A2aSdk] [CompatSdk] in
theorem passesOn_compatReporting {ctx : ServerCallContext} {α : Type} {dflt : α}
    {m : Co (σ × List HandlerCall) PyException α} (hm : PassesOn ctx m) :
    PassesOn ctx (Compat.SRPCCompatHandler.reporting dflt m) := by
  intro s
  rw [Compat.SRPCCompatHandler.run_reporting]
  exact hm s

/-- A method hands the request handler the context of the default builder, once the request is
decoded. -/
theorem passesOn_withRequest {π α : Type} {params : Except PyException π}
    {call : Request03 π → ServerCallContext → Co (σ × List HandlerCall) PyException α}
    (hcall : ∀ request, PassesOn (defaultContext context) (call request (defaultContext context))) :
    PassesOn (defaultContext context) (agent.compatHandler.withRequest context params call) := by
  cases params with
  | error e => exact passesOn_still fun _ => rfl
  | ok p => exact hcall ⟨0, p⟩

omit [A2aSdk] [CompatSdk] in
/-- Forwarding passes the context on. -/
theorem passesOn_forward {ρ ρ' α β : Type} {ctx : ServerCallContext} {request : ρ}
    {convert : ρ → Except PyException ρ'} {f : ρ' → ServerCallContext → Co σ PyException α}
    {entry : ρ' → ServerCallContext → HandlerCall} {respond : α → Except PyException β}
    (hentry : ∀ r c, (entry r c).context = c) :
    PassesOn ctx (forward convert (fun r c => (f r c).logged (entry r c)) respond request ctx) :=
  passesOn_bind (passesOn_still (Co.still_ofExcept _)) fun _ =>
    passesOn_convert (passesOn_logged (hentry _ _) _)

omit [A2aSdk] [CompatSdk] in
theorem passesOnGen_forwardGen {ρ ρ' α β γ : Type} {ctx : ServerCallContext} {request : ρ}
    {convert : ρ → Except PyException ρ'} {f : ρ' → ServerCallContext → AsyncGen σ PyException α}
    {entry : ρ' → ServerCallContext → HandlerCall} {respond : α → Except PyException β}
    {toProto : β → Except PyException γ} (hentry : ∀ r c, (entry r c).context = c) :
    PassesOnGen ctx ((forwardGen convert (fun r c => (f r c).logged (entry r c)) respond request
      ctx).mapExcept toProto) := by
  rw [forwardGen, AsyncGen.mapExcept_awaitThen]
  refine passesOnGen_awaitThen (passesOn_still (Co.still_ofExcept _)) fun r => ?_
  rw [AsyncGen.mapExcept_mapExcept, AsyncGen.mapExcept_logged]
  exact passesOnGen_logged (hentry _ _) _

/-- A streaming method hands the request handler the context of the default builder. -/
theorem passesOnGen_streaming {π : Type} {params : Except PyException π}
    {call : Request03 π → ServerCallContext →
      AsyncGen (σ × List HandlerCall) PyException StreamingResponse03}
    (hcall : ∀ request, PassesOnGen (defaultContext context)
      ((call request (defaultContext context)).mapExcept fun response =>
        Conversions03.toProtoStreamResponse response.result)) :
    PassesOnGen (defaultContext context) (agent.compatHandler.streaming context params call) := by
  have hbody : PassesOnGen (defaultContext context)
      (AsyncGen.awaitThen (agent.compatHandler.prepare context params) fun x =>
        (call x.1 x.2).mapExcept fun response =>
          Conversions03.toProtoStreamResponse response.result) := by
    intro s
    cases params with
    | error e =>
        have hprepare : (agent.compatHandler.prepare context
            (.error e : Except PyException π)).run s = (.error e, s) := rfl
        rw [AsyncGen.run_awaitThen_error hprepare]
        exact fun _ hx => Or.inl hx
    | ok p =>
        have hprepare : (agent.compatHandler.prepare context (.ok p)).run s =
            (.ok (⟨0, p⟩, defaultContext context), s) := rfl
        rw [AsyncGen.run_awaitThen_ok hprepare]
        exact hcall ⟨0, p⟩ s
  intro s
  rw [Compat.SRPCCompatHandler.streaming, Compat.SRPCCompatHandler.run_reportingGen]
  exact hbody s

/-- What the request handler of the version 0.3 server does. -/
theorem Agent.handler03_eq :
    agent.compatHandler.handler03 = RequestHandler03.forwarding agent.requestHandler.logged :=
  requestHandler03_eq agent.requestHandler.logged

/-- A unary method: its call is forwarded, and what follows leaves the world alone. -/
theorem passesOn_compatUnary {π ρ α β γ : Type} {params : Except PyException π}
    {call : Request03 π → ServerCallContext → Co (σ × List HandlerCall) PyException β}
    {convert : Request03 π → Except PyException ρ} {f : ρ → ServerCallContext → Co σ PyException α}
    {entry : ρ → ServerCallContext → HandlerCall} {post : α → Except PyException β}
    {k : β → Co (σ × List HandlerCall) PyException γ} {dflt : γ}
    (hcall : call = forward convert (fun r c => (f r c).logged (entry r c)) post)
    (hentry : ∀ r c, (entry r c).context = c) (hk : ∀ b, Co.Still (k b)) :
    PassesOn (defaultContext context) (Compat.SRPCCompatHandler.reporting dflt
      (agent.compatHandler.withRequest context params call >>= k)) := by
  refine passesOn_compatReporting (passesOn_bind (passesOn_withRequest agent context fun _ => ?_)
    fun b => passesOn_still (hk b))
  rw [hcall]
  exact passesOn_forward hentry

/-- Every method of version 0.3 passes on the call context of the default builder. -/
theorem context_of_mem_compatServe (s : σ) (call : Compat.CompatCall) :
    ∀ x ∈ (agent.compatHandler.serve context (s, []) call).state.2,
      x.context = defaultContext context := by
  intro x hx
  have hforwards := agent.handler03_eq
  cases call with
  | sendMessage r =>
      have h : PassesOn (defaultContext context) (agent.compatHandler.sendMessage r context) := by
        refine passesOn_compatUnary agent context
          (congrArg RequestHandler03.onMessageSend hforwards) (fun _ _ => rfl) fun result => ?_
        cases result <;> exact Co.still_bind (Co.still_ofExcept _) fun _ => Co.still_pure _
      exact h.context_of_mem hx
  | sendStreamingMessage r =>
      have h : PassesOnGen (defaultContext context)
          (agent.compatHandler.sendStreamingMessage r context) := by
        unfold Compat.SRPCCompatHandler.sendStreamingMessage
        rw [hforwards]
        exact passesOnGen_streaming agent context fun _ => passesOnGen_forwardGen fun _ _ => rfl
      exact h.context_of_mem hx
  | getTask r =>
      have h : PassesOn (defaultContext context) (agent.compatHandler.getTask r context) :=
        passesOn_compatUnary agent context (congrArg RequestHandler03.onGetTask hforwards)
          (fun _ _ => rfl) fun _ => Co.still_ofExcept _
      exact h.context_of_mem hx
  | cancelTask r =>
      have h : PassesOn (defaultContext context) (agent.compatHandler.cancelTask r context) :=
        passesOn_compatUnary agent context (congrArg RequestHandler03.onCancelTask hforwards)
          (fun _ _ => rfl) fun _ => Co.still_ofExcept _
      exact h.context_of_mem hx
  | taskSubscription r =>
      have h : PassesOnGen (defaultContext context)
          (agent.compatHandler.taskSubscription r context) := by
        unfold Compat.SRPCCompatHandler.taskSubscription
        rw [hforwards]
        exact passesOnGen_streaming agent context fun _ => passesOnGen_forwardGen fun _ _ => rfl
      exact h.context_of_mem hx
  | createTaskPushNotificationConfig r =>
      have h : PassesOn (defaultContext context)
          (agent.compatHandler.createTaskPushNotificationConfig r context) :=
        passesOn_compatUnary agent context
          (congrArg RequestHandler03.onCreateTaskPushNotificationConfig hforwards)
          (fun _ _ => rfl) fun _ => Co.still_ofExcept _
      exact h.context_of_mem hx
  | getTaskPushNotificationConfig r =>
      have h : PassesOn (defaultContext context)
          (agent.compatHandler.getTaskPushNotificationConfig r context) :=
        passesOn_compatUnary agent context
          (congrArg RequestHandler03.onGetTaskPushNotificationConfig hforwards)
          (fun _ _ => rfl) fun _ => Co.still_ofExcept _
      exact h.context_of_mem hx
  | listTaskPushNotificationConfig r =>
      have h : PassesOn (defaultContext context)
          (agent.compatHandler.listTaskPushNotificationConfig r context) :=
        passesOn_compatUnary agent context
          (congrArg RequestHandler03.onListTaskPushNotificationConfigs hforwards)
          (fun _ _ => rfl) fun _ => Co.still_bind (Co.still_ofExcept _) fun _ => Co.still_pure _
      exact h.context_of_mem hx
  | getAgentCard r =>
      have h : PassesOn (defaultContext context) (agent.compatHandler.getAgentCard r context) := by
        have hmodifier : agent.compatHandler.cardModifier = agent.loggedCardModifier := rfl
        have hconvert (card : AgentCard) : Co.Still (Co.ofExcept (σ := σ × List HandlerCall)
            (Conversions03.toCompatAgentCard card) >>= fun card =>
              Co.ofExcept (Conversions03.toProtoAgentCard card)) :=
          Co.still_decode _ _
        unfold Compat.SRPCCompatHandler.getAgentCard
        rw [hmodifier, Agent.loggedCardModifier]
        cases agent.cardModifier with
        | none => exact passesOn_still (hconvert _)
        | some cardModifier =>
            exact passesOn_bind (passesOn_onFst (cardModifier _)) fun card =>
              passesOn_still (hconvert card)
      exact h.context_of_mem hx
  | deleteTaskPushNotificationConfig r =>
      have h : PassesOn (defaultContext context)
          (agent.compatHandler.deleteTaskPushNotificationConfig r context) :=
        passesOn_compatUnary agent context
          (congrArg RequestHandler03.onDeleteTaskPushNotificationConfig hforwards)
          (fun _ _ => rfl) fun _ => Co.still_pure _
      exact h.context_of_mem hx

end v03

/-- Every call that an RPC makes carries the call context of that RPC. -/
theorem context_of_mem_received (agent : Agent σ) (context : Context) (s : σ) (rpc : Rpc) :
    ∀ x ∈ agent.received context s rpc, x.context = callContext context rpc := by
  cases rpc with
  | v1 call => exact context_of_mem_serve agent context s call
  | v03 call => exact context_of_mem_compatServe agent context s call

end

/-! ### Two callers -/

/-- The contexts agree on the verified subject and issuer; an absent claim and an empty one are the
same. -/
def Context.SameClaims (c₁ c₂ : Context) : Prop :=
  orNone c₁.peerSubject = orNone c₂.peerSubject ∧ orNone c₁.peerIssuer = orNone c₂.peerIssuer

section
variable [A2aSdk]

/-- What two call contexts that were built for `c₁`, `rpc₁` and `c₂`, `rpc₂` have to do with each
other: the identity depends on the verified claims only, and whatever else the caller writes shows
in one place each. -/
structure NonInterference (c₁ c₂ : Context) (rpc₁ rpc₂ : Rpc) (x₁ x₂ : ServerCallContext) :
    Prop where
  user_eq : c₁.SameClaims c₂ → x₁.user = x₂.user
  sameClaims : x₁.user.isAuthenticated = true → x₂.user.isAuthenticated = true →
    x₁.user = x₂.user → c₁.SameClaims c₂
  isAuthenticated_iff : x₁.user.isAuthenticated = true ↔
    ∃ subject, c₁.peerSubject = some subject ∧ subject ≠ ""
  userName_ne_empty : x₁.user.isAuthenticated = true → x₁.user.userName ≠ ""
  state_eq : x₁.state = (∅ : Dict String Context).insert "slim_context" c₁
  requestedExtensions_eq :
    c₁.metadata.lookup A2aSdk.httpExtensionHeader = c₂.metadata.lookup A2aSdk.httpExtensionHeader →
      x₁.requestedExtensions = x₂.requestedExtensions
  /-- Metadata changes the requested extensions and the raw context, and nothing else. -/
  metadata_only : c₁.SameClaims c₂ → rpc₁.tenant = rpc₂.tenant →
    x₁ = { x₂ with requestedExtensions := x₁.requestedExtensions, state := x₁.state }
  tenant_eq : x₁.tenant = rpc₁.tenant
  /-- The tenant changes the tenant, and nothing else. -/
  tenant_only : c₁ = c₂ → x₁ = { x₂ with tenant := x₁.tenant }

theorem nonInterference_callContext (c₁ c₂ : Context) (rpc₁ rpc₂ : Rpc) :
    NonInterference c₁ c₂ rpc₁ rpc₂ (callContext c₁ rpc₁) (callContext c₂ rpc₂) := by
  have huser : c₁.SameClaims c₂ → userFromContext c₁ = userFromContext c₂ :=
    fun h => userFromContext_congr h.1 h.2
  constructor
  · exact huser
  · intro hauth _ h
    exact userFromContext_inj hauth h
  · exact isAuthenticated_userFromContext c₁
  · exact userName_userFromContext_ne_empty
  · rfl
  · intro h
    show A2aSdk.getRequestedExtensions [getMetadataValue c₁ A2aSdk.httpExtensionHeader] =
      A2aSdk.getRequestedExtensions [getMetadataValue c₂ A2aSdk.httpExtensionHeader]
    unfold getMetadataValue
    rw [h]
  · intro hclaims htenant
    simp only [callContext, defaultContext, ServerCallContext.withTenant, huser hclaims, htenant]
  · rfl
  · rintro rfl
    rfl

variable [CompatSdk] {σ τ : Type}

/-- **Caller identity does not depend on anything the caller can write.**  Two RPCs on any two
agents, with any requests and metadata. -/
theorem nonInterference_received {agent₁ : Agent σ} {agent₂ : Agent τ} {c₁ c₂ : Context} {s₁ : σ}
    {s₂ : τ} {rpc₁ rpc₂ : Rpc} {x₁ x₂ : HandlerCall}
    (h₁ : x₁ ∈ agent₁.received c₁ s₁ rpc₁) (h₂ : x₂ ∈ agent₂.received c₂ s₂ rpc₂) :
    NonInterference c₁ c₂ rpc₁ rpc₂ x₁.context x₂.context := by
  rw [context_of_mem_received agent₁ c₁ s₁ rpc₁ x₁ h₁,
    context_of_mem_received agent₂ c₂ s₂ rpc₂ x₂ h₂]
  exact nonInterference_callContext c₁ c₂ rpc₁ rpc₂

end

/-- An agent that refuses every call. -/
def refusingAgent : Agent Unit where
  agentCard := default
  requestHandler := .refusing (.a2a ⟨.internalError, "unavailable"⟩)
  cardModifier := none

/-- The same caller on both servers, once with metadata that names another user. -/
theorem nonInterference_received_spoofed :
    ∃ x₁ ∈ @Agent.received standardSdk Compat.standardCompatSdk Unit refusingAgent
        ⟨some "alice", none, (∅ : Dict String String).insert "user" "bob"⟩ ()
        (.v1 (.getTask ⟨"tenant", "t", none⟩)),
      ∃ x₂ ∈ @Agent.received standardSdk Compat.standardCompatSdk Unit refusingAgent
        ⟨some "alice", some "", ∅⟩ ()
        (.v03 (.deleteTaskPushNotificationConfig ⟨"tasks/t/pushNotificationConfigs/c"⟩)),
      @NonInterference standardSdk
        ⟨some "alice", none, (∅ : Dict String String).insert "user" "bob"⟩
        ⟨some "alice", some "", ∅⟩
        (.v1 (.getTask ⟨"tenant", "t", none⟩))
        (.v03 (.deleteTaskPushNotificationConfig ⟨"tasks/t/pushNotificationConfigs/c"⟩))
        x₁.context x₂.context := by
  refine ⟨_, List.mem_singleton_self _, _, List.mem_singleton_self _, ?_⟩
  exact @nonInterference_received standardSdk Compat.standardCompatSdk Unit Unit refusingAgent
    refusingAgent _ _ () () _ _ _ _ (List.mem_singleton_self _) (List.mem_singleton_self _)

end SlimA2a
