import SlimA2a.Handler

/-! # Reporting A2A errors

What the caller of a version 1 method sees when an `A2AError` ends the call.

`attempt` states what a call consists of without any error reporting: the guard, building the call
context, the request handler, the conversion of its answer and the card modifier, in the order of
the source.  `ErrorsReported` compares the method with it: an `A2AError` that ends the attempt has
to reach the caller as the `RpcError` of its class, and nothing else may change.

The method with its `try` blocks meets this exactly when the attempt fails inside of a `try`
(`errorsReported_iff`).  What lies outside is listed by `Covered`. -/

namespace SlimA2a

section
variable [A2aSdk] {σ : Type}

/-- What is left of an exception once A2A errors have been reported. -/
def report : PyException → PyException := reportWith slimRPCError

/-- The outcome with its A2A error reported. -/
def Outcome.reported {ι ρ : Type} (o : Outcome ι ρ σ) : Outcome ι ρ σ :=
  { o with result := o.result.mapError report }

/-- An outcome without an A2A error is already reported. -/
theorem Outcome.reported_eq_self {ι ρ : Type} {o : Outcome ι ρ σ}
    (ho : ∀ e, o.result ≠ .error (.a2a e)) : o.reported = o := by
  obtain ⟨items, result, state⟩ := o
  cases result with
  | ok response => rfl
  | error x =>
      cases x with
      | a2a e => exact absurd rfl (ho e)
      | rpc e => rfl
      | exception type message => rfl
      | base type => rfl

namespace SRPCHandler

/-! ### The `try` blocks -/

/-- A `try` block around a coroutine reports its A2A errors and changes nothing else; the default
value is never returned. -/
theorem run_reporting {α : Type} (dflt : α) (m : Co σ PyException α) (s : σ) :
    (reporting dflt m).run s = ((m.run s).1.mapError report, (m.run s).2) :=
  run_tryExcept_report (fun _ _ => rfl) m s

theorem run_reporting_ok {α : Type} {dflt : α} {m : Co σ PyException α} {s s' : σ} {a : α}
    (hm : m.run s = (.ok a, s')) : (reporting dflt m).run s = (.ok a, s') := by
  rw [run_reporting, hm]
  rfl

/-- A `try` block around a generator reports its A2A errors and changes nothing else. -/
theorem run_reportingGen {α : Type} (g : AsyncGen σ PyException α) (s : σ) :
    (reportingGen g).run s = { g.run s with result := (g.run s).result.mapError report } :=
  run_tryExceptGen_report (fun _ _ => AsyncGen.run_awaitThen_error rfl _) g s

theorem ofUnary_reporting {ι ρ α : Type} (wrap : α → ρ) (dflt : α) (m : Co σ PyException α)
    (s : σ) :
    (Outcome.ofUnary wrap ((reporting dflt m).run s) : Outcome ι ρ σ) =
      (Outcome.ofUnary wrap (m.run s)).reported := by
  rw [run_reporting]
  rcases m.run s with ⟨_ | _, _⟩ <;> rfl

theorem ofStream_reportingGen {ρ : Type} (ended : ρ) (g : AsyncGen σ PyException StreamResponse)
    (s : σ) :
    Outcome.ofStream ended ((reportingGen g).run s) =
      (Outcome.ofStream ended (g.run s)).reported := by
  rw [run_reportingGen]
  rcases g.run s with ⟨_, _ | _, _⟩ <;> rfl

/-! ### A call without error reporting -/

/-- A missing task is an A2A error. -/
def foundTask : Option Task → Co σ PyException Task
  | some task => pure task
  | none => Co.raise (.a2a taskNotFoundError)

variable (h : SRPCHandler σ)

/-- The steps of a call in the order of the source, with no `try` around them. -/
def attempt (context : Context) (s : σ) : Call → Outcome StreamResponse Response σ
  | .sendMessage r => .ofUnary .sendMessageResponse <| Co.run (do
      match ← h.withContext context r h.requestHandler.onMessageSend with
      | .task task => return .task task
      | .message message => return .message message) s
  | .sendStreamingMessage r => .ofStream .ended <| AsyncGen.run
      (A2aSdk.validateGen h.agentCard.capabilities.streaming streamingNotSupported <|
        AsyncGen.awaitThen (h.buildCallContext context r) fun serverContext =>
          (h.requestHandler.onMessageSendStream r serverContext).map A2aSdk.toStreamResponse) s
  | .cancelTask r => .ofUnary .task <| Co.run (do
      foundTask (← h.withContext context r h.requestHandler.onCancelTask)) s
  | .subscribeToTask r => .ofStream .ended <| AsyncGen.run
      (A2aSdk.validateGen h.agentCard.capabilities.streaming streamingNotSupported <|
        AsyncGen.awaitThen (h.buildCallContext context r) fun serverContext =>
          (h.requestHandler.onSubscribeToTask r serverContext).map A2aSdk.toStreamResponse) s
  | .getTask r => .ofUnary .task <| Co.run (do
      foundTask (← h.withContext context r h.requestHandler.onGetTask)) s
  | .listTasks r => .ofUnary .listTasksResponse <|
      (h.withContext context r h.requestHandler.onListTasks).run s
  | .getTaskPushNotificationConfig r => .ofUnary .taskPushNotificationConfig <|
      (h.withContext context r h.requestHandler.onGetTaskPushNotificationConfig).run s
  | .createTaskPushNotificationConfig r => .ofUnary .taskPushNotificationConfig <|
      (A2aSdk.validate h.agentCard.capabilities.pushNotifications pushNotificationsNotSupported <|
        h.withContext context r h.requestHandler.onCreateTaskPushNotificationConfig).run s
  | .listTaskPushNotificationConfigs r => .ofUnary .listTaskPushNotificationConfigsResponse <|
      (h.withContext context r h.requestHandler.onListTaskPushNotificationConfigs).run s
  | .deleteTaskPushNotificationConfig r => .ofUnary (fun _ => .empty) <|
      (h.withContext context r h.requestHandler.onDeleteTaskPushNotificationConfig).run s
  | .getExtendedAgentCard r => .ofUnary .agentCard <| Co.run (do
      let cardToServe ← h.withContext context r h.requestHandler.onGetExtendedAgentCard
      match h.cardModifier with
      | some cardModifier => cardModifier cardToServe
      | none => return cardToServe) s

/-! ### The law -/

/-- `r` carries the `ErrorInfo` of `e` in a `google.rpc.Status` of the same code. -/
def Carries (r : RpcError) (e : A2AError) : Prop :=
  ∃ (bytes : Bytes) (status : Status), r.details = some bytes ∧
    Proto.fromString bytes = .ok status ∧ status.code = A2aSdk.rpcCodeValue r.code ∧
    status.details = [Any.pack (errorInfo e)]

/-- No A2A error of the call is lost or downgraded. -/
structure ErrorsReported (context : Context) (s : σ) (call : Call) : Prop where
  /-- An A2A error that ends the attempt reaches the caller with its code and its details. -/
  reported : ∀ e, (h.attempt context s call).result = .error (.a2a e) →
    ∃ r, (h.serve context s call).result = .error (.rpc r) ∧
      r.code = (slimErrorCodeMap e.type).getD .unknown ∧ Carries r e
  /-- No A2A error leaves the method as it is. -/
  never_bare : ∀ e, (h.serve context s call).result ≠ .error (.a2a e)
  /-- What is returned as a success is what the attempt returned. -/
  no_default : ∀ response, (h.serve context s call).result = .ok response →
    (h.attempt context s call).result = .ok response

/-- What the method does outside of its `try` blocks does not fail with an A2A error. -/
def Covered (context : Context) (s : σ) : Call → Prop
  | .sendStreamingMessage _ =>
      h.agentCard.capabilities.streaming = true ∧
        ∀ e s', (h.contextBuilder context).run s ≠ (.error (.a2a e), s')
  | .subscribeToTask _ => h.agentCard.capabilities.streaming = true
  | .createTaskPushNotificationConfig _ => h.agentCard.capabilities.pushNotifications = true
  | .getExtendedAgentCard r =>
      ∀ card s', (h.withContext context r h.requestHandler.onGetExtendedAgentCard).run s =
          (.ok card, s') →
        ∀ cardModifier, h.cardModifier = some cardModifier →
          ∀ e s'', (cardModifier card).run s' ≠ (.error (.a2a e), s'')
  | _ => True

theorem carries_slimRPCError (e : A2AError) : Carries (slimRPCError e) e :=
  ⟨_, errorStatus e (slimRPCError e).code, rfl, Proto.fromString_serializeToString _, rfl, rfl⟩

/-- A method that reports the errors of the attempt obeys the law. -/
theorem errorsReported_of_eq {context : Context} {s : σ} {call : Call}
    (heq : h.serve context s call = (h.attempt context s call).reported) :
    h.ErrorsReported context s call := by
  have hresult : (h.serve context s call).result =
      (h.attempt context s call).result.mapError report := by
    rw [heq]
    rfl
  constructor
  · intro e he
    refine ⟨slimRPCError e, ?_, rfl, carries_slimRPCError e⟩
    rw [hresult, he]
    rfl
  · intro e
    rw [hresult]
    exact mapError_reportWith_ne slimRPCError _ e
  · intro response hok
    rw [hresult] at hok
    exact eq_ok_of_mapError hok

/-! ### Inside and outside of the `try` blocks -/

/-- Both kinds of task method: a missing task and an error of the handler are reported alike. -/
theorem ofUnary_reporting_taskOrNotFound {ι : Type} (m : Co σ PyException (Option Task)) (s : σ) :
    (Outcome.ofUnary Response.task ((reporting default (m >>= taskOrNotFound)).run s) :
        Outcome ι Response σ) =
      (Outcome.ofUnary .task ((m >>= foundTask).run s)).reported := by
  rw [ofUnary_reporting, Co.run_bind, Co.run_bind]
  rcases m.run s with ⟨e | task, s'⟩
  · rfl
  · cases task <;> rfl

omit [A2aSdk] in
theorem buildCallContext_run {ρ : Type} [HasTenant ρ] (context : Context) (request : ρ) (s : σ) :
    (h.buildCallContext context request).run s =
      (((h.contextBuilder context).run s).1.map
        fun c => { c with tenant := HasTenant.tenant request },
        ((h.contextBuilder context).run s).2) := by
  unfold buildCallContext
  rw [Co.run_bind]
  rcases (h.contextBuilder context).run s with ⟨_ | _, _⟩ <;> rfl

/-- Streaming with the guard passed: the context is built first and the `try` starts after it. -/
theorem serve_sendStreamingMessage {context : Context} {s : σ} {r : SendMessageRequest}
    (hcovered : h.Covered context s (.sendStreamingMessage r)) :
    h.serve context s (.sendStreamingMessage r) =
      (h.attempt context s (.sendStreamingMessage r)).reported := by
  obtain ⟨hstreaming, hbuild⟩ := hcovered
  simp only [serve, attempt, sendStreamingMessage, hstreaming, A2aSdk.validateGen_true]
  cases hctx : (h.buildCallContext context r).run s with
  | mk result s' =>
      cases result with
      | ok serverContext =>
          rw [AsyncGen.run_awaitThen_ok hctx, AsyncGen.run_awaitThen_ok hctx,
            ofStream_reportingGen]
      | error x =>
          rw [AsyncGen.run_awaitThen_error hctx, AsyncGen.run_awaitThen_error hctx]
          refine (Outcome.reported_eq_self ?_).symm
          intro e he
          obtain rfl : x = .a2a e := by
            simpa [Outcome.ofStream, Except.map] using he
          rw [buildCallContext_run] at hctx
          rcases hb : (h.contextBuilder context).run s with ⟨e' | c, s''⟩
          · rw [hb] at hctx
            injection hctx with h₁ h₂
            injection h₁ with h₁
            subst h₁
            exact hbuild e s'' hb
          · rw [hb] at hctx
            cases hctx

/-- The card modifier runs after the `try`. -/
theorem serve_getExtendedAgentCard {context : Context} {s : σ} {r : GetExtendedAgentCardRequest}
    (hcovered : h.Covered context s (.getExtendedAgentCard r)) :
    h.serve context s (.getExtendedAgentCard r) =
      (h.attempt context s (.getExtendedAgentCard r)).reported := by
  simp only [serve, attempt, getExtendedAgentCard]
  rcases hcard : (h.withContext context r h.requestHandler.onGetExtendedAgentCard).run s with
    ⟨e | card, s'⟩
  · rw [Co.run_bind, Co.run_bind, run_reporting, hcard]
    rfl
  · rw [Co.run_bind_ok (run_reporting_ok hcard), Co.run_bind_ok hcard]
    refine (Outcome.reported_eq_self ?_).symm
    intro e he
    cases hmodifier : h.cardModifier with
    | none => simp [hmodifier, Outcome.ofUnary, Except.map] at he
    | some cardModifier =>
        rcases hm : (cardModifier card).run s' with ⟨x | card', s''⟩
        · simp only [hmodifier, Outcome.ofUnary, hm, Except.map, Except.error.injEq] at he
          subst he
          exact hcovered card s' hcard cardModifier hmodifier e s'' hm
        · simp [hmodifier, Outcome.ofUnary, hm, Except.map] at he

/-- Inside of the `try` blocks the method is the attempt with its A2A error reported. -/
theorem serve_eq_reported {context : Context} {s : σ} {call : Call}
    (hcovered : h.Covered context s call) :
    h.serve context s call = (h.attempt context s call).reported := by
  cases call with
  | sendMessage r => exact ofUnary_reporting _ _ _ _
  | sendStreamingMessage r => exact h.serve_sendStreamingMessage hcovered
  | cancelTask r => exact ofUnary_reporting_taskOrNotFound _ _
  | subscribeToTask r =>
      have hstreaming : h.agentCard.capabilities.streaming = true := hcovered
      simp only [serve, attempt, subscribeToTask, hstreaming, A2aSdk.validateGen_true]
      exact ofStream_reportingGen _ _ _
  | getTask r => exact ofUnary_reporting_taskOrNotFound _ _
  | listTasks r => exact ofUnary_reporting _ _ _ _
  | getTaskPushNotificationConfig r => exact ofUnary_reporting _ _ _ _
  | createTaskPushNotificationConfig r =>
      have hpush : h.agentCard.capabilities.pushNotifications = true := hcovered
      simp only [serve, attempt, createTaskPushNotificationConfig, hpush, A2aSdk.validate_true]
      exact ofUnary_reporting _ _ _ _
  | listTaskPushNotificationConfigs r => exact ofUnary_reporting _ _ _ _
  | deleteTaskPushNotificationConfig r =>
      simp only [serve, attempt, deleteTaskPushNotificationConfig]
      rw [ofUnary_reporting, Co.run_bind]
      rcases (h.withContext context r h.requestHandler.onDeleteTaskPushNotificationConfig).run s
        with ⟨_ | _, _⟩ <;> rfl
  | getExtendedAgentCard r => exact h.serve_getExtendedAgentCard hcovered

/-- Outside of the `try` blocks an A2A error leaves the method as it is. -/
theorem bare_of_not_covered {context : Context} {s : σ} {call : Call}
    (hcovered : ¬ h.Covered context s call) :
    ∃ e, (h.serve context s call).result = .error (.a2a e) := by
  cases call with
  | sendStreamingMessage r =>
      by_cases hstreaming : h.agentCard.capabilities.streaming = true
      · simp only [Covered, hstreaming, true_and, not_forall, not_not] at hcovered
        obtain ⟨e, s', hbuild⟩ := hcovered
        have hctx : (h.buildCallContext context r).run s = (.error (.a2a e), s') := by
          rw [buildCallContext_run, hbuild]
          rfl
        refine ⟨e, ?_⟩
        simp only [serve, sendStreamingMessage, hstreaming, A2aSdk.validateGen_true,
          AsyncGen.run_awaitThen_error hctx]
        rfl
      · refine ⟨⟨.unsupportedOperationError, streamingNotSupported⟩, ?_⟩
        simp only [serve, sendStreamingMessage, hstreaming, A2aSdk.validateGen_false]
        rfl
  | subscribeToTask r =>
      have hstreaming : ¬ h.agentCard.capabilities.streaming = true := hcovered
      refine ⟨⟨.unsupportedOperationError, streamingNotSupported⟩, ?_⟩
      simp only [serve, subscribeToTask, hstreaming, A2aSdk.validateGen_false]
      rfl
  | createTaskPushNotificationConfig r =>
      have hpush : ¬ h.agentCard.capabilities.pushNotifications = true := hcovered
      refine ⟨⟨.unsupportedOperationError, pushNotificationsNotSupported⟩, ?_⟩
      simp only [serve, createTaskPushNotificationConfig, hpush, A2aSdk.validate_false]
      rfl
  | getExtendedAgentCard r =>
      simp only [Covered, not_forall, not_not] at hcovered
      obtain ⟨card, s', hcard, cardModifier, hmodifier, e, s'', hm⟩ := hcovered
      refine ⟨e, ?_⟩
      simp only [serve, getExtendedAgentCard, Co.run_bind_ok (run_reporting_ok hcard),
        hmodifier, hm]
      rfl
  | sendMessage r => exact absurd trivial hcovered
  | cancelTask r => exact absurd trivial hcovered
  | getTask r => exact absurd trivial hcovered
  | listTasks r => exact absurd trivial hcovered
  | getTaskPushNotificationConfig r => exact absurd trivial hcovered
  | listTaskPushNotificationConfigs r => exact absurd trivial hcovered
  | deleteTaskPushNotificationConfig r => exact absurd trivial hcovered

/-- **No A2A error is lost or downgraded exactly where a `try` block covers it.** -/
theorem errorsReported_iff (context : Context) (s : σ) (call : Call) :
    h.ErrorsReported context s call ↔ h.Covered context s call := by
  constructor
  · intro hreported
    by_contra hcovered
    obtain ⟨e, he⟩ := h.bare_of_not_covered hcovered
    exact hreported.never_bare e he
  · exact fun hcovered => h.errorsReported_of_eq (h.serve_eq_reported hcovered)

end SRPCHandler
end

/-- A card without streaming: the guard's `UnsupportedOperationError` leaves `sendStreamingMessage`
as a bare A2A error. -/
theorem not_errorsReported_streaming_disabled :
    ¬ @SRPCHandler.ErrorsReported standardSdk Unit
      (@SRPCHandler.init standardSdk Unit default
        (.refusing (.a2a ⟨.internalError, "unavailable"⟩)) none none)
      ⟨some "alice", none, ∅⟩ () (.sendStreamingMessage ⟨"", []⟩) := by
  intro hreported
  exact @SRPCHandler.ErrorsReported.never_bare standardSdk Unit _ _ _ _ hreported
    ⟨.unsupportedOperationError, "Streaming is not supported by the agent"⟩ rfl

end SlimA2a
