import SlimA2a.CompatHandler
import SlimA2a.HandlerErrors

/-! # Which calls reach the request handler

A server put beside a log of the calls that its request handler receives: `SRPCHandler.logged` and
`SRPCCompatHandler.logged`.  Neither the handler nor the context builder sees the log.

Both servers call their handler at most once per request, and only with a call context that the
builder returned and, for v0.3, params that were decoded. -/

namespace SlimA2a

/-! ### Version 0.3 -/

namespace Compat.SRPCCompatHandler
variable {σ : Type}

/-- What is left of an exception once A2A errors have been reported. -/
def report : PyException → PyException := reportWith slimRPCError

theorem run_reporting {α : Type} (dflt : α) (m : Co σ PyException α) (s : σ) :
    (reporting dflt m).run s = ((m.run s).1.mapError report, (m.run s).2) :=
  run_tryExcept_report (fun _ _ => rfl) m s

theorem run_reportingGen {α : Type} (g : AsyncGen σ PyException α) (s : σ) :
    (reportingGen g).run s = { g.run s with result := (g.run s).result.mapError report } :=
  run_tryExceptGen_report (fun _ _ => AsyncGen.run_awaitThen_error rfl _) g s

variable [Types03]

/-- The same server beside a log of the calls of its request handler. -/
def logged (h : SRPCCompatHandler σ) : SRPCCompatHandler (σ × List HandlerCall03) where
  agentCard := h.agentCard
  handler03 := h.handler03.logged
  contextBuilder context := (h.contextBuilder context).onFst
  cardModifier := h.cardModifier.map fun cardModifier card => (cardModifier card).onFst

variable (h : SRPCCompatHandler σ)

theorem run_prepare_logged {π : Type} (context : Context) (params : Except PyException π) (s : σ)
    (log : List HandlerCall03) :
    (h.logged.prepare context params).run (s, log) =
      (((h.prepare context params).run s).1, ((h.prepare context params).run s).2, log) := by
  simp only [prepare, logged, Co.run_bind, Co.run_onFst]
  rcases (h.contextBuilder context).run s with ⟨_ | _, _⟩
  · rfl
  · cases params <;> rfl

/-- What was prepared are the decoded params, with id `0`. -/
theorem prepare_ok {π : Type} {context : Context} {params : Except PyException π} {s s' : σ}
    {request : Request03 π} {serverContext : ServerCallContext}
    (hp : (h.prepare context params).run s = (.ok (request, serverContext), s')) :
    params = .ok request.params ∧ request.id = 0 ∧
      (h.contextBuilder context).run s = (.ok serverContext, s') := by
  simp only [prepare, Co.run_bind] at hp
  rcases hb : (h.contextBuilder context).run s with ⟨_ | c, s''⟩
  · rw [hb] at hp
    cases hp
  · rw [hb] at hp
    cases params with
    | error e => cases hp
    | ok p =>
        cases hp
        exact ⟨rfl, rfl, rfl⟩

/-- A method calls the handler once, with what was prepared, or not at all. -/
theorem log_withRequest {π α : Type} (context : Context) (params : Except PyException π)
    (call : Request03 π → ServerCallContext → Co σ PyException α)
    (entry : Request03 π → ServerCallContext → HandlerCall03) (s : σ) (log : List HandlerCall03) :
    ((h.logged.withRequest context params fun r c => (call r c).logged (entry r c)).run
        (s, log)).2.2 =
      match (h.prepare context params).run s with
      | (.ok (request, serverContext), _) => log ++ [entry request serverContext]
      | (.error _, _) => log := by
  simp only [withRequest, Co.run_bind, run_prepare_logged]
  rcases (h.prepare context params).run s with ⟨_ | ⟨_, _⟩, _⟩ <;> rfl

end Compat.SRPCCompatHandler
end SlimA2a
