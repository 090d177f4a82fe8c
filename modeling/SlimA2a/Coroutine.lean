import Mathlib.Tactic.Common

/-! # Coroutines over a world

A coroutine of type `Co σ ε α` runs in a world of type `σ`: it returns an `α` or raises an `ε`,
and in both cases leaves the world as its last step left it.  Raising does not roll anything back,
so what a failed computation leaves behind is part of its meaning.

`tryExcept` is a `try` statement with a family of `except` clauses: a clause is chosen by the raised
value alone, and a value no clause matches goes on to the caller.  `onFst` and `onSnd` run a
coroutine on one component of a pair of worlds; they are how two parties that share nothing are put
side by side, and how a log is kept beside a world that does not know about it. -/

namespace SlimA2a

/-- A coroutine over the world `σ` that raises `ε` or returns `α`. -/
def Co (σ ε α : Type) : Type := σ → Except ε α × σ

namespace Co

variable {σ τ ε α β γ : Type}

/-- Run a coroutine to its end. -/
def run (m : Co σ ε α) (s : σ) : Except ε α × σ := m s

instance : Monad (Co σ ε) where
  pure a := fun s => (.ok a, s)
  bind m f := fun s =>
    match m s with
    | (.ok a, s') => f a s'
    | (.error e, s') => (.error e, s')

/-- Raise `e`. -/
def raise (e : ε) : Co σ ε α := fun s => (.error e, s)

/-- A computation without effects that returns or raises. -/
def ofExcept (r : Except ε α) : Co σ ε α := fun s => (r, s)

/-- Change the world; never fails. -/
def modify (f : σ → σ) : Co σ ε Unit := fun s => (.ok (), f s)

/-- `try: m` with the `except` clauses `h`; `none` means that no clause matches. -/
def tryExcept (m : Co σ ε α) (h : ε → Option (Co σ ε α)) : Co σ ε α := fun s =>
  match m s with
  | (.ok a, s') => (.ok a, s')
  | (.error e, s') =>
      match h e with
      | some k => k s'
      | none => (.error e, s')

/-- Run `m` on the first component of the world. -/
def onFst (m : Co σ ε α) : Co (σ × τ) ε α := fun s => ((m s.1).1, (m s.1).2, s.2)

/-- Run `m` on the second component of the world. -/
def onSnd (m : Co τ ε α) : Co (σ × τ) ε α := fun s => ((m s.2).1, s.1, (m s.2).2)

/-- Run `m` and drop its result. -/
def void (m : Co σ ε α) : Co σ ε Unit := fun s => ((m.run s).1.map fun _ => (), (m.run s).2)

/-- Run `m` beside a log, after appending `entry` to the log. -/
def logged {ℓ : Type} (entry : ℓ) (m : Co σ ε α) : Co (σ × List ℓ) ε α := fun s =>
  ((m s.1).1, (m s.1).2, s.2 ++ [entry])

/-! ### Running the constructions -/

@[simp] theorem run_pure (a : α) (s : σ) : (pure a : Co σ ε α).run s = (.ok a, s) := rfl

theorem run_bind (m : Co σ ε α) (f : α → Co σ ε β) (s : σ) :
    (m >>= f).run s =
      match m.run s with
      | (.ok a, s') => (f a).run s'
      | (.error e, s') => (.error e, s') := rfl

theorem run_bind_ok {m : Co σ ε α} {s s' : σ} {a : α} (h : m.run s = (.ok a, s'))
    (f : α → Co σ ε β) : (m >>= f).run s = (f a).run s' := by
  rw [run_bind, h]

theorem run_bind_error {m : Co σ ε α} {s s' : σ} {e : ε} (h : m.run s = (.error e, s'))
    (f : α → Co σ ε β) : (m >>= f).run s = (.error e, s') := by
  rw [run_bind, h]

/-- A sequence that returns has returned from both parts. -/
theorem exists_of_run_bind {m : Co σ ε α} {f : α → Co σ ε β} {s s' : σ} {b : β}
    (h : (m >>= f).run s = (.ok b, s')) :
    ∃ a s₁, m.run s = (.ok a, s₁) ∧ (f a).run s₁ = (.ok b, s') := by
  rw [run_bind] at h
  rcases hm : m.run s with ⟨e | a, s₁⟩
  · rw [hm] at h
    cases h
  · rw [hm] at h
    exact ⟨a, s₁, rfl, h⟩

/-- A sequence that only converts the result. -/
theorem run_bind_pure (m : Co σ ε α) (f : α → β) (s : σ) :
    (m >>= fun a => pure (f a)).run s = ((m.run s).1.map f, (m.run s).2) := by
  rw [run_bind]
  rcases m.run s with ⟨_ | _, _⟩ <;> rfl

theorem bind_pure (m : Co σ ε α) : (m >>= pure) = m := by
  funext s
  show (m >>= pure).run s = m.run s
  rw [run_bind]
  rcases m.run s with ⟨_ | _, _⟩ <;> rfl

theorem bind_assoc (m : Co σ ε α) (f : α → Co σ ε β) (g : β → Co σ ε γ) :
    ((m >>= f) >>= g) = m >>= fun a => f a >>= g := by
  funext s
  show ((m >>= f) >>= g).run s = (m >>= fun a => f a >>= g).run s
  rw [run_bind, run_bind, run_bind]
  rcases m.run s with ⟨_ | a, s'⟩ <;> rfl

theorem ofExcept_bind (r : Except ε α) (f : α → Except ε β) :
    (ofExcept (r >>= f) : Co σ ε β) = ofExcept r >>= fun a => ofExcept (f a) := by
  cases r <;> rfl

theorem ofExcept_map (r : Except ε α) (f : α → β) :
    (ofExcept (r.map f) : Co σ ε β) = ofExcept r >>= fun a => pure (f a) := by
  cases r <;> rfl

@[simp] theorem run_raise (e : ε) (s : σ) : (raise e : Co σ ε α).run s = (.error e, s) := rfl

@[simp] theorem run_ofExcept (r : Except ε α) (s : σ) : (ofExcept r : Co σ ε α).run s = (r, s) :=
  rfl

theorem fst_run_void_error {m : Co σ ε α} {s : σ} {e : ε} (h : (m.void.run s).1 = .error e) :
    (m.run s).1 = .error e := by
  have hvoid : (m.run s).1.map (fun _ => ()) = .error e := h
  cases hm : (m.run s).1 with
  | error e' =>
      rw [hm] at hvoid
      cases hvoid
      rfl
  | ok a =>
      rw [hm] at hvoid
      cases hvoid

@[simp] theorem run_modify (f : σ → σ) (s : σ) :
    (modify f : Co σ ε Unit).run s = (.ok (), f s) := rfl

theorem run_tryExcept (m : Co σ ε α) (h : ε → Option (Co σ ε α)) (s : σ) :
    (tryExcept m h).run s =
      match m.run s with
      | (.ok a, s') => (.ok a, s')
      | (.error e, s') =>
          match h e with
          | some k => k.run s'
          | none => (.error e, s') := rfl

@[simp] theorem run_onFst (m : Co σ ε α) (s : σ) (t : τ) :
    (m.onFst : Co (σ × τ) ε α).run (s, t) = ((m.run s).1, (m.run s).2, t) := rfl

@[simp] theorem run_onSnd (m : Co τ ε α) (s : σ) (t : τ) :
    (m.onSnd : Co (σ × τ) ε α).run (s, t) = ((m.run t).1, s, (m.run t).2) := rfl

theorem onFst_bind (m : Co σ ε α) (f : α → Co σ ε β) :
    ((m >>= f).onFst : Co (σ × τ) ε β) = m.onFst >>= fun a => (f a).onFst := by
  funext s
  show (((m >>= f).run s.1).1, ((m >>= f).run s.1).2, s.2) = Co.run _ s
  rw [run_bind, run_bind, run_onFst]
  rcases m.run s.1 with ⟨_ | _, _⟩ <;> rfl

/-- Over a list, computations without effects all return, or the first that raises is raised. -/
theorem mapM_except {f : α → Except ε β} :
    ∀ l : List α, (∃ bs, l.mapM f = .ok bs ∧ List.Forall₂ (fun a b => f a = .ok b) l bs) ∨
      ∃ a ∈ l, ∃ e, f a = .error e ∧ l.mapM f = .error e
  | [] => Or.inl ⟨[], rfl, .nil⟩
  | a :: l => by
      cases ha : f a with
      | error e =>
          refine Or.inr ⟨a, List.mem_cons_self, e, ha, ?_⟩
          rw [List.mapM_cons, ha]
          rfl
      | ok b =>
          rcases mapM_except l with ⟨bs, hbs, hall⟩ | ⟨a', ha', e, he, hl⟩
          · refine Or.inl ⟨b :: bs, ?_, .cons ha hall⟩
            rw [List.mapM_cons, ha, hbs]
            rfl
          · refine Or.inr ⟨a', List.mem_cons_of_mem a ha', e, he, ?_⟩
            rw [List.mapM_cons, ha, hl]
            rfl

/-! ### Computations that leave the world alone -/

/-- Running `m` changes nothing. -/
def Still (m : Co σ ε α) : Prop := ∀ s, (m.run s).2 = s

theorem still_pure (a : α) : Still (pure a : Co σ ε α) := fun _ => rfl

theorem still_ofExcept (r : Except ε α) : Still (ofExcept r : Co σ ε α) := fun _ => rfl

theorem still_bind {m : Co σ ε α} {f : α → Co σ ε β} (hm : Still m) (hf : ∀ a, Still (f a)) :
    Still (m >>= f) := by
  intro s
  have hs := hm s
  rw [run_bind]
  rcases h : m.run s with ⟨_ | a, s'⟩
  · rwa [h] at hs
  · rw [h] at hs
    rw [hf a s']
    exact hs

/-- Two decoding steps, the second on the result of the first. -/
theorem still_decode (r : Except ε α) (f : α → Except ε β) :
    Still (ofExcept r >>= fun a => ofExcept (f a) : Co σ ε β) :=
  still_bind (still_ofExcept r) fun a => still_ofExcept (f a)

/-- A still continuation leaves the world as the first coroutine left it. -/
theorem snd_run_bind_still {m : Co σ ε α} {f : α → Co σ ε β} (hf : ∀ a, Still (f a)) (s : σ) :
    ((m >>= f).run s).2 = (m.run s).2 := by
  rw [run_bind]
  rcases m.run s with ⟨_ | a, s'⟩
  · rfl
  · exact hf a s'

/-- A continuation that keeps the second component leaves it as the first coroutine left it. -/
theorem snd_run_bind {m : Co (σ × τ) ε α} {f : α → Co (σ × τ) ε β}
    (hf : ∀ a s, ((f a).run s).2.2 = s.2) (s : σ × τ) :
    ((m >>= f).run s).2.2 = (m.run s).2.2 := by
  rw [run_bind]
  rcases m.run s with ⟨_ | a, s'⟩
  · rfl
  · exact hf a s'

@[simp] theorem run_logged {ℓ : Type} (entry : ℓ) (m : Co σ ε α) (s : σ) (log : List ℓ) :
    (m.logged entry).run (s, log) = ((m.run s).1, (m.run s).2, log ++ [entry]) := rfl

end Co
end SlimA2a
