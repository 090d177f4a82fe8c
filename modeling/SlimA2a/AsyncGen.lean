import SlimA2a.Coroutine

/-! # Async generators

An async generator yields items and then either stops or raises.  Between two items it may read and
change the world, and what it does next may depend on what it read; `act` is such an internal step.
Draining a generator from a world gives an `Emission`: the items in order, how the generator ended,
and the world it left.

Every run of an `AsyncGen` is finite.  A generator that waits or yields for ever is not one, so it
is an assumption and no result that a generator here comes to its end.

The operations are the ones a language with generators offers: `awaitThen` awaits a coroutine
before going on, `map` is `async for x in g: yield f(x)`, `tryExcept` puts `except` clauses around
a generator, `andThen` is what follows a generator that stopped, and `forEach` is the consuming loop
`async for x in g: await body(x)`.  Each comes with the rule that says what it emits in terms of
what its parts emit. -/

namespace SlimA2a

/-- An async generator over the world `σ` that yields `α` and raises `ε`. -/
inductive AsyncGen (σ ε α : Type) : Type where
  | stop
  | raise (e : ε)
  | yield (a : α) (rest : AsyncGen σ ε α)
  | act (step : σ → σ) (next : σ → AsyncGen σ ε α)

/-- What a drained generator did: its items, how it ended, and the world it left. -/
structure Emission (σ ε α : Type) where
  items : List α
  result : Except ε Unit
  state : σ

namespace AsyncGen

variable {σ τ ε α β γ : Type}

/-- Drain a generator. -/
def run : AsyncGen σ ε α → σ → Emission σ ε α
  | stop, s => ⟨[], .ok (), s⟩
  | raise e, s => ⟨[], .error e, s⟩
  | yield a rest, s => { rest.run s with items := a :: (rest.run s).items }
  | act step next, s => (next s).run (step s)

/-- Await `m`, then go on with its result; an exception of `m` ends the generator. -/
def awaitThen (m : Co σ ε β) (k : β → AsyncGen σ ε α) : AsyncGen σ ε α :=
  act (fun s => (m.run s).2) fun s =>
    match (m.run s).1 with
    | .ok b => k b
    | .error e => raise e

/-- `async for x in g: yield f(x)`. -/
def map (f : α → β) : AsyncGen σ ε α → AsyncGen σ ε β
  | stop => stop
  | raise e => raise e
  | yield a rest => yield (f a) (rest.map f)
  | act step next => act step fun s => (next s).map f

/-- `async for x in g: yield f(x)` for an `f` that can raise. -/
def mapExcept (f : α → Except ε β) : AsyncGen σ ε α → AsyncGen σ ε β
  | stop => stop
  | raise e => raise e
  | yield a rest =>
      match f a with
      | .ok b => yield b (rest.mapExcept f)
      | .error e => raise e
  | act step next => act step fun s => (next s).mapExcept f

/-- `g` up to the first item that `f` cannot convert, which ends it with the exception of `f`. -/
def checked (f : α → Except ε β) (g : AsyncGen σ ε α) : AsyncGen σ ε α :=
  g.mapExcept fun a => (f a).map fun _ => a

/-- Replace the exception that ends a generator. -/
def mapError {δ : Type} (f : ε → δ) : AsyncGen σ ε α → AsyncGen σ δ α
  | stop => stop
  | raise e => raise (f e)
  | yield a rest => yield a (rest.mapError f)
  | act step next => act step fun s => (next s).mapError f

/-- `try: g` with the `except` clauses `h`; items already yielded stay yielded. -/
def tryExcept (h : ε → Option (AsyncGen σ ε α)) : AsyncGen σ ε α → AsyncGen σ ε α
  | stop => stop
  | raise e =>
      match h e with
      | some k => k
      | none => raise e
  | yield a rest => yield a (rest.tryExcept h)
  | act step next => act step fun s => (next s).tryExcept h

/-- `g`, and then `k` if it stops. -/
def andThen : AsyncGen σ ε α → AsyncGen σ ε α → AsyncGen σ ε α
  | stop, k => k
  | raise e, _ => raise e
  | yield a rest, k => yield a (rest.andThen k)
  | act step next, k => act step fun s => (next s).andThen k

/-- `async for x in g: await body(x)`.  When `body` raises, the rest of `g` is never run. -/
def forEach (body : α → Co σ ε Unit) : AsyncGen σ ε α → Co σ ε Unit
  | stop => pure ()
  | raise e => Co.raise e
  | yield a rest => do body a; rest.forEach body
  | act step next => fun s => ((next s).forEach body).run (step s)

/-- Drain the generator and drop its items. -/
def drain (g : AsyncGen σ ε α) : Co σ ε Unit := fun s => ((g.run s).result, (g.run s).state)

/-- Run a generator on the first component of the world. -/
def onFst : AsyncGen σ ε α → AsyncGen (σ × τ) ε α
  | stop => stop
  | raise e => raise e
  | yield a rest => yield a rest.onFst
  | act step next => act (fun s => (step s.1, s.2)) fun s => (next s.1).onFst

/-- Run `g` beside a log, after appending `entry` to the log. -/
def logged {ℓ : Type} (entry : ℓ) (g : AsyncGen σ ε α) : AsyncGen (σ × List ℓ) ε α :=
  act (fun s => (s.1, s.2 ++ [entry])) fun _ => g.onFst

end AsyncGen

/-- What is emitted when the `except` clauses `h` stand around a generator with this emission. -/
def Emission.recover {σ ε α : Type} (em : Emission σ ε α) (h : ε → Option (AsyncGen σ ε α)) :
    Emission σ ε α :=
  match em.result with
  | .ok () => em
  | .error e =>
      match h e with
      | none => em
      | some k => { k.run em.state with items := em.items ++ (k.run em.state).items }

namespace AsyncGen

variable {σ τ ε α β γ : Type}

/-! ### Emission rules -/

@[simp] theorem run_stop (s : σ) : (stop : AsyncGen σ ε α).run s = ⟨[], .ok (), s⟩ := rfl

@[simp] theorem run_raise (e : ε) (s : σ) :
    (raise e : AsyncGen σ ε α).run s = ⟨[], .error e, s⟩ := rfl

theorem run_yield (a : α) (rest : AsyncGen σ ε α) (s : σ) :
    (yield a rest).run s = { rest.run s with items := a :: (rest.run s).items } := rfl

theorem run_awaitThen (m : Co σ ε β) (k : β → AsyncGen σ ε α) (s : σ) :
    (awaitThen m k).run s =
      match m.run s with
      | (.ok b, s') => (k b).run s'
      | (.error e, s') => ⟨[], .error e, s'⟩ := by
  unfold awaitThen
  rw [run]
  rcases m.run s with ⟨_ | _, _⟩ <;> rfl

theorem run_awaitThen_ok {m : Co σ ε β} {s s' : σ} {b : β} (h : m.run s = (.ok b, s'))
    (k : β → AsyncGen σ ε α) : (awaitThen m k).run s = (k b).run s' := by
  rw [run_awaitThen, h]

theorem run_awaitThen_error {m : Co σ ε β} {s s' : σ} {e : ε} (h : m.run s = (.error e, s'))
    (k : β → AsyncGen σ ε α) : (awaitThen m k).run s = ⟨[], .error e, s'⟩ := by
  rw [run_awaitThen, h]

/-- When what follows leaves the world alone, the world is the one that `m` left. -/
theorem state_awaitThen {m : Co σ ε β} {k : β → AsyncGen σ ε α}
    (hk : ∀ b s, ((k b).run s).state = s) (s : σ) :
    ((awaitThen m k).run s).state = (m.run s).2 := by
  rw [run_awaitThen]
  rcases m.run s with ⟨_ | b, s'⟩
  · rfl
  · exact hk b s'

theorem run_map (f : α → β) (g : AsyncGen σ ε α) (s : σ) :
    (g.map f).run s = ⟨(g.run s).items.map f, (g.run s).result, (g.run s).state⟩ := by
  induction g generalizing s with
  | stop => rfl
  | raise e => rfl
  | yield a rest ih => simp only [map, run, ih, List.map_cons]
  | act step next ih => simp only [map, run, ih]

theorem map_map (f : α → β) (k : β → γ) (g : AsyncGen σ ε α) :
    (g.map f).map k = g.map fun a => k (f a) := by
  induction g with
  | stop => rfl
  | raise e => rfl
  | yield a rest ih => rw [map, map, map, ih]
  | act step next ih => exact congrArg (act step) (funext ih)

theorem state_map (f : α → β) (g : AsyncGen σ ε α) (s : σ) :
    ((g.map f).run s).state = (g.run s).state := by
  rw [run_map]

theorem mapExcept_awaitThen (f : α → Except ε γ) (m : Co σ ε β) (k : β → AsyncGen σ ε α) :
    (awaitThen m k).mapExcept f = awaitThen m fun b => (k b).mapExcept f := by
  refine congrArg (act _) (funext fun s => ?_)
  show AsyncGen.mapExcept f (match (m.run s).1 with | .ok b => k b | .error e => raise e) = _
  cases (m.run s).1 <;> rfl

/-- Two conversions, one after the other, are one. -/
theorem mapExcept_mapExcept (f : α → Except ε β) (k : β → Except ε γ) (g : AsyncGen σ ε α) :
    (g.mapExcept f).mapExcept k = g.mapExcept fun a => f a >>= k := by
  induction g with
  | stop => rfl
  | raise e => rfl
  | yield a rest ih =>
      simp only [mapExcept]
      cases f a with
      | error e => rfl
      | ok b =>
          show (yield b (rest.mapExcept f)).mapExcept k = _
          rw [mapExcept, ih]
          rfl
  | act step next ih => exact congrArg (act step) (funext ih)

/-- A conversion that cannot raise. -/
theorem mapExcept_ok (f : α → β) (g : AsyncGen σ ε α) :
    (g.mapExcept fun a => .ok (f a)) = g.map f := by
  induction g with
  | stop => rfl
  | raise e => rfl
  | yield a rest ih => rw [mapExcept, map, ih]
  | act step next ih => exact congrArg (act step) (funext ih)

theorem mapExcept_onFst (f : α → Except ε β) (g : AsyncGen σ ε α) :
    (g.onFst : AsyncGen (σ × τ) ε α).mapExcept f = (g.mapExcept f).onFst := by
  induction g with
  | stop => rfl
  | raise e => rfl
  | yield a rest ih =>
      rw [onFst, mapExcept, mapExcept]
      cases f a with
      | error e => rfl
      | ok b =>
          dsimp only
          rw [ih]
          rfl
  | act step next ih => exact congrArg (act _) (funext fun s => ih s.1)

/-- The log does not see a conversion of the items. -/
theorem mapExcept_logged {ℓ : Type} (entry : ℓ) (f : α → Except ε β) (g : AsyncGen σ ε α) :
    (g.logged entry).mapExcept f = (g.mapExcept f).logged entry :=
  congrArg (act _) (funext fun _ => mapExcept_onFst f g)

/-- The clauses see the exception that ends the generator, in the world it left. -/
theorem run_tryExcept (h : ε → Option (AsyncGen σ ε α)) (g : AsyncGen σ ε α) (s : σ) :
    (g.tryExcept h).run s = (g.run s).recover h := by
  induction g generalizing s with
  | stop => rfl
  | raise e =>
      simp only [tryExcept, run_raise, Emission.recover]
      cases h e <;> rfl
  | yield a rest ih =>
      rw [tryExcept, run_yield, ih, run_yield]
      unfold Emission.recover
      cases (rest.run s).result with
      | ok u => rfl
      | error e =>
          dsimp only
          cases h e <;> rfl
  | act step next ih => exact ih s (step s)

theorem run_andThen (g k : AsyncGen σ ε α) (s : σ) :
    (g.andThen k).run s =
      match (g.run s).result with
      | .ok () =>
          { k.run (g.run s).state with items := (g.run s).items ++ (k.run (g.run s).state).items }
      | .error _ => g.run s := by
  induction g generalizing s with
  | stop => rfl
  | raise e => rfl
  | yield a rest ih =>
      rw [andThen, run_yield, ih, run_yield]
      cases (rest.run s).result <;> rfl
  | act step next ih => exact ih s (step s)

theorem run_onFst (g : AsyncGen σ ε α) (s : σ) (t : τ) :
    (g.onFst : AsyncGen (σ × τ) ε α).run (s, t) =
      ⟨(g.run s).items, (g.run s).result, (g.run s).state, t⟩ := by
  induction g generalizing s with
  | stop => rfl
  | raise e => rfl
  | yield a rest ih => simp only [onFst, run, ih]
  | act step next ih => simp only [onFst, run, ih]

theorem run_logged {ℓ : Type} (entry : ℓ) (g : AsyncGen σ ε α) (s : σ) (log : List ℓ) :
    (g.logged entry).run (s, log) =
      ⟨(g.run s).items, (g.run s).result, (g.run s).state, log ++ [entry]⟩ := by
  rw [logged, run, run_onFst]

/-- Consuming a generator with a body that cannot fail: the body sees exactly the items, in order,
and the loop ends as the generator does.  The generator and the body share no part of the world. -/
theorem run_forEach_onSnd (f : α → τ → τ) (g : AsyncGen σ ε α) (s : σ) (t : τ) :
    (g.onFst.forEach fun a => (Co.modify (f a)).onSnd).run (s, t) =
      ((g.run s).result, (g.run s).state, (g.run s).items.foldl (fun t a => f a t) t) := by
  induction g generalizing s t with
  | stop => rfl
  | raise e => rfl
  | yield a rest ih =>
      have hbody : ((Co.modify (f a)).onSnd : Co (σ × τ) ε Unit).run (s, t) = (.ok (), s, f a t) :=
        rfl
      rw [onFst, forEach, Co.run_bind_ok hbody, ih]
      rfl
  | act step next ih => exact ih s (step s) t

/-! ### Draining -/

theorem void_drain (g : AsyncGen σ ε α) : g.drain.void = g.drain := by
  funext s
  show (((g.run s).result.map fun _ => ()), (g.run s).state) = ((g.run s).result, (g.run s).state)
  cases (g.run s).result <;> rfl

theorem drain_map (f : α → β) (g : AsyncGen σ ε α) : (g.map f).drain = g.drain := by
  funext s
  show (((g.map f).run s).result, ((g.map f).run s).state) = _
  rw [run_map]
  rfl

/-- Draining does not tell whether items were converted that all can be. -/
theorem run_drain_mapExcept {f : α → Except ε β} {g : AsyncGen σ ε α} {s : σ}
    (h : ∀ a ∈ (g.run s).items, ∃ b, f a = .ok b) :
    (g.mapExcept f).drain.run s = g.drain.run s := by
  induction g generalizing s with
  | stop => rfl
  | raise e => rfl
  | yield a rest ih =>
      obtain ⟨b, hb⟩ := h a List.mem_cons_self
      rw [mapExcept, hb]
      exact ih fun a' ha' => h a' (List.mem_cons_of_mem a ha')
  | act step next ih => exact ih s h

theorem drain_awaitThen (m : Co σ ε β) (k : β → AsyncGen σ ε α) :
    (awaitThen m k).drain = m >>= fun b => (k b).drain := by
  funext s
  show (((awaitThen m k).run s).result, ((awaitThen m k).run s).state) = Co.run _ s
  rw [run_awaitThen, Co.run_bind]
  rcases m.run s with ⟨_ | _, _⟩ <;> rfl

/-! ### Generators that leave the world alone -/

/-- A generator without internal steps: it yields its items and ends, whatever the world is. -/
inductive Quiet : AsyncGen σ ε α → Prop
  | stop : Quiet stop
  | raise (e : ε) : Quiet (raise e)
  | yield (a : α) {rest : AsyncGen σ ε α} (h : Quiet rest) : Quiet (yield a rest)

theorem Quiet.state_run {g : AsyncGen σ ε α} (h : Quiet g) (s : σ) : (g.run s).state = s := by
  induction h with
  | stop => rfl
  | raise e => rfl
  | yield a _ ih => exact ih

theorem Quiet.mapExcept {g : AsyncGen σ ε α} (h : Quiet g) (f : α → Except ε β) :
    Quiet (g.mapExcept f) := by
  induction h with
  | stop => exact .stop
  | raise e => exact .raise e
  | yield a _ ih =>
      rw [AsyncGen.mapExcept]
      cases f a with
      | ok b => exact .yield b ih
      | error e => exact .raise e

/-- The items converted, up to the first that cannot be; `result` is how they end if all can. -/
def mapUntil (f : α → Except ε β) (result : Except ε γ) : List α → List β × Except ε γ
  | [] => ([], result)
  | a :: as =>
      match f a with
      | .ok b => (b :: (mapUntil f result as).1, (mapUntil f result as).2)
      | .error e => ([], .error e)

/-- Converting how the items end. -/
theorem mapUntil_result {δ : Type} (f : α → Except ε β) (k : γ → δ) (result : Except ε γ) :
    ∀ l : List α, mapUntil f (result.map k) l =
      ((mapUntil f result l).1, (mapUntil f result l).2.map k)
  | [] => rfl
  | a :: l => by
      rw [mapUntil, mapUntil]
      cases f a with
      | ok b => rw [mapUntil_result f k result l]
      | error e => rfl

/-- What a generator yields when its items are converted, and how it then ends. -/
theorem ending_mapExcept (f : α → Except ε β) (g : AsyncGen σ ε α) (s : σ) :
    (((g.mapExcept f).run s).items, ((g.mapExcept f).run s).result) =
      mapUntil f (g.run s).result (g.run s).items := by
  induction g generalizing s with
  | stop => rfl
  | raise e => rfl
  | yield a rest ih =>
      rw [mapExcept, run_yield, mapUntil, ← ih s]
      cases f a <;> rfl
  | act step next ih => exact ih s (step s)

/-- When every item can be converted, the conversion changes nothing else. -/
theorem run_mapExcept_of_forall {f : α → Except ε β} {k : α → β} {g : AsyncGen σ ε α} {s : σ}
    (h : ∀ a ∈ (g.run s).items, f a = .ok (k a)) :
    (g.mapExcept f).run s = ⟨(g.run s).items.map k, (g.run s).result, (g.run s).state⟩ := by
  induction g generalizing s with
  | stop => rfl
  | raise e => rfl
  | yield a rest ih =>
      have hrest := ih fun a' ha' => h a' (List.mem_cons_of_mem a ha')
      rw [mapExcept, h a List.mem_cons_self]
      show (yield (k a) (rest.mapExcept f)).run s = _
      rw [run_yield, hrest, run_yield, List.map_cons]
  | act step next ih => exact ih s h

theorem Quiet.run_mapExcept {g : AsyncGen σ ε α} (h : Quiet g) (f : α → Except ε β) (s : σ) :
    (g.mapExcept f).run s =
      ⟨(mapUntil f (g.run s).result (g.run s).items).1,
        (mapUntil f (g.run s).result (g.run s).items).2, s⟩ := by
  have hstate := (h.mapExcept f).state_run s
  rw [← ending_mapExcept]
  exact congrArg (Emission.mk _ _) hstate

/-- A call whose result is read by a quiet generator leaves its own entry in the log only. -/
theorem log_awaitThen {ℓ : Type} {entry : ℓ} {m : Co σ ε β}
    {k : β → AsyncGen (σ × List ℓ) ε α} (hk : ∀ b, Quiet (k b)) (s : σ) (log : List ℓ) :
    ((awaitThen (m.logged entry) k).run (s, log)).state.2 = log ++ [entry] := by
  rw [state_awaitThen fun b s => (hk b).state_run s]
  rfl

end AsyncGen
end SlimA2a
