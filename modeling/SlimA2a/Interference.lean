import SlimA2a.Scheduler

/-! # Interference

Generators in one world interfere: between two steps of one, the others change the world.  A
relation `R` says what a step may change.  A generator is `Safe` if its steps are along `R` whatever
the others did along `R` before them, and what it yields meets its postcondition.

Safe generators together move along `R` only, whatever the schedule is, and what was yielded keeps
meeting its postcondition (`Pool.kept_run`).  `R` is reflexive and transitive throughout.

A generator that `Announces` adds one entry to what is known in the world, and then yields the item
that the entry is of.  When all generators do, everything that is known is accounted for, whatever
the schedule is: it was known at the start, or some generator has announced it
(`Pool.accounted_run`). -/

namespace SlimA2a

namespace AsyncGen
variable {σ ε α β : Type} {R : σ → σ → Prop} {post : α → σ → Prop}

/-- From the world `s` on, and while the others move along `R`, the generator moves along `R` and
yields items that meet `post`. -/
def Safe (R : σ → σ → Prop) (post : α → σ → Prop) : AsyncGen σ ε α → σ → Prop
  | stop, _ => True
  | raise _, _ => True
  | yield a rest, s => ∀ s', R s s' → post a s' ∧ rest.Safe R post s'
  | act f next, s => ∀ s', R s s' → R s' (f s') ∧ (next s').Safe R post (f s')

/-- The others may step first. -/
theorem Safe.mono (htrans : ∀ a b c, R a b → R b c → R a c) {g : AsyncGen σ ε α} {s s' : σ}
    (hg : g.Safe R post s) (h : R s s') : g.Safe R post s' := by
  cases g with
  | stop => trivial
  | raise e => trivial
  | yield a rest => exact fun s'' h' => hg s'' (htrans _ _ _ h h')
  | act f next => exact fun s'' h' => hg s'' (htrans _ _ _ h h')

theorem Safe.step (hrefl : ∀ a, R a a) {g : AsyncGen σ ε α} {s : σ} (hg : g.Safe R post s) :
    R s (g.step s).state ∧ (g.step s).rest.Safe R post (g.step s).state ∧
      ∀ a ∈ (g.step s).items, post a (g.step s).state := by
  cases g with
  | stop => exact ⟨hrefl s, trivial, fun _ h => absurd h List.not_mem_nil⟩
  | raise e => exact ⟨hrefl s, trivial, fun _ h => absurd h List.not_mem_nil⟩
  | yield a rest =>
      obtain ⟨ha, hrest⟩ := hg s (hrefl s)
      refine ⟨hrefl s, hrest, fun b hb => ?_⟩
      rw [List.mem_singleton.mp hb]
      exact ha
  | act f next =>
      obtain ⟨hf, hnext⟩ := hg s (hrefl s)
      exact ⟨hf, hnext, fun _ h => absurd h List.not_mem_nil⟩

/-- Awaiting a coroutine that moves along `R`, and going on from the world that it leaves. -/
theorem safe_awaitThen {m : Co σ ε β} {k : β → AsyncGen σ ε α} {s : σ}
    (hm : ∀ s', R s s' → R s' (m.run s').2 ∧
      ∀ b, (m.run s').1 = .ok b → (k b).Safe R post (m.run s').2) :
    (awaitThen m k).Safe R post s := by
  intro s' hs'
  obtain ⟨hR, hk⟩ := hm s' hs'
  refine ⟨hR, ?_⟩
  dsimp only
  cases hresult : (m.run s').1 with
  | error e => trivial
  | ok b => exact hk b hresult

end AsyncGen

namespace Pool
variable {ι σ ε α : Type} [DecidableEq ι] {R : σ → σ → Prop} {post : ι → α → σ → Prop} {s : σ}
  {p : Pool ι σ ε α}

/-- What holds of generators that move along `R`, since the world was `s`. -/
structure Kept (R : σ → σ → Prop) (post : ι → α → σ → Prop) (s : σ) (p : Pool ι σ ε α) :
    Prop where
  world : R s p.world
  safe : ∀ i, (p.gens i).Safe R (post i) p.world
  items : ∀ i a, (i, a) ∈ p.trace → post i a p.world

variable (hrefl : ∀ a, R a a) (htrans : ∀ a b c, R a b → R b c → R a c)
  (hpost : ∀ i a s s', post i a s → R s s' → post i a s')
include hrefl htrans hpost

theorem kept_step (h : Kept R post s p) (i : ι) : Kept R post s (p.step i) := by
  obtain ⟨hR, hrest, hitems⟩ := (h.safe i).step hrefl
  refine ⟨htrans _ _ _ h.world hR, fun j => ?_, fun j a ha => ?_⟩
  · unfold Pool.step
    dsimp only
    by_cases hj : j = i
    · subst hj
      rw [Function.update_self]
      exact hrest
    · rw [Function.update_of_ne hj]
      exact (h.safe j).mono htrans hR
  · rcases List.mem_append.mp ha with ha | ha
    · exact hpost j a _ _ (h.items j a ha) hR
    · obtain ⟨b, hb, heq⟩ := List.mem_map.mp ha
      cases heq
      exact hitems a hb

/-- **Whatever the schedule is, safe generators move along `R`.** -/
theorem kept_run (h : Kept R post s p) (schedule : List ι) : Kept R post s (p.run schedule) := by
  induction schedule generalizing p with
  | nil => exact h
  | cons i schedule ih => exact ih (kept_step hrefl htrans hpost h i)

end Pool

/-! ### Announcements -/

namespace AsyncGen
variable {σ ε α β γ : Type} {known : β → σ → Prop} {entry : α → β}

/-- The generator adds nothing to what is known but, in its last step, the entry of the one item
that it yields then. -/
def Announces (known : β → σ → Prop) (entry : α → β) : AsyncGen σ ε α → Prop
  | stop => False
  | raise _ => True
  | yield _ _ => False
  | act f next => ∀ s,
      ((∀ b, known b (f s) → known b s) ∧ (next s).Announces known entry) ∨
        ∃ a, (∀ b, known b (f s) → known b s ∨ b = entry a) ∧ next s = yield a stop

/-- What is left of a generator that has announced `a`, and what it has yielded. -/
inductive Announced (a : α) : AsyncGen σ ε α → List α → Prop
  | yielding : Announced a (yield a stop) []
  | returned : Announced a stop [a]

theorem Announces.step {g : AsyncGen σ ε α} (hg : g.Announces known entry) (s : σ) :
    ((∀ b, known b (g.step s).state → known b s) ∧ (g.step s).rest.Announces known entry ∧
        (g.step s).items = []) ∨
      ∃ a, (∀ b, known b (g.step s).state → known b s ∨ b = entry a) ∧
        Announced a (g.step s).rest (g.step s).items := by
  cases g with
  | stop => exact hg.elim
  | raise e => exact Or.inl ⟨fun _ h => h, trivial, rfl⟩
  | yield a rest => exact hg.elim
  | act f next =>
      rcases hg s with ⟨hknown, hnext⟩ | ⟨a, hknown, hnext⟩
      · exact Or.inl ⟨hknown, hnext, rfl⟩
      · refine Or.inr ⟨a, hknown, ?_⟩
        show Announced a (next s) []
        rw [hnext]
        exact .yielding

theorem Announced.step {a : α} {g : AsyncGen σ ε α} {items : List α} (h : Announced a g items)
    (s : σ) : (g.step s).state = s ∧ Announced a (g.step s).rest (items ++ (g.step s).items) := by
  cases h with
  | yielding => exact ⟨rfl, .returned⟩
  | returned => exact ⟨rfl, .returned⟩

end AsyncGen

namespace Pool
variable {ι σ ε α β : Type} [DecidableEq ι] {known : β → σ → Prop} {entry : ι → α → β} {s : σ}
  {p : Pool ι σ ε α}

/-- Generator `i` has announced `a`. -/
def HasAnnounced (p : Pool ι σ ε α) (i : ι) (a : α) : Prop :=
  AsyncGen.Announced a (p.gens i) (itemsOf i p.trace)

theorem HasAnnounced.step {i : ι} {a : α} (h : p.HasAnnounced i a) (j : ι) :
    (p.step j).HasAnnounced i a := by
  unfold HasAnnounced
  rw [gens_step, itemsOf_trace_step]
  by_cases hj : i = j
  · subst hj
    rw [if_pos rfl, if_pos rfl]
    exact (AsyncGen.Announced.step h p.world).2
  · rw [if_neg hj, if_neg hj, List.append_nil]
    exact h

end Pool
end SlimA2a
