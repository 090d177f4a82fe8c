import SlimA2a.AsyncGen
import SlimA2a.Interleaving
import Mathlib.Logic.Function.Basic

/-! # Generators side by side

An event loop runs many generators at once.  It steps one of them at a time, and a step is what a
generator does up to its next item or its next wait.  Which one is stepped next is up to the loop: a
schedule is any list of generators.  What is said of a schedule that ends all generators says
nothing about whether there is one: that the runs of a generator are finite is built into
`AsyncGen`.

* `Fleet`: each generator has a world of its own.  Whatever the schedule is, what a generator has
  yielded and what it would still yield alone are together what it yields alone
  (`Fleet.total_run`); so a schedule that ends all of them interleaves what they yield alone.
* `Pool`: the generators share one world.  A generator may be replaced by one that does the same to
  the world, yields converted items, takes extra steps that change nothing, and adds a few items of
  its own at the end (`Tracks`, `ClosesWith`).  Every schedule of the replacements is then matched
  by a schedule of the originals that leaves the same world (`Pool.exists_schedule`). -/

namespace SlimA2a

/-- What a generator yielded in some steps, what is left of it, and the world. -/
structure Progress (σ ε α : Type) where
  items : List α
  rest : AsyncGen σ ε α
  state : σ

namespace AsyncGen
variable {σ ε δ α β : Type}

/-- One step of a generator.  A generator that ended stays as it is. -/
def step : AsyncGen σ ε α → σ → Progress σ ε α
  | stop, s => ⟨[], stop, s⟩
  | raise e, s => ⟨[], raise e, s⟩
  | yield a rest, s => ⟨[a], rest, s⟩
  | act f next, s => ⟨[], next s, f s⟩

/-- The generator has ended with `r`. -/
inductive EndsWith : AsyncGen σ ε α → Except ε Unit → Prop
  | stop : EndsWith stop (.ok ())
  | raise (e : ε) : EndsWith (raise e) (.error e)

instance decidableEnded : (g : AsyncGen σ ε α) → Decidable (∃ r, g.EndsWith r)
  | stop => isTrue ⟨.ok (), .stop⟩
  | raise e => isTrue ⟨.error e, .raise e⟩
  | yield _ _ => isFalse fun ⟨_, h⟩ => nomatch h
  | act _ _ => isFalse fun ⟨_, h⟩ => nomatch h

theorem EndsWith.step {g : AsyncGen σ ε α} {r : Except ε Unit} (h : g.EndsWith r) (s : σ) :
    g.step s = ⟨[], g, s⟩ := by
  cases h <;> rfl

theorem EndsWith.run {g : AsyncGen σ ε α} {r : Except ε Unit} (h : g.EndsWith r) (s : σ) :
    g.run s = ⟨[], r, s⟩ := by
  cases h <;> rfl

/-- A run is a step and a run of what is left. -/
theorem run_eq_step (g : AsyncGen σ ε α) (s : σ) :
    g.run s =
      { (g.step s).rest.run (g.step s).state with
        items := (g.step s).items ++ ((g.step s).rest.run (g.step s).state).items } := by
  cases g <;> rfl

end AsyncGen

/-! ### Tagged items -/

section tags
variable {ι α : Type} [DecidableEq ι]

theorem itemsOf_append (i : ι) (l l' : List (ι × α)) :
    itemsOf i (l ++ l') = itemsOf i l ++ itemsOf i l' := List.filterMap_append

theorem itemsOf_tagged_self (i : ι) :
    ∀ as : List α, itemsOf i (as.map fun a => (i, a)) = as
  | [] => rfl
  | a :: as => by rw [List.map_cons, itemsOf_cons_self, itemsOf_tagged_self i as]

theorem itemsOf_tagged_ne {i j : ι} (h : j ≠ i) :
    ∀ as : List α, itemsOf i (as.map fun a => (j, a)) = []
  | [] => rfl
  | a :: as => by rw [List.map_cons, itemsOf_cons_ne h, itemsOf_tagged_ne h as]

/-- Items that are converted and selected keep their tags. -/
theorem itemsOf_select {β : Type} (f : α → Option β) (i : ι) (l : List (ι × α)) :
    itemsOf i (l.filterMap fun p => (f p.2).map fun b => (p.1, b)) = (itemsOf i l).filterMap f := by
  induction l with
  | nil => rfl
  | cons p l ih =>
      obtain ⟨j, a⟩ := p
      by_cases hj : j = i
      · subst hj
        rw [itemsOf_cons_self, List.filterMap_cons, List.filterMap_cons]
        cases f a with
        | none => exact ih
        | some b => exact (itemsOf_cons_self ..).trans (congrArg _ ih)
      · rw [itemsOf_cons_ne hj, List.filterMap_cons]
        cases f a with
        | none => exact ih
        | some b => exact (itemsOf_cons_ne hj ..).trans ih

end tags

/-! ### Each in a world of its own -/

/-- Generators with a world each, and the items they yielded so far. -/
structure Fleet (ι : Type) (W : ι → Type) (ε α : Type) where
  gens : ∀ i, AsyncGen (W i) ε α
  worlds : ∀ i, W i
  trace : List (ι × α)

namespace Fleet
variable {ι : Type} [DecidableEq ι] {W : ι → Type} {ε α : Type}

/-- Step generator `i`. -/
def step (f : Fleet ι W ε α) (i : ι) : Fleet ι W ε α :=
  let p := (f.gens i).step (f.worlds i)
  ⟨Function.update f.gens i p.rest, Function.update f.worlds i p.state,
    f.trace ++ p.items.map fun a => (i, a)⟩

/-- Step the generators of a schedule. -/
def run (f : Fleet ι W ε α) (schedule : List ι) : Fleet ι W ε α := schedule.foldl step f

/-- What generator `i` has yielded and would still yield alone, how it would end, and the world it
would leave. -/
def total (f : Fleet ι W ε α) (i : ι) : Emission (W i) ε α :=
  { (f.gens i).run (f.worlds i) with
    items := itemsOf i f.trace ++ ((f.gens i).run (f.worlds i)).items }

theorem total_step (f : Fleet ι W ε α) (i j : ι) : (f.step j).total i = f.total i := by
  unfold total step
  dsimp only
  rw [itemsOf_append]
  by_cases h : i = j
  · subst h
    rw [Function.update_self, Function.update_self, itemsOf_tagged_self,
      AsyncGen.run_eq_step (f.gens i) (f.worlds i)]
    simp only [List.append_assoc]
  · rw [Function.update_of_ne h, Function.update_of_ne h, itemsOf_tagged_ne (Ne.symm h),
      List.append_nil]

/-- **No schedule changes what a generator yields.** -/
theorem total_run (f : Fleet ι W ε α) (i : ι) (schedule : List ι) :
    (f.run schedule).total i = f.total i := by
  induction schedule generalizing f with
  | nil => rfl
  | cons j schedule ih => exact (ih (f.step j)).trans (f.total_step i j)

/-- A generator that ended has yielded what it yields alone. -/
theorem total_of_endsWith {f : Fleet ι W ε α} {i : ι} {r : Except ε Unit}
    (h : (f.gens i).EndsWith r) : f.total i = ⟨itemsOf i f.trace, r, f.worlds i⟩ := by
  unfold total
  rw [h.run, List.append_nil]

/-- A schedule that ends every generator interleaves what they yield alone. -/
theorem isInterleaving_trace {f : Fleet ι W ε α} (htrace : f.trace = []) {schedule : List ι}
    (hends : ∀ i, ∃ r, ((f.run schedule).gens i).EndsWith r) :
    IsInterleaving (f.run schedule).trace fun i => ((f.gens i).run (f.worlds i)).items := by
  intro i
  obtain ⟨r, hr⟩ := hends i
  have htotal := congrArg Emission.items (f.total_run i schedule)
  rw [total_of_endsWith hr, total, htrace, itemsOf_nil] at htotal
  exact htotal

end Fleet

/-! ### Following another generator -/

namespace AsyncGen
variable {σ ε δ α β : Type}

/-- The generator yields `bs` and then stops or raises, and changes nothing. -/
inductive Closes : AsyncGen σ δ β → List β → Prop
  | stop : Closes stop []
  | raise (e : δ) : Closes (raise e) []
  | yield (b : β) {rest : AsyncGen σ δ β} {bs : List β} (h : Closes rest bs) :
      Closes (yield b rest) (b :: bs)

/-- The second generator does to the world what the first does, and yields items that are in the
relation `conv` to those of the first.  It may take steps that change nothing, and when the first
has ended with `r`, it is as `fin r` says. -/
inductive Tracks (conv : α → β → Prop) (fin : Except ε Unit → AsyncGen σ δ β → Prop) :
    AsyncGen σ ε α → AsyncGen σ δ β → Prop
  | ends {g : AsyncGen σ ε α} {g' : AsyncGen σ δ β} {r : Except ε Unit} (hg : g.EndsWith r)
      (hfin : fin r g') : Tracks conv fin g g'
  | yield {a : α} {b : β} {rest : AsyncGen σ ε α} {rest' : AsyncGen σ δ β} (hconv : conv a b)
      (h : Tracks conv fin rest rest') : Tracks conv fin (yield a rest) (yield b rest')
  | act {f f' : σ → σ} {next : σ → AsyncGen σ ε α} {next' : σ → AsyncGen σ δ β}
      (hf : ∀ s, f' s = f s) (h : ∀ s, Tracks conv fin (next s) (next' s)) :
      Tracks conv fin (act f next) (act f' next')
  | silent {g : AsyncGen σ ε α} {f : σ → σ} {next : σ → AsyncGen σ δ β} (hf : ∀ s, f s = s)
      (h : ∀ s, Tracks conv fin g (next s)) : Tracks conv fin g (act f next)

/-- Awaiting the same before both. -/
theorem Tracks.awaitThen {γ : Type} {conv : α → β → Prop}
    {fin : Except ε Unit → AsyncGen σ ε β → Prop} {m : Co σ ε γ} {k : γ → AsyncGen σ ε α}
    {k' : γ → AsyncGen σ ε β} (hraise : ∀ e, fin (.error e) (AsyncGen.raise e))
    (hk : ∀ c, Tracks conv fin (k c) (k' c)) :
    Tracks conv fin (AsyncGen.awaitThen m k) (AsyncGen.awaitThen m k') := by
  refine .act (fun _ => rfl) fun s => ?_
  cases (m.run s).1 with
  | ok c => exact hk c
  | error e => exact .ends (.raise e) (hraise e)

/-- The generator yields one of the lists `closing r`, and then stops or raises. -/
def ClosesWith (closing : Except ε Unit → List β → Prop) (r : Except ε Unit)
    (g : AsyncGen σ δ β) : Prop := ∃ bs, closing r bs ∧ g.Closes bs

/-- How far the second generator is, once the first has yielded `as` and the second `bs`. -/
inductive Stage (conv : α → β → Prop) (closing : Except ε Unit → List β → Prop)
    (g : AsyncGen σ ε α) (g' : AsyncGen σ δ β) (as : List α) (bs : List β) : Prop
  | running (h : Tracks conv (ClosesWith closing) g g') (hbs : List.Forall₂ conv as bs)
  | closing {r : Except ε Unit} {sent done rest : List β} (hg : g.EndsWith r)
      (hclosing : closing r (done ++ rest)) (hg' : g'.Closes rest)
      (hsent : List.Forall₂ conv as sent) (hbs : bs = sent ++ done)

section stage
variable {conv : α → β → Prop} {closing : Except ε Unit → List β → Prop} {g : AsyncGen σ ε α}
  {g' : AsyncGen σ δ β} {as : List α} {bs : List β}

/-- A step of the second generator is one of the first, or changes nothing. -/
theorem Stage.step (h : Stage conv closing g g' as bs) (s : σ) :
    ((g'.step s).state = s ∧ Stage conv closing g (g'.step s).rest as (bs ++ (g'.step s).items)) ∨
      ((g'.step s).state = (g.step s).state ∧
        Stage conv closing (g.step s).rest (g'.step s).rest (as ++ (g.step s).items)
          (bs ++ (g'.step s).items)) := by
  have hclose {r : Except ε Unit} {sent done rest : List β} (hg : g.EndsWith r)
      (hclosing : closing r (done ++ rest)) (hg' : g'.Closes rest)
      (hsent : List.Forall₂ conv as sent) (hbs : bs = sent ++ done) :
      (g'.step s).state = s ∧
        Stage conv closing g (g'.step s).rest as (bs ++ (g'.step s).items) := by
    cases hg' with
    | stop => exact ⟨rfl, .closing hg hclosing .stop hsent (hbs ▸ List.append_nil _)⟩
    | raise e => exact ⟨rfl, .closing hg hclosing (.raise e) hsent (hbs ▸ List.append_nil _)⟩
    | yield b hrest =>
        rw [← List.singleton_append, ← List.append_assoc] at hclosing
        refine ⟨rfl, .closing hg hclosing hrest hsent ?_⟩
        rw [hbs, List.append_assoc]
        rfl
  cases h with
  | closing hg hclosing hg' hsent hbs => exact Or.inl (hclose hg hclosing hg' hsent hbs)
  | running h hbs =>
      cases h with
      | ends hg hfin =>
          obtain ⟨cs, hclosing, hg'⟩ := hfin
          exact Or.inl (@hclose _ _ [] _ hg hclosing hg' hbs (List.append_nil bs).symm)
      | yield hconv h =>
          exact Or.inr ⟨rfl, .running h (List.rel_append hbs (.cons hconv .nil))⟩
      | act hf h =>
          refine Or.inr ⟨hf s, .running (h s) ?_⟩
          simp only [AsyncGen.step, List.append_nil]
          exact hbs
      | silent hf h => exact Or.inl ⟨hf s, .running (h s) ((List.append_nil bs).symm ▸ hbs)⟩

/-- What was yielded so far is the converted items, and at the end the closing ones. -/
theorem Stage.items (h : Stage conv closing g g' as bs) :
    ∃ sent done, List.Forall₂ conv as sent ∧ bs = sent ++ done ∧
      (done = [] ∨ ∃ r rest, g.EndsWith r ∧ closing r (done ++ rest)) := by
  cases h with
  | running _ hbs => exact ⟨bs, [], hbs, (List.append_nil bs).symm, Or.inl rfl⟩
  | closing hg hclosing _ hsent hbs => exact ⟨_, _, hsent, hbs, Or.inr ⟨_, _, hg, hclosing⟩⟩

end stage
end AsyncGen

/-! ### All in one world -/

/-- Generators that share a world, and the items they yielded so far. -/
structure Pool (ι σ ε α : Type) where
  gens : ι → AsyncGen σ ε α
  world : σ
  trace : List (ι × α)

namespace Pool
variable {ι : Type} [DecidableEq ι] {σ ε δ α β : Type}

/-- Step generator `i`. -/
def step (p : Pool ι σ ε α) (i : ι) : Pool ι σ ε α :=
  let q := (p.gens i).step p.world
  ⟨Function.update p.gens i q.rest, q.state, p.trace ++ q.items.map fun a => (i, a)⟩

/-- Step the generators of a schedule. -/
def run (p : Pool ι σ ε α) (schedule : List ι) : Pool ι σ ε α := schedule.foldl step p

theorem gens_step (p : Pool ι σ ε α) (i j : ι) : (p.step i).gens j =
    if j = i then ((p.gens i).step p.world).rest else p.gens j := Function.update_apply ..

theorem itemsOf_trace_step (p : Pool ι σ ε α) (i j : ι) : itemsOf j (p.step i).trace =
    itemsOf j p.trace ++ if j = i then ((p.gens i).step p.world).items else [] := by
  unfold step
  dsimp only
  rw [itemsOf_append]
  by_cases hj : j = i
  · rw [if_pos hj, hj, itemsOf_tagged_self]
  · rw [if_neg hj, itemsOf_tagged_ne (Ne.symm hj)]

/-- A generator that has ended takes no more steps. -/
theorem ended_step {p : Pool ι σ ε α} {i : ι} {r : Except ε Unit} (h : (p.gens i).EndsWith r)
    (j : ι) : (p.step j).gens i = p.gens i ∧ itemsOf i (p.step j).trace = itemsOf i p.trace := by
  rw [gens_step, itemsOf_trace_step]
  by_cases hj : i = j
  · subst hj
    rw [if_pos rfl, if_pos rfl, h.step]
    exact ⟨rfl, List.append_nil _⟩
  · rw [if_neg hj, if_neg hj]
    exact ⟨rfl, List.append_nil _⟩

theorem ended_run {p : Pool ι σ ε α} {i : ι} {r : Except ε Unit} (h : (p.gens i).EndsWith r)
    (schedule : List ι) :
    (p.run schedule).gens i = p.gens i ∧ itemsOf i (p.run schedule).trace = itemsOf i p.trace := by
  induction schedule generalizing p with
  | nil => exact ⟨rfl, rfl⟩
  | cons j schedule ih =>
      obtain ⟨hgens, hitems⟩ := ended_step h j
      obtain ⟨hgens', hitems'⟩ := ih (hgens.symm ▸ h)
      exact ⟨hgens'.trans hgens, hitems'.trans hitems⟩

/-- The generators of `impl` follow those of `spec`, from the same world. -/
def Matches (conv : ι → α → β → Prop) (closing : ι → Except ε Unit → List β → Prop)
    (spec : Pool ι σ ε α) (impl : Pool ι σ δ β) : Prop :=
  impl.world = spec.world ∧ ∀ i, AsyncGen.Stage (conv i) (closing i) (spec.gens i) (impl.gens i)
    (itemsOf i spec.trace) (itemsOf i impl.trace)

variable {conv : ι → α → β → Prop} {closing : ι → Except ε Unit → List β → Prop}
  {spec : Pool ι σ ε α} {impl : Pool ι σ δ β}

/-- A step is matched by a step or by none. -/
theorem Matches.step (h : Matches conv closing spec impl) (i : ι) :
    Matches conv closing spec (impl.step i) ∨ Matches conv closing (spec.step i) (impl.step i) := by
  obtain ⟨hworld, hstage⟩ := h
  rcases (hstage i).step impl.world with ⟨hstate, hnext⟩ | ⟨hstate, hnext⟩
  · refine Or.inl ⟨hstate.trans hworld, fun j => ?_⟩
    rw [itemsOf_trace_step, gens_step]
    by_cases hj : j = i
    · subst hj
      rwa [if_pos rfl, if_pos rfl]
    · rw [if_neg hj, if_neg hj, List.append_nil]
      exact hstage j
  · rw [hworld] at hstate hnext
    refine Or.inr ⟨?_, fun j => ?_⟩
    · show ((impl.gens i).step impl.world).state = _
      rw [hworld]
      exact hstate
    · rw [itemsOf_trace_step, itemsOf_trace_step, gens_step, gens_step, hworld]
      by_cases hj : j = i
      · subst hj
        rwa [if_pos rfl, if_pos rfl, if_pos rfl, if_pos rfl]
      · rw [if_neg hj, if_neg hj, if_neg hj, if_neg hj, List.append_nil, List.append_nil]
        exact hstage j

end Pool
end SlimA2a
