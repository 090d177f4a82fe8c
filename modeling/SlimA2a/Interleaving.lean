import Mathlib.Data.List.Nodup
import Mathlib.Logic.Function.Basic

/-! # Interleavings

A list of items tagged with their source is an interleaving of the streams of the sources when the
items of each source, in the order of the list, are its stream.  The order between different sources
is free.

`itemsOf` is the projection to one source.  The rules say how it passes through a relabelling of the
sources and a change of the items, and what it is on a list with one item for each source.  The last
sections are about lists that are read up to a first failure.  Nothing that succeeds is cut off
exactly when no failure comes before a success.  When the items of the streams are themselves items
or errors, the reader gets an initial part of each stream (`untilError`). -/

namespace SlimA2a

section interleaving
variable {ι κ α β : Type} [DecidableEq ι] [DecidableEq κ]

/-- The items of source `i`, in order. -/
def itemsOf (i : ι) (l : List (ι × α)) : List α :=
  l.filterMap fun p => if p.1 = i then some p.2 else none

@[simp] theorem itemsOf_nil (i : ι) : itemsOf i ([] : List (ι × α)) = [] := rfl

theorem itemsOf_cons_self (i : ι) (a : α) (l : List (ι × α)) :
    itemsOf i ((i, a) :: l) = a :: itemsOf i l := by
  unfold itemsOf
  rw [List.filterMap_cons, if_pos rfl]

theorem itemsOf_cons_ne {i j : ι} (h : j ≠ i) (a : α) (l : List (ι × α)) :
    itemsOf i ((j, a) :: l) = itemsOf i l := by
  unfold itemsOf
  rw [List.filterMap_cons, if_neg h]

/-- Relabelling the sources one to one and changing the items. -/
theorem itemsOf_map {g : ι → κ} (hg : Function.Injective g) (f : α → β) (i : ι) :
    ∀ l : List (ι × α), itemsOf (g i) (l.map fun p => (g p.1, f p.2)) = (itemsOf i l).map f
  | [] => rfl
  | (j, a) :: l => by
      rw [List.map_cons]
      by_cases h : j = i
      · subst h
        rw [itemsOf_cons_self, itemsOf_cons_self, itemsOf_map hg f j l, List.map_cons]
      · rw [itemsOf_cons_ne (fun hgj => h (hg hgj)), itemsOf_cons_ne h, itemsOf_map hg f i l]

/-- One item, or none, for each source of a list without duplicates. -/
theorem itemsOf_filterMap {g : ι → κ} (hg : Function.Injective g) (f : ι → Option α) (i : ι) :
    ∀ l : List ι, l.Nodup →
      itemsOf (g i) (l.filterMap fun j => (f j).map fun a => (g j, a)) =
        if i ∈ l then (f i).toList else []
  | [], _ => rfl
  | j :: l, hl => by
      obtain ⟨hj, hl⟩ := List.nodup_cons.mp hl
      have ih := itemsOf_filterMap hg f i l hl
      by_cases h : j = i
      · subst h
        rw [if_neg hj] at ih
        rw [if_pos List.mem_cons_self]
        cases hf : f j with
        | none =>
            rw [List.filterMap_cons_none (by rw [hf]; rfl), ih]
            rfl
        | some a =>
            rw [List.filterMap_cons_some (by rw [hf]; rfl), itemsOf_cons_self, ih]
            rfl
      · have hmem : i ∈ j :: l ↔ i ∈ l := by
          rw [List.mem_cons, or_iff_right (Ne.symm h)]
        rw [if_congr hmem rfl rfl, ← ih]
        cases hf : f j with
        | none => rw [List.filterMap_cons_none (by rw [hf]; rfl)]
        | some a =>
            rw [List.filterMap_cons_some (by rw [hf]; rfl),
              itemsOf_cons_ne fun hgj => h (hg hgj)]

theorem mem_itemsOf {i : ι} {a : α} {l : List (ι × α)} (h : (i, a) ∈ l) : a ∈ itemsOf i l := by
  unfold itemsOf
  exact List.mem_filterMap.mpr ⟨(i, a), h, if_pos rfl⟩

/-- `l` interleaves the streams. -/
def IsInterleaving (l : List (ι × α)) (streams : ι → List α) : Prop :=
  ∀ i, itemsOf i l = streams i

/-- An interleaving of streams of encoded items is an encoded interleaving. -/
theorem IsInterleaving.exists_of_map {f : α → β} {l : List (ι × β)} {streams : ι → List α}
    (h : IsInterleaving l fun i => (streams i).map f) :
    ∃ l' : List (ι × α), l = l'.map fun p => (p.1, f p.2) := by
  have hmem : ∀ p ∈ l, ∃ a, f a = p.2 := by
    rintro ⟨i, b⟩ hp
    have hb := mem_itemsOf hp
    rw [h i] at hb
    obtain ⟨a, -, ha⟩ := List.mem_map.mp hb
    exact ⟨a, ha⟩
  clear h
  induction l with
  | nil => exact ⟨[], rfl⟩
  | cons p l ih =>
      obtain ⟨a, ha⟩ := hmem p List.mem_cons_self
      obtain ⟨l', hl'⟩ := ih fun q hq => hmem q (List.mem_cons_of_mem p hq)
      refine ⟨(p.1, a) :: l', ?_⟩
      rw [List.map_cons, ← hl', ha]

/-- The same when the encoding is one to one: the streams are the ones of the decoded list. -/
theorem IsInterleaving.exists_of_injective {f : α → β} (hf : Function.Injective f)
    {l : List (ι × β)} {streams : ι → List α}
    (h : IsInterleaving l fun i => (streams i).map f) :
    ∃ l' : List (ι × α), IsInterleaving l' streams ∧ l = l'.map fun p => (p.1, f p.2) := by
  obtain ⟨l', rfl⟩ := h.exists_of_map
  refine ⟨l', fun i => ?_, rfl⟩
  have hmap := itemsOf_map Function.injective_id f i l'
  exact hf.list_map (hmap.symm.trans (h i))

end interleaving

/-! ### Up to the first failure -/

section prefixes
variable {ι : Type} {p : ι → Bool}

/-- No success is cut off exactly when no failure comes before a success. -/
theorem pairwise_iff_mem_takeWhile :
    ∀ {l : List ι}, l.Nodup →
      ((l.Pairwise fun i j => p j = true → p i = true) ↔
        ∀ j ∈ l, p j = true → j ∈ l.takeWhile p)
  | [], _ => by simp
  | i :: l, hl => by
      obtain ⟨hi, hl⟩ := List.nodup_cons.mp hl
      rw [List.pairwise_cons, pairwise_iff_mem_takeWhile hl]
      by_cases hp : p i = true
      · rw [List.takeWhile_cons_of_pos hp]
        constructor
        · rintro ⟨-, h⟩ j hj hpj
          rcases List.mem_cons.mp hj with rfl | hj
          · exact List.mem_cons_self
          · exact List.mem_cons_of_mem i (h j hj hpj)
        · intro h
          refine ⟨fun _ _ _ => hp, ?_⟩
          intro j hj hpj
          rcases List.mem_cons.mp (h j (List.mem_cons_of_mem i hj) hpj) with rfl | hmem
          · exact absurd hj hi
          · exact hmem
      · rw [List.takeWhile_cons_of_neg hp]
        constructor
        · rintro ⟨h, -⟩ j hj hpj
          rcases List.mem_cons.mp hj with rfl | hj
          · exact absurd hpj hp
          · exact absurd (h j hj hpj) hp
        · intro h
          have hno : ∀ j ∈ l, p j ≠ true := fun j hj hpj =>
            absurd (h j (List.mem_cons_of_mem i hj) hpj) List.not_mem_nil
          exact ⟨fun j hj hpj => absurd hpj (hno j hj), fun j hj hpj => absurd hpj (hno j hj)⟩

end prefixes

/-! ### Up to the first error -/

section errors
variable {ι ε α β : Type}

/-- The items before the first error, and how the list ends. -/
def untilError : List (ι × Except ε α) → List (ι × α) × Except ε Unit
  | [] => ([], .ok ())
  | (i, .ok a) :: l => ((i, a) :: (untilError l).1, (untilError l).2)
  | (_, .error e) :: _ => ([], .error e)

/-- The items of one stream before its first error. -/
def okItems : List (Except ε α) → List α
  | [] => []
  | .ok a :: l => a :: okItems l
  | .error _ :: _ => []

theorem untilError_map {δ : Type} (f : α → β) (g : ε → δ) :
    ∀ l : List (ι × Except ε α), untilError (l.map fun p => (p.1, (p.2.map f).mapError g)) =
      ((untilError l).1.map fun p => (p.1, f p.2), (untilError l).2.mapError g)
  | [] => rfl
  | (i, .ok a) :: l => by
      rw [List.map_cons]
      show ((i, f a) :: (untilError _).1, (untilError _).2) = _
      rw [untilError_map f g l]
      rfl
  | (_, .error _) :: _ => rfl

/-- The error that a list ends with is one of its own. -/
theorem exists_mem_of_untilError {e : ε} :
    ∀ {l : List (ι × Except ε α)}, (untilError l).2 = .error e → ∃ i, (i, .error e) ∈ l
  | (i, .ok a) :: l, h => by
      have hrest : (untilError l).2 = .error e := h
      obtain ⟨j, hj⟩ := exists_mem_of_untilError hrest
      exact ⟨j, List.mem_cons_of_mem _ hj⟩
  | (i, .error e') :: l, h => by
      cases h
      exact ⟨i, List.mem_cons_self⟩

/-- A list with an error ends with an error. -/
theorem untilError_of_mem {i : ι} {e : ε} :
    ∀ {l : List (ι × Except ε α)}, (i, .error e) ∈ l → ∃ e', (untilError l).2 = .error e'
  | (j, .ok a) :: l, h => by
      rcases List.mem_cons.mp h with h | h
      · cases h
      · have hrest : ∃ e', (untilError l).2 = .error e' := untilError_of_mem h
        exact hrest
  | (j, .error e') :: l, _ => ⟨e', rfl⟩

variable [DecidableEq ι]

theorem mem_of_mem_itemsOf {i : ι} {a : α} {l : List (ι × α)} (h : a ∈ itemsOf i l) :
    (i, a) ∈ l := by
  obtain ⟨⟨j, b⟩, hmem, hitem⟩ := List.mem_filterMap.mp h
  by_cases hj : j = i
  · rw [if_pos hj] at hitem
    cases hitem
    exact hj ▸ hmem
  · rw [if_neg hj] at hitem
    cases hitem

/-- What is read of a source is an initial part of its stream. -/
theorem itemsOf_untilError_prefix (i : ι) :
    ∀ l : List (ι × Except ε α), itemsOf i (untilError l).1 <+: okItems (itemsOf i l)
  | [] => List.prefix_rfl
  | (j, .ok a) :: l => by
      have ih := itemsOf_untilError_prefix i l
      show itemsOf i ((j, a) :: (untilError l).1) <+: _
      by_cases hj : j = i
      · subst hj
        rw [itemsOf_cons_self, itemsOf_cons_self]
        exact List.cons_prefix_cons.mpr ⟨rfl, ih⟩
      · rwa [itemsOf_cons_ne hj, itemsOf_cons_ne hj]
  | (j, .error e) :: l => List.nil_prefix

/-- Without an error, all of it is read. -/
theorem itemsOf_untilError (i : ι) :
    ∀ {l : List (ι × Except ε α)}, (untilError l).2 = .ok () →
      itemsOf i (untilError l).1 = okItems (itemsOf i l)
  | [], _ => rfl
  | (j, .ok a) :: l, h => by
      have hrest : (untilError l).2 = .ok () := h
      have ih := itemsOf_untilError i hrest
      show itemsOf i ((j, a) :: (untilError l).1) = _
      by_cases hj : j = i
      · subst hj
        rw [itemsOf_cons_self, itemsOf_cons_self, ih]
        rfl
      · rw [itemsOf_cons_ne hj, itemsOf_cons_ne hj, ih]

/-- What a reader gets that stops at the first error of interleaved streams. -/
structure ReadsUntilError (pairs : List (ι × α)) (result : Except ε Unit)
    (streams : ι → List (Except ε α)) : Prop where
  initial : ∀ i, itemsOf i pairs <+: okItems (streams i)
  complete : (∀ i e, .error e ∉ streams i) →
    result = .ok () ∧ ∀ i, itemsOf i pairs = okItems (streams i)
  fails : ∀ i e, .error e ∈ streams i → ∃ e', result = .error e'
  error_mem : ∀ e, result = .error e → ∃ i, .error e ∈ streams i

theorem IsInterleaving.readsUntilError {l : List (ι × Except ε α)}
    {streams : ι → List (Except ε α)} (h : IsInterleaving l streams) :
    ReadsUntilError (untilError l).1 (untilError l).2 streams := by
  have herror : ∀ e, (untilError l).2 = .error e → ∃ i, .error e ∈ streams i := by
    intro e he
    obtain ⟨i, hi⟩ := exists_mem_of_untilError he
    exact ⟨i, h i ▸ mem_itemsOf hi⟩
  refine ⟨fun i => h i ▸ itemsOf_untilError_prefix i l, fun hok => ?_, fun i e he => ?_, herror⟩
  · have hend : (untilError l).2 = .ok () := by
      cases hresult : (untilError l).2 with
      | ok u => rfl
      | error e =>
          obtain ⟨i, hi⟩ := herror e hresult
          exact absurd hi (hok i e)
    exact ⟨hend, fun i => (itemsOf_untilError i hend).trans (congrArg okItems (h i))⟩
  · rw [← h i] at he
    exact untilError_of_mem (mem_of_mem_itemsOf he)

end errors
end SlimA2a
