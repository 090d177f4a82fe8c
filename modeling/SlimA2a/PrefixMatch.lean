import Mathlib.Data.List.Basic
import Mathlib.Data.List.TakeWhile
import Mathlib.Order.Basic
import Mathlib.Tactic.Common

/-! # Prefix matching and separated words

Two ways of reading a word that a separator divides into segments, and the bridge between them.

* `List.splitOn` cuts a word at every occurrence of the separator; a *segment* is what lies between
  two cuts and contains no separator (`not_mem_of_mem_splitOn`).
* `prefixMatch` is a backtracking matcher, anchored at the start of the word only, for patterns made
  of literal words and capturing groups `([^c]+)`.  A group first takes as many letters as it can
  and gives letters back one at a time while the rest of the pattern fails (`longestFirst`).

A group that is followed by the end of the pattern or by a literal that starts with its own
separator never gives a letter back (`prefixMatch_run`).  Such patterns can therefore be matched
segment by segment (`isPrefixOf?_segment`, `takeWhile_segment`, `dropWhile_segment`). -/

namespace SlimA2a

/-- A piece of a pattern: a literal word, or the capturing group `([^c]+)`. -/
inductive Piece (α : Type) where
  | lit (w : List α)
  | run (c : α)

/-- The first success among `f n, f (n - 1), …, f 1`. -/
def longestFirst {β : Type} (f : ℕ → Option β) : ℕ → Option β
  | 0 => none
  | n + 1 => (f (n + 1)).or (longestFirst f n)

section matching
variable {α : Type} [DecidableEq α]

/-- Match `ps` against a prefix of `s`; the result lists what the groups captured. -/
def prefixMatch : List (Piece α) → List α → Option (List (List α))
  | [], _ => some []
  | .lit w :: ps, s => (w.isPrefixOf? s).bind (prefixMatch ps)
  | .run c :: ps, s =>
      longestFirst (fun n => (prefixMatch ps (s.drop n)).map (s.take n :: ·))
        (s.takeWhile (· ≠ c)).length

/-- The pattern is over, or goes on with a literal that starts with `c`. -/
def Stops (c : α) : List (Piece α) → Prop
  | [] => True
  | .lit (d :: _) :: _ => d = c
  | _ => False

end matching

theorem stops_nil {α : Type} (c : α) : Stops c [] := trivial

theorem stops_lit {α : Type} (c : α) (w : List α) (ps : List (Piece α)) :
    Stops c (.lit (c :: w) :: ps) := rfl

theorem longestFirst_eq_none {β : Type} {f : ℕ → Option β} :
    ∀ {n : ℕ}, (∀ k, 0 < k → k ≤ n → f k = none) → longestFirst f n = none
  | 0, _ => rfl
  | n + 1, h => by
      rw [longestFirst, h (n + 1) (by omega) le_rfl,
        longestFirst_eq_none fun k hk hn => h k hk (by omega)]
      rfl

/-- When every shorter attempt fails, only the longest one counts. -/
theorem longestFirst_succ {β : Type} {f : ℕ → Option β} {n : ℕ}
    (h : ∀ k, 0 < k → k ≤ n → f k = none) : longestFirst f (n + 1) = f (n + 1) := by
  rw [longestFirst, longestFirst_eq_none h, Option.or_none]

section matching
variable {α : Type} [DecidableEq α]

/-- The letter after a proper prefix of the longest run is not the separator. -/
theorem drop_eq_cons_of_lt_run {c : α} {s : List α} {k : ℕ}
    (h : k < (s.takeWhile (· ≠ c)).length) : ∃ d t, s.drop k = d :: t ∧ d ≠ c := by
  have hlt : k < s.length := lt_of_lt_of_le h (List.takeWhile_prefix _).length_le
  refine ⟨s[k], s.drop (k + 1), List.drop_eq_getElem_cons hlt, ?_⟩
  have hmem : (s.takeWhile (· ≠ c))[k] ∈ s.takeWhile (· ≠ c) := List.getElem_mem h
  rw [(List.takeWhile_prefix _).getElem h] at hmem
  simpa using List.mem_takeWhile_imp hmem

/-- **No backtracking.**  A group that is followed by its own separator, or by nothing, captures the
longest run of other letters or fails. -/
theorem prefixMatch_run {c : α} {ps : List (Piece α)} (hps : Stops c ps) (s : List α) :
    prefixMatch (.run c :: ps) s =
      if s.takeWhile (· ≠ c) = [] then none
      else (prefixMatch ps (s.dropWhile (· ≠ c))).map (s.takeWhile (· ≠ c) :: ·) := by
  rw [prefixMatch]
  have htake : s.take (s.takeWhile (· ≠ c)).length = s.takeWhile (· ≠ c) :=
    (List.prefix_iff_eq_take.mp (List.takeWhile_prefix _)).symm
  have hdrop : s.drop (s.takeWhile (· ≠ c)).length = s.dropWhile (· ≠ c) := by
    have h : (s.takeWhile (· ≠ c) ++ s.dropWhile (· ≠ c)).drop (s.takeWhile (· ≠ c)).length =
        s.dropWhile (· ≠ c) := List.drop_left
    rwa [List.takeWhile_append_dropWhile] at h
  cases hn : (s.takeWhile (· ≠ c)).length with
  | zero => rw [if_pos (List.length_eq_zero_iff.mp hn)]; rfl
  | succ n =>
      have hne : s.takeWhile (· ≠ c) ≠ [] := by
        intro h
        rw [h] at hn
        cases hn
      rw [if_neg hne, ← htake, ← hdrop, hn]
      match ps, hps with
      | [], _ => rfl
      | .lit (_ :: w) :: ps, rfl =>
          apply longestFirst_succ
          intro k _ hk
          obtain ⟨d, t, hd, hne⟩ := drop_eq_cons_of_lt_run (c := c) (s := s) (k := k) (by omega)
          rw [hd, prefixMatch, List.isPrefixOf?, if_neg (by simpa using hne.symm)]
          rfl

/-! ### Segment by segment -/

theorem decide_ne_of_mem {c : α} {a : List α} (ha : c ∉ a) : ∀ x ∈ a, decide (x ≠ c) = true := by
  intro x hx
  simpa using ne_of_mem_of_not_mem hx ha

theorem takeWhile_segment {c : α} {a : List α} (ha : c ∉ a) (t : List α) :
    (a ++ c :: t).takeWhile (· ≠ c) = a := by
  rw [List.takeWhile_append_of_pos (decide_ne_of_mem ha)]
  simp

theorem dropWhile_segment {c : α} {a : List α} (ha : c ∉ a) (t : List α) :
    (a ++ c :: t).dropWhile (· ≠ c) = c :: t := by
  rw [List.dropWhile_append_of_pos (decide_ne_of_mem ha)]
  simp

theorem takeWhile_eq_self {c : α} {a : List α} (ha : c ∉ a) : a.takeWhile (· ≠ c) = a :=
  List.takeWhile_eq_self_iff.mpr (decide_ne_of_mem ha)

theorem dropWhile_eq_nil {c : α} {a : List α} (ha : c ∉ a) : a.dropWhile (· ≠ c) = [] :=
  List.dropWhile_eq_nil_iff.mpr (decide_ne_of_mem ha)

/-- A closed segment matches exactly a word whose first segment it is. -/
theorem isPrefixOf?_segment {c : α} : ∀ {w a : List α}, c ∉ w → c ∉ a → ∀ t : List α,
    (w ++ [c]).isPrefixOf? (a ++ c :: t) = if a = w then some t else none
  | [], [], _, _, t => by simp [List.isPrefixOf?]
  | [], b :: a, _, ha, t => by
      have hb : ¬ c = b := fun h => ha (h ▸ List.mem_cons_self)
      simp [List.isPrefixOf?, hb]
  | d :: w, [], hw, _, t => by
      have hd : ¬ d = c := fun h => hw (h ▸ List.mem_cons_self)
      simp [List.isPrefixOf?, hd]
  | d :: w, b :: a, hw, ha, t => by
      have ih := isPrefixOf?_segment (fun h => hw (List.mem_cons_of_mem _ h))
        (fun h => ha (List.mem_cons_of_mem _ h)) t
      by_cases hdb : d = b
      · subst hdb
        simpa [List.isPrefixOf?] using ih
      · have hbd : ¬ b = d := fun h => hdb h.symm
        simp [List.isPrefixOf?, hdb, hbd]

/-- A closed segment matches no word without a separator. -/
theorem isPrefixOf?_last {c : α} : ∀ {w a : List α}, c ∉ a → (w ++ [c]).isPrefixOf? a = none
  | [], [], _ => rfl
  | [], b :: a, ha => by
      have hb : ¬ c = b := fun h => ha (h ▸ List.mem_cons_self)
      simp [List.isPrefixOf?, hb]
  | d :: w, [], _ => rfl
  | d :: w, b :: a, ha => by
      have ih := isPrefixOf?_last (w := w) (fun h => ha (List.mem_cons_of_mem _ h))
      by_cases hdb : d = b
      · simpa [List.isPrefixOf?, hdb] using ih
      · simp [List.isPrefixOf?, hdb]

/-- No segment contains the separator. -/
theorem not_mem_of_mem_splitOn {c : α} : ∀ {s a : List α}, a ∈ s.splitOn c → c ∉ a
  | [], a, h => by
      rw [List.splitOn_nil, List.mem_singleton] at h
      simp [h]
  | x :: s, a, h => by
      rw [List.splitOn_cons_eq_if_modifyHead] at h
      split at h
      · rcases List.mem_cons.mp h with rfl | h
        · simp
        · exact not_mem_of_mem_splitOn h
      · rename_i hx
        obtain ⟨b, bs, hb⟩ := List.exists_cons_of_ne_nil (List.splitOn_ne_nil c s)
        rw [hb, List.modifyHead_cons] at h
        rcases List.mem_cons.mp h with rfl | h
        · have hxc : ¬ c = x := fun h => hx (by simp [h])
          have hb' : c ∉ b := not_mem_of_mem_splitOn (hb ▸ List.mem_cons_self)
          simp [hxc, hb']
        · exact not_mem_of_mem_splitOn (hb ▸ List.mem_cons_of_mem _ h)

/-- There is one segment more than there are separators. -/
theorem length_splitOn (c : α) (s : List α) : (s.splitOn c).length = s.count c + 1 := by
  induction s with
  | nil => rfl
  | cons x s ih =>
      rw [List.splitOn_cons_eq_if_modifyHead, List.count_cons]
      split
      · rw [List.length_cons, ih]
      · rw [List.length_modifyHead, ih]

/-- Splitting is injective. -/
theorem splitOn_inj {c : α} {s t : List α} : s.splitOn c = t.splitOn c ↔ s = t := by
  constructor
  · intro h
    have hs : [c].intercalate (s.splitOn c) = s := List.intercalate_splitOn c
    rw [← hs, h, List.intercalate_splitOn]
  · rintro rfl
    rfl

theorem splitOn_segment {c : α} {a : List α} (ha : c ∉ a) (t : List α) :
    (a ++ c :: t).splitOn c = a :: t.splitOn c :=
  List.splitOn_append_cons_self_of_not_mem ha t

/-- A word is one segment, or a segment, a separator and the word of the other segments. -/
theorem exists_segment {c : α} {s a : List α} {as : List (List α)} (h : s.splitOn c = a :: as) :
    c ∉ a ∧ ((as = [] ∧ s = a) ∨ ∃ t, s = a ++ c :: t ∧ t.splitOn c = as) := by
  have ha : c ∉ a := not_mem_of_mem_splitOn (h ▸ List.mem_cons_self)
  refine ⟨ha, ?_⟩
  have hs : [c].intercalate (s.splitOn c) = s := List.intercalate_splitOn c
  rw [h] at hs
  cases as with
  | nil =>
      refine Or.inl ⟨rfl, ?_⟩
      simpa using hs.symm
  | cons b bs =>
      right
      refine ⟨[c].intercalate (b :: bs), ?_, ?_⟩
      · simpa [List.intercalate_cons_cons] using hs.symm
      · apply List.splitOn_intercalate
        · intro l hl
          exact not_mem_of_mem_splitOn (h ▸ List.mem_cons_of_mem a hl)
        · exact List.cons_ne_nil b bs

/-! ### Rules for patterns -/

theorem prefixMatch_lit_segment {c : α} {w a : List α} (hw : c ∉ w) (ha : c ∉ a)
    (ps : List (Piece α)) (t : List α) :
    prefixMatch (.lit (w ++ [c]) :: ps) (a ++ c :: t) =
      if a = w then prefixMatch ps t else none := by
  rw [prefixMatch, isPrefixOf?_segment hw ha]
  split <;> rfl

theorem prefixMatch_lit_last {c : α} {w a : List α} (ha : c ∉ a) (ps : List (Piece α)) :
    prefixMatch (.lit (w ++ [c]) :: ps) a = none := by
  rw [prefixMatch, isPrefixOf?_last ha]
  rfl

theorem prefixMatch_lit_cons (c : α) (w : List α) (ps : List (Piece α)) (t : List α) :
    prefixMatch (.lit (c :: w) :: ps) (c :: t) = prefixMatch (.lit w :: ps) t := by
  rw [prefixMatch, prefixMatch, List.isPrefixOf?, if_pos (by simp)]

theorem prefixMatch_run_segment {c : α} {ps : List (Piece α)} (hps : Stops c ps) {a : List α}
    (ha : c ∉ a) (t : List α) :
    prefixMatch (.run c :: ps) (a ++ c :: t) =
      if a = [] then none else (prefixMatch ps (c :: t)).map (a :: ·) := by
  rw [prefixMatch_run hps, takeWhile_segment ha, dropWhile_segment ha]

theorem prefixMatch_run_last {c : α} {ps : List (Piece α)} (hps : Stops c ps) {a : List α}
    (ha : c ∉ a) :
    prefixMatch (.run c :: ps) a = if a = [] then none else (prefixMatch ps []).map (a :: ·) := by
  rw [prefixMatch_run hps, takeWhile_eq_self ha, dropWhile_eq_nil ha]

end matching
end SlimA2a
