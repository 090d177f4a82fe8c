import Mathlib.Data.List.AList

/-! # Dictionaries

A dictionary is an association list without duplicate keys.  `Dict.update` inserts the entries of
one dictionary into another, in order; what it holds afterwards is `lookup_update`. -/

namespace SlimA2a

/-- A Python `dict`. -/
abbrev Dict (κ ν : Type) := AList fun _ : κ => ν

namespace Dict
variable {κ ν : Type} [DecidableEq κ]

/-- `for key, value in e.items(): d[key] = value` -/
def update (d e : Dict κ ν) : Dict κ ν := e.entries.foldl (fun d p => d.insert p.1 p.2) d

theorem lookup_foldl_insert (k : κ) : ∀ (l : List (Sigma fun _ : κ => ν)), l.NodupKeys →
    ∀ d : Dict κ ν, (l.foldl (fun d p => d.insert p.1 p.2) d).lookup k =
      (l.dlookup k).or (d.lookup k)
  | [], _, d => rfl
  | ⟨a, b⟩ :: l, h, d => by
      obtain ⟨ha, hl⟩ := List.nodupKeys_cons.mp h
      rw [List.foldl_cons, lookup_foldl_insert k l hl]
      by_cases hk : k = a
      · subst hk
        rw [List.dlookup_eq_none.mpr ha, List.dlookup_cons_eq, AList.lookup_insert]
        rfl
      · rw [List.dlookup_cons_ne _ _ hk, AList.lookup_insert_ne hk]

/-- The entries of `e` win over those of `d`. -/
theorem lookup_update (d e : Dict κ ν) (k : κ) :
    (d.update e).lookup k = (e.lookup k).or (d.lookup k) :=
  lookup_foldl_insert k e.entries e.nodupKeys d

end Dict
end SlimA2a
