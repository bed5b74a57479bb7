import AiopsTriage.Lib.Dict

/-!
# Dictionaries up to the order of their keys

The order of the entries of a dictionary is not part of what it maps to what: a dictionary
whose entries are permuted answers every lookup in the same way, and two dictionaries are
equal in Python exactly when they answer every lookup in the same way.
-/

universe u v

namespace Dict

variable {κ : Type u} {ν : Type v} [DecidableEq κ]

/-- Two dictionaries with the same entries, in whatever order. -/
theorem get?_eq_of_perm {a b : Dict κ ν} (h : a.entries.Perm b.entries) (k : κ) :
    a.get? k = b.get? k := by
  refine Option.ext fun v => ?_
  rw [get?_eq_some, get?_eq_some]
  exact h.mem_iff

/-- Two lists of entries without repeated keys answer alike when one is a permutation of the
other. -/
theorem find_eq_of_perm {es fs : List (κ × ν)} (hnodup : (es.map Prod.fst).Nodup)
    (h : es.Perm fs) (k : κ) : find k es = find k fs :=
  get?_eq_of_perm (a := ⟨es, hnodup⟩) (b := ⟨fs, (h.map Prod.fst).nodup_iff.mp hnodup⟩) h k

/-- A dictionary has a key exactly when it has a value there. -/
theorem isSome_get? {d : Dict κ ν} {k : κ} : (d.get? k).isSome ↔ k ∈ d.keys := by
  rw [Option.isSome_iff_ne_none, ne_eq, get?, find_eq_none, not_not, keys]

/-- Nothing is found in an empty dictionary. -/
@[simp] theorem get?_empty {k : κ} : (empty : Dict κ ν).get? k = none := rfl

end Dict
