import Mathlib.Data.List.Forall2
import Mathlib.Data.List.Nodup
import Mathlib.Data.List.Sort
import Mathlib.Tactic.Common

/-!
# Insertion-ordered dictionaries

A Python `dict`: at most one entry a key, and the entries in the order in which
their keys first came in. That no key occurs twice is a field of the structure,
so no lemma below carries it as a hypothesis.
-/

universe u v w

/-- A dictionary with its entries in insertion order. -/
structure Dict (κ : Type u) (ν : Type v) where
  /-- the entries, oldest key first -/
  entries : List (κ × ν)
  /-- no key has two entries -/
  nodup : (entries.map Prod.fst).Nodup

namespace Dict

variable {κ : Type u} {ν : Type v} {ω : Type w}

/-- The keys, in insertion order. -/
def keys (d : Dict κ ν) : List κ := d.entries.map Prod.fst

/-- `{}`. -/
def empty : Dict κ ν := ⟨[], List.nodup_nil⟩

instance : Inhabited (Dict κ ν) := ⟨empty⟩

instance [DecidableEq κ] [DecidableEq ν] : DecidableEq (Dict κ ν) := fun a b =>
  decidable_of_iff (a.entries = b.entries) ⟨fun h => by cases a; cases b; cases h; rfl, fun h => h ▸ rfl⟩

instance [Repr κ] [Repr ν] : Repr (Dict κ ν) := ⟨fun d n => reprPrec d.entries n⟩

/-- Two dictionaries with the same entries in the same order are equal. -/
theorem ext_entries {a b : Dict κ ν} (h : a.entries = b.entries) : a = b := by
  cases a
  cases b
  cases h
  rfl

section Lookup

variable [DecidableEq κ]

/-- The value of the first entry of a key in a list of entries. -/
def find (k : κ) : List (κ × ν) → Option ν
  | [] => none
  | (l, v) :: es => if l = k then some v else find k es

/-- `d.get(k)`. -/
def get? (d : Dict κ ν) (k : κ) : Option ν := find k d.entries

@[simp] theorem find_nil {k : κ} : find k ([] : List (κ × ν)) = none := rfl

@[simp] theorem find_cons {k l : κ} {v : ν} {es : List (κ × ν)} :
    find k ((l, v) :: es) = if l = k then some v else find k es := rfl

/-- A found value comes from an entry. -/
theorem mem_of_find {k : κ} {v : ν} {es : List (κ × ν)} (h : find k es = some v) :
    (k, v) ∈ es := by
  induction es with
  | nil => cases h
  | cons e es ih =>
    obtain ⟨l, w⟩ := e
    by_cases hl : l = k
    · rw [find_cons, if_pos hl] at h
      cases h
      subst hl
      exact List.mem_cons_self
    · rw [find_cons, if_neg hl] at h
      exact List.mem_cons_of_mem _ (ih h)

/-- An entry of a list without repeated keys is found. -/
theorem find_of_mem {k : κ} {v : ν} {es : List (κ × ν)} (hnodup : (es.map Prod.fst).Nodup)
    (h : (k, v) ∈ es) : find k es = some v := by
  induction es with
  | nil => cases h
  | cons e es ih =>
    obtain ⟨l, w⟩ := e
    rw [List.map_cons, List.nodup_cons] at hnodup
    rcases List.mem_cons.mp h with heq | htail
    · cases heq
      rw [find_cons, if_pos rfl]
    · have hne : l ≠ k := by
        intro hl
        subst hl
        exact hnodup.1 (List.mem_map.mpr ⟨_, htail, rfl⟩)
      rw [find_cons, if_neg hne]
      exact ih hnodup.2 htail

/-- **Lookup is membership**: a dictionary holds `v` at `k` exactly when it has
the entry `(k, v)`. -/
theorem get?_eq_some {d : Dict κ ν} {k : κ} {v : ν} :
    d.get? k = some v ↔ (k, v) ∈ d.entries :=
  ⟨mem_of_find, find_of_mem d.nodup⟩

theorem find_eq_none {k : κ} {es : List (κ × ν)} :
    find k es = none ↔ k ∉ es.map Prod.fst := by
  induction es with
  | nil => simp
  | cons e es ih =>
    obtain ⟨l, w⟩ := e
    by_cases hl : l = k
    · simp [hl]
    · simp [hl, ih, Ne.symm hl]

/-- The entries after `d[k] = v`: a known key keeps its place, a new one comes
last. -/
def setEntries (k : κ) (v : ν) : List (κ × ν) → List (κ × ν)
  | [] => [(k, v)]
  | (l, w) :: es => if l = k then (l, v) :: es else (l, w) :: setEntries k v es

theorem keys_setEntries {k : κ} {v : ν} {es : List (κ × ν)} :
    (setEntries k v es).map Prod.fst =
      if k ∈ es.map Prod.fst then es.map Prod.fst else es.map Prod.fst ++ [k] := by
  induction es with
  | nil => rfl
  | cons e es ih =>
    obtain ⟨l, w⟩ := e
    by_cases hl : l = k
    · simp [setEntries, hl]
    · rw [setEntries, if_neg hl, List.map_cons, ih]
      simp only [List.map_cons, List.mem_cons, Ne.symm hl, false_or]
      split <;> rfl

/-- `d[k] = v`. -/
def set (d : Dict κ ν) (k : κ) (v : ν) : Dict κ ν where
  entries := setEntries k v d.entries
  nodup := by
    rw [keys_setEntries]
    split
    · exact d.nodup
    · next h =>
      exact List.nodup_append.mpr
        ⟨d.nodup, List.nodup_singleton k, fun a ha b hb hab => by
          rw [List.mem_singleton] at hb
          subst hb hab
          exact h ha⟩

theorem find_setEntries {k l : κ} {v : ν} {es : List (κ × ν)} :
    find l (setEntries k v es) = if k = l then some v else find l es := by
  induction es with
  | nil => rfl
  | cons e es ih =>
    obtain ⟨m, w⟩ := e
    by_cases hm : m = k
    · subst hm
      rw [setEntries, if_pos rfl, find_cons, find_cons]
      split <;> rfl
    · rw [setEntries, if_neg hm, find_cons, find_cons, ih]
      by_cases hkl : k = l
      · subst hkl
        rw [if_neg hm, if_pos rfl, if_pos rfl]
      · rw [if_neg hkl, if_neg hkl]

/-- Reading after a write. -/
theorem get?_set {d : Dict κ ν} {k l : κ} {v : ν} :
    (d.set k v).get? l = if k = l then some v else d.get? l := find_setEntries

/-- Setting a key to the value it has changes nothing. -/
theorem set_eq_self {d : Dict κ ν} {k : κ} {v : ν} (h : d.get? k = some v) : d.set k v = d := by
  refine ext_entries ?_
  have hentries : ∀ es : List (κ × ν), find k es = some v → setEntries k v es = es := by
    intro es
    induction es with
    | nil => intro h; cases h
    | cons e es ih =>
      obtain ⟨l, w⟩ := e
      intro h
      by_cases hl : l = k
      · rw [find_cons, if_pos hl] at h
        cases h
        rw [setEntries, if_pos hl]
      · rw [find_cons, if_neg hl] at h
        rw [setEntries, if_neg hl, ih h]
  exact hentries d.entries h

/-- The keys that hold a value. -/
def keysOf [DecidableEq ν] (d : Dict κ ν) (v : ν) : List κ :=
  (d.entries.filter fun e => e.2 = v).map Prod.fst

theorem mem_keysOf [DecidableEq ν] {d : Dict κ ν} {k : κ} {v : ν} :
    k ∈ d.keysOf v ↔ d.get? k = some v := by
  rw [keysOf, List.mem_map, get?_eq_some]
  constructor
  · rintro ⟨⟨l, w⟩, he, rfl⟩
    rw [List.mem_filter, decide_eq_true_eq] at he
    obtain ⟨he, rfl⟩ := he
    exact he
  · intro h
    exact ⟨(k, v), List.mem_filter.mpr ⟨h, decide_eq_true rfl⟩, rfl⟩

/-- Writing a value adds a key that holds it, unless the key held it already. -/
theorem length_keysOf_set [DecidableEq ν] {d : Dict κ ν} {k : κ} {v : ν} :
    ((d.set k v).keysOf v).length =
      (d.keysOf v).length + if d.get? k = some v then 0 else 1 := by
  have hentries : ∀ es : List (κ × ν), ((setEntries k v es).filter fun e => e.2 = v).length =
      (es.filter fun e => e.2 = v).length + if find k es = some v then 0 else 1 := by
    intro es
    induction es with
    | nil => simp [setEntries]
    | cons e es ih =>
      obtain ⟨l, w⟩ := e
      by_cases hl : l = k
      · by_cases hw : w = v
        · simp [setEntries, hl, hw]
        · simp [setEntries, hl, hw]
      · rw [setEntries, if_neg hl, find_cons, if_neg hl]
        by_cases hw : w = v
        · simp only [List.filter_cons, hw, decide_true, if_true, List.length_cons, ih]
          omega
        · simp only [List.filter_cons, hw, decide_false, Bool.false_eq_true, if_false, ih]
  simp only [keysOf, List.length_map]
  exact hentries d.entries

/-- `dict(pairs)`: later pairs overwrite earlier ones. -/
def ofPairs (es : List (κ × ν)) : Dict κ ν := es.foldl (fun d e => d.set e.1 e.2) empty

/-- A dictionary built from pairs holds only values of pairs. -/
theorem mem_of_get?_ofPairs {es : List (κ × ν)} {k : κ} {v : ν}
    (h : (ofPairs es).get? k = some v) : (k, v) ∈ es := by
  have hfold : ∀ (es : List (κ × ν)) (d : Dict κ ν),
      (es.foldl (fun d e => d.set e.1 e.2) d).get? k = some v →
      (k, v) ∈ es ∨ d.get? k = some v := by
    intro es
    induction es with
    | nil => exact fun d h => .inr h
    | cons e es ih =>
      intro d h
      rcases ih _ h with hmem | hset
      · exact .inl (List.mem_cons_of_mem e hmem)
      · rw [get?_set] at hset
        split at hset
        · next hk =>
          cases hset
          subst hk
          exact .inl List.mem_cons_self
        · exact .inr hset
  rcases hfold es empty h with hmem | hempty
  · exact hmem
  · cases hempty

theorem setEntries_of_notMem {k : κ} {v : ν} {es : List (κ × ν)} (h : k ∉ es.map Prod.fst) :
    setEntries k v es = es ++ [(k, v)] := by
  induction es with
  | nil => rfl
  | cons e es ih =>
    obtain ⟨l, w⟩ := e
    rw [List.map_cons, List.mem_cons, not_or] at h
    rw [setEntries, if_neg (Ne.symm h.1), ih h.2, List.cons_append]

/-- Setting new keys one after the other appends their entries. -/
theorem entries_foldl_set {es : List (κ × ν)} {d : Dict κ ν}
    (h : ((d.entries ++ es).map Prod.fst).Nodup) :
    (es.foldl (fun d e => d.set e.1 e.2) d).entries = d.entries ++ es := by
  induction es generalizing d with
  | nil => simp
  | cons e es ih =>
    have hnew : e.1 ∉ d.entries.map Prod.fst := by
      rw [List.map_append, List.nodup_append] at h
      intro hmem
      exact h.2.2 _ hmem _ (List.mem_map_of_mem List.mem_cons_self) rfl
    have hset : (d.set e.1 e.2).entries = d.entries ++ [e] := setEntries_of_notMem hnew
    rw [List.foldl_cons, ih]
    · rw [hset, List.append_assoc]
      rfl
    · rw [hset, List.append_assoc]
      exact h

/-- A dictionary built from pairs without repeated keys is looked up like the pairs. -/
theorem get?_ofPairs {es : List (κ × ν)} (h : (es.map Prod.fst).Nodup) {k : κ} :
    (ofPairs es).get? k = find k es := by
  rw [get?, ofPairs, entries_foldl_set]
  · rfl
  · exact h

/-- A dictionary with a value for each of some keys. -/
theorem get?_ofPairs_map {f : κ → ν} {ks : List κ} (h : ks.Nodup) {k : κ} :
    (ofPairs (ks.map fun l => (l, f l))).get? k = if k ∈ ks then some (f k) else none := by
  have hkeys : (ks.map fun l => (l, f l)).map Prod.fst = ks := by
    rw [List.map_map]
    exact List.map_id ks
  rw [get?_ofPairs (hkeys.symm ▸ h)]
  clear h hkeys
  induction ks with
  | nil => rfl
  | cons l ks ih =>
    by_cases hl : l = k
    · subst hl
      simp
    · simp [hl, Ne.symm hl, ih]

/-- Looking up what was listed key by key. -/
theorem find_filterMap {f : κ → Option ν} {k : κ} {ks : List κ} :
    find k (ks.filterMap fun l => (f l).map fun v => (l, v)) = if k ∈ ks then f k else none := by
  induction ks with
  | nil => rfl
  | cons l ks ih =>
    by_cases hl : l = k
    · subst hl
      cases hv : f l with
      | some v => simp [hv]
      | none =>
        rw [hv] at ih
        simp [hv, ih]
    · cases hv : f l with
      | some v => simp [hv, hl, Ne.symm hl, ih]
      | none => simp [hv, Ne.symm hl, ih]

omit [DecidableEq κ] in
/-- What is listed key by key lists a key no more often than the keys do. -/
theorem nodup_filterMap {f : κ → Option ν} {ks : List κ} (h : ks.Nodup) :
    ((ks.filterMap fun l => (f l).map fun v => (l, v)).map Prod.fst).Nodup := by
  have hkeys : ∀ ks : List κ, (ks.filterMap fun l => (f l).map fun v => (l, v)).map Prod.fst =
      ks.filter fun l => (f l).isSome := by
    intro ks
    induction ks with
    | nil => rfl
    | cons l ks ih =>
      cases hv : f l with
      | some v => simp [hv, ih]
      | none => simp [hv, ih]
  rw [hkeys]
  exact h.filter _

omit [DecidableEq κ] in
/-- What is computed key by key has the keys, when every value knows its key. -/
theorem keys_of_forall₂ {R : κ → ν → Prop} {name : ν → κ} {ks : List κ} {vs : List ν}
    (h : List.Forall₂ R ks vs) (hname : ∀ k v, R k v → name v = k) :
    (vs.map fun v => (name v, v)).map Prod.fst = ks := by
  induction h with
  | nil => rfl
  | @cons l v ks vs hv _ ih => rw [List.map_cons, List.map_cons, ih, hname l v hv]

/-- Looking up what was computed key by key, when every value knows its key. -/
theorem find_of_forall₂ {R : κ → ν → Prop} {name : ν → κ} {ks : List κ} {vs : List ν}
    (h : List.Forall₂ R ks vs) (hname : ∀ k v, R k v → name v = k) (k : κ) :
    (k ∈ ks → ∃ v, R k v ∧ find k (vs.map fun v => (name v, v)) = some v) ∧
      (k ∉ ks → find k (vs.map fun v => (name v, v)) = none) := by
  induction h with
  | nil => exact ⟨fun h => (by cases h), fun _ => rfl⟩
  | @cons l v ks vs hv _ ih =>
    have hl : name v = l := hname l v hv
    rw [List.map_cons, find_cons, hl]
    by_cases hk : l = k
    · subst hk
      exact ⟨fun _ => ⟨v, hv, if_pos rfl⟩, fun hmem => absurd List.mem_cons_self hmem⟩
    · rw [if_neg hk]
      refine ⟨fun hmem => ih.1 ?_, fun hmem => ih.2 fun h => hmem (List.mem_cons_of_mem l h)⟩
      exact (List.mem_cons.mp hmem).resolve_left (Ne.symm hk)

/-- Rebuilding a dictionary from its entries gives it back. -/
theorem ofPairs_entries (d : Dict κ ν) : ofPairs d.entries = d := by
  refine ext_entries ?_
  rw [ofPairs, entries_foldl_set]
  · rfl
  · exact d.nodup

end Lookup

/-- The dictionary with every value changed by `f`. -/
def mapValues (f : κ → ν → ω) (d : Dict κ ν) : Dict κ ω where
  entries := d.entries.map fun e => (e.1, f e.1 e.2)
  nodup := by
    rw [List.map_map]
    exact d.nodup

/-- The dictionary without the keys that fail `p`. -/
def filterKeys (p : κ → Bool) (d : Dict κ ν) : Dict κ ν where
  entries := d.entries.filter fun e => p e.1
  nodup := d.nodup.sublist (List.filter_sublist.map Prod.fst)

/-- Leaving out other keys does not change what is found. -/
theorem find_filter [DecidableEq κ] {p : κ → Bool} {k : κ} {es : List (κ × ν)} (hk : p k = true) :
    find k (es.filter fun e => p e.1) = find k es := by
  induction es with
  | nil => rfl
  | cons e es ih =>
    obtain ⟨l, w⟩ := e
    rw [List.filter_cons, find_cons]
    by_cases hl : l = k
    · subst hl
      rw [if_pos hk, find_cons, if_pos rfl, if_pos rfl]
    · by_cases hp : p l = true
      · rw [if_pos hp, find_cons, if_neg hl, if_neg hl, ih]
      · rw [if_neg hp, if_neg hl, ih]

theorem get?_filterKeys [DecidableEq κ] {p : κ → Bool} {d : Dict κ ν} {k : κ} {v : ν} :
    (d.filterKeys p).get? k = some v ↔ d.get? k = some v ∧ p k = true := by
  rw [get?_eq_some, get?_eq_some]
  exact List.mem_filter

/-- The dictionary without the entries that fail `p`. -/
def filterEntries (p : κ → ν → Bool) (d : Dict κ ν) : Dict κ ν where
  entries := d.entries.filter fun e => p e.1 e.2
  nodup := d.nodup.sublist (List.filter_sublist.map Prod.fst)

theorem get?_filterEntries [DecidableEq κ] {p : κ → ν → Bool} {d : Dict κ ν} {k : κ} {v : ν} :
    (d.filterEntries p).get? k = some v ↔ d.get? k = some v ∧ p k v = true := by
  rw [get?_eq_some, get?_eq_some]
  exact List.mem_filter

/-- All keys are left exactly when every entry is. -/
theorem keys_filterEntries {p : κ → ν → Bool} {d : Dict κ ν} :
    (d.filterEntries p).keys = d.keys ↔ ∀ e ∈ d.entries, p e.1 e.2 = true := by
  constructor
  · intro h
    have hlength := congrArg List.length h
    rw [keys, keys, List.length_map, List.length_map] at hlength
    exact List.length_filter_eq_length_iff.mp hlength
  · intro h
    exact congrArg (List.map Prod.fst) (List.filter_eq_self.mpr h)

theorem find_map [DecidableEq κ] {f : κ → ν → ω} {k : κ} {es : List (κ × ν)} :
    find k (es.map fun e => (e.1, f e.1 e.2)) = (find k es).map (f k) := by
  induction es with
  | nil => rfl
  | cons e es ih =>
    obtain ⟨l, w⟩ := e
    rw [List.map_cons, find_cons, find_cons]
    by_cases hl : l = k
    · subst hl
      simp
    · rw [if_neg hl, if_neg hl, ih]

theorem get?_mapValues [DecidableEq κ] {f : κ → ν → ω} {d : Dict κ ν} {k : κ} :
    (d.mapValues f).get? k = (d.get? k).map (f k) := find_map

end Dict

/-! ## First occurrences -/

/-- `dict.fromkeys(xs)` as a list: the first occurrence of each element. -/
def uniqueInOrder {α : Type u} [DecidableEq α] : List α → List α
  | [] => []
  | x :: xs => x :: (uniqueInOrder xs).filter (· ≠ x)

section UniqueInOrder

variable {α : Type u} [DecidableEq α]

theorem mem_uniqueInOrder {x : α} {xs : List α} : x ∈ uniqueInOrder xs ↔ x ∈ xs := by
  induction xs with
  | nil => simp [uniqueInOrder]
  | cons y ys ih =>
    by_cases h : x = y
    · simp [uniqueInOrder, h]
    · simp [uniqueInOrder, h, ih]

theorem nodup_uniqueInOrder (xs : List α) : (uniqueInOrder xs).Nodup := by
  induction xs with
  | nil => exact List.nodup_nil
  | cons y ys ih =>
    refine List.nodup_cons.mpr ⟨?_, ih.filter _⟩
    simp

/-- A list without repetitions stays as it is. -/
theorem uniqueInOrder_eq_self {xs : List α} (h : xs.Nodup) : uniqueInOrder xs = xs := by
  induction xs with
  | nil => rfl
  | cons y ys ih =>
    obtain ⟨hy, hys⟩ := List.nodup_cons.mp h
    rw [uniqueInOrder, ih hys, List.filter_eq_self.mpr]
    intro x hx
    simp only [ne_eq, decide_eq_true_eq]
    rintro rfl
    exact hy hx

end UniqueInOrder
