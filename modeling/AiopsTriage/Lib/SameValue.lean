import AiopsTriage.Lib.DictOrder
import AiopsTriage.Lib.PyValue
import AiopsTriage.Lib.SortByKey

/-!
# Values up to the order of keys

Two dictionaries are equal in Python when they have the same keys with equal values, in whatever
order (`Dict.Rel`). Values that contain dictionaries are the same (`PyValue.Same`) when they are
equal but for that order. `PyValue.Plain` values are those that a document in JSON can have:
their dictionaries have texts for keys, and they contain no tuples.
-/

universe u v w

/-! ## Dictionaries -/

namespace Dict

variable {κ : Type u} {ν : Type v} {ω : Type w} [DecidableEq κ]

/-- Dictionaries with the same keys and related values. -/
def Rel (r : ν → ω → Prop) (d : Dict κ ν) (d' : Dict κ ω) : Prop :=
  ∀ k, Option.Rel r (d.get? k) (d'.get? k)

theorem Rel.trans {r : ν → ν → Prop} (hr : ∀ a b c, r a b → r b c → r a c) {d d' d'' : Dict κ ν}
    (h : Rel r d d') (h' : Rel r d' d'') : Rel r d d'' := by
  intro k
  have hk := h k
  have hk' := h' k
  revert hk hk'
  cases d.get? k <;> cases d'.get? k <;> cases d''.get? k <;> intro hk hk' <;> cases hk <;>
    cases hk'
  · exact .none
  · next h h' => exact .some (hr _ _ _ h h')

/-- Dictionaries that are looked up alike. -/
theorem rel_eq_iff {d d' : Dict κ ν} : Rel (· = ·) d d' ↔ ∀ k, d.get? k = d'.get? k := by
  refine forall_congr' fun k => ?_
  cases d.get? k <;> cases d'.get? k
  · exact ⟨fun _ => rfl, fun _ => .none⟩
  · exact ⟨nofun, nofun⟩
  · exact ⟨nofun, nofun⟩
  · constructor
    · rintro ⟨⟩
      next h => exact congrArg some h
    · intro h
      exact .some (Option.some.inj h)

/-- Changing values into related ones. -/
theorem rel_mapValues {r : ν → ω → Prop} {f : κ → ν → ω} {d : Dict κ ν}
    (h : ∀ e ∈ d.entries, r e.2 (f e.1 e.2)) : Rel r d (d.mapValues f) := by
  intro k
  rw [get?_mapValues]
  cases hk : d.get? k with
  | none => exact .none
  | some v => exact .some (h (k, v) (get?_eq_some.mp hk))

end Dict

/-! ## Values -/

namespace PyValue

/-- A value whose dictionaries have texts for keys, none twice, and which has no tuple in it. -/
inductive Plain : PyValue → Prop
  | scalar (x : PyScalar) : Plain (.scalar x)
  | list {items : List PyValue} (items_plain : ∀ v ∈ items, Plain v) : Plain (.list items)
  | dict {entries : List (PyScalar × PyValue)} (keys : ∀ e ∈ entries, ∃ key, e.1 = .str key)
      (nodup : (entries.map Prod.fst).Nodup) (values : ∀ e ∈ entries, Plain e.2) :
      Plain (.dict entries)

mutual

/-- `Plain`, computed. -/
def isPlain : PyValue → Bool
  | .scalar _ => true
  | .list items => arePlain items
  | .tuple _ => false
  | .dict entries => havePlainValues entries && decide (entries.map Prod.fst).Nodup

/-- `isPlain` of all items. -/
def arePlain : List PyValue → Bool
  | [] => true
  | item :: items => isPlain item && arePlain items

/-- `isPlain` of all values, with texts for keys. -/
def havePlainValues : List (PyScalar × PyValue) → Bool
  | [] => true
  | (.str _, value) :: entries => isPlain value && havePlainValues entries
  | _ :: _ => false

end

mutual

theorem isPlain_iff : ∀ v : PyValue, isPlain v = true ↔ Plain v
  | .scalar x => ⟨fun _ => .scalar x, fun _ => rfl⟩
  | .list items => by
    rw [isPlain, arePlain_iff items]
    constructor
    · exact .list
    · rintro ⟨⟩
      assumption
  | .tuple _ => ⟨nofun, nofun⟩
  | .dict entries => by
    rw [isPlain, Bool.and_eq_true, havePlainValues_iff entries, decide_eq_true_eq]
    constructor
    · rintro ⟨⟨hkeys, hvalues⟩, hnodup⟩
      exact .dict hkeys hnodup hvalues
    · intro h
      cases h with
      | dict hkeys hnodup hvalues => exact ⟨⟨hkeys, hvalues⟩, hnodup⟩

theorem arePlain_iff : ∀ items : List PyValue, arePlain items = true ↔ ∀ v ∈ items, Plain v
  | [] => ⟨fun _ => nofun, fun _ => rfl⟩
  | item :: items => by
    rw [arePlain, Bool.and_eq_true, isPlain_iff item, arePlain_iff items, List.forall_mem_cons]

theorem havePlainValues_iff : ∀ entries : List (PyScalar × PyValue),
    havePlainValues entries = true ↔
      (∀ e ∈ entries, ∃ key, e.1 = .str key) ∧ ∀ e ∈ entries, Plain e.2
  | [] => ⟨fun _ => ⟨nofun, nofun⟩, fun _ => rfl⟩
  | (key, value) :: entries => by
    rw [List.forall_mem_cons, List.forall_mem_cons]
    cases key with
    | str key =>
      rw [havePlainValues, Bool.and_eq_true, isPlain_iff value, havePlainValues_iff entries]
      simp only [PyScalar.str.injEq, exists_eq', true_and]
      exact and_left_comm
    | none => simp [havePlainValues]
    | bool _ => simp [havePlainValues]
    | int _ => simp [havePlainValues]
    | float _ => simp [havePlainValues]
    | other _ _ => simp [havePlainValues]

end

instance : DecidablePred Plain := fun v => decidable_of_iff (isPlain v = true) (isPlain_iff v)

/-- Values that are equal but for the order of keys. -/
inductive Same : PyValue → PyValue → Prop
  | scalar (x : PyScalar) : Same (.scalar x) (.scalar x)
  | list {xs ys : List PyValue} (length : xs.length = ys.length)
      (items : ∀ (i : Nat) v w, xs[i]? = some v → ys[i]? = some w → Same v w) :
      Same (.list xs) (.list ys)
  | tuple {xs ys : List PyValue} (length : xs.length = ys.length)
      (items : ∀ (i : Nat) v w, xs[i]? = some v → ys[i]? = some w → Same v w) :
      Same (.tuple xs) (.tuple ys)
  | dict {es fs : List (PyScalar × PyValue)}
      (keys : ∀ k, (Dict.find k es).isSome = (Dict.find k fs).isSome)
      (values : ∀ k v w, Dict.find k es = some v → Dict.find k fs = some w → Same v w) :
      Same (.dict es) (.dict fs)

/-- An item has one at its place in a list of the same length. -/
theorem exists_getElem? {α β : Type u} {xs : List α} {ys : List β} (h : xs.length = ys.length)
    {i : Nat} {x : α} (hx : xs[i]? = some x) : ∃ y, ys[i]? = some y := by
  obtain ⟨hi, -⟩ := List.getElem?_eq_some_iff.mp hx
  exact ⟨_, List.getElem?_eq_getElem (h ▸ hi)⟩

theorem Same.trans {u v w : PyValue} (h : Same u v) (h' : Same v w) : Same u w := by
  induction h generalizing w with
  | scalar x => exact h'
  | list length _ ih =>
    cases h' with
    | list length' items' =>
      refine .list (length.trans length') fun i x z hx hz => ?_
      obtain ⟨y, hy⟩ := exists_getElem? length hx
      exact ih i x y hx hy (items' i y z hy hz)
  | tuple length _ ih =>
    cases h' with
    | tuple length' items' =>
      refine .tuple (length.trans length') fun i x z hx hz => ?_
      obtain ⟨y, hy⟩ := exists_getElem? length hx
      exact ih i x y hx hy (items' i y z hy hz)
  | dict keys _ ih =>
    cases h' with
    | dict keys' values' =>
      refine .dict (fun k => (keys k).trans (keys' k)) fun k x z hx hz => ?_
      obtain ⟨y, hy⟩ := Option.isSome_iff_exists.mp ((keys k).symm.trans (by rw [hx]; rfl))
      exact ih k x y hx hy (values' k y z hy hz)

/-- Changing every item into the same value. -/
theorem same_list_map {f : PyValue → PyValue} {items : List PyValue}
    (h : ∀ v ∈ items, Same v (f v)) : Same (.list items) (.list (items.map f)) := by
  refine .list (List.length_map f).symm fun i v w hv hw => ?_
  rw [List.getElem?_map, hv, Option.map_some, Option.some.injEq] at hw
  exact hw ▸ h v (List.mem_of_getElem? hv)

/-- Changing every value of a dictionary into the same one, and the order of its keys. -/
theorem same_dict_of_perm {f : PyValue → PyValue} {es fs : List (PyScalar × PyValue)}
    (hnodup : (es.map Prod.fst).Nodup) (h : ∀ e ∈ es, Same e.2 (f e.2))
    (hperm : fs.Perm (es.map fun e => (e.1, f e.2))) : Same (.dict es) (.dict fs) := by
  have hkeys : ((es.map fun e => (e.1, f e.2)).map Prod.fst).Nodup := by
    rw [List.map_map]
    exact hnodup
  have hfind : ∀ k, Dict.find k fs = (Dict.find k es).map f := by
    intro k
    rw [← Dict.find_eq_of_perm hkeys hperm.symm k]
    exact Dict.find_map (f := fun _ => f)
  refine .dict (fun k => ?_) fun k v w hv hw => ?_
  · rw [hfind, Option.isSome_map]
  · rw [hfind, hv, Option.map_some, Option.some.injEq] at hw
    exact hw ▸ h (k, v) (Dict.mem_of_find hv)

end PyValue
