import AiopsTriage.Lib.Json

/-!
# Trees that JSON text keeps apart

JSON text has `null` for `None`, for infinities and for not-a-number. A tree without any of them is
the only one with its text (`Json.eq_of_wire_eq`), and in every other tree each of them can be put
in another's place without a change of the text (`Json.alter`, `Json.wire_alter`).
-/

/-- Another float that is written the same, of those that are written as `null`. -/
def PyFloat.alter : PyFloat → PyFloat
  | .finite q => .finite q
  | .nan => .posInf
  | .posInf => .nan
  | .negInf => .nan

theorem Json.wire_float_alter (x : PyFloat) :
    Json.wire (.float x.alter) = Json.wire (.float x) := by
  cases x <;> rfl

theorem PyFloat.isFinite_of_alter {x : PyFloat} (h : x.alter = x) : x.isFinite = true := by
  cases x with
  | finite q => rfl
  | _ => cases h

namespace Json

mutual

/-- No part of the tree is written as `null`. -/
def hasNoNull : Json → Bool
  | .null => false
  | .float x => x.isFinite
  | .arr xs => hasNoNullItems xs
  | .obj fs => hasNoNullFields fs
  | _ => true

/-- `hasNoNull` on the items of a list. -/
def hasNoNullItems : List Json → Bool
  | [] => true
  | x :: xs => hasNoNull x && hasNoNullItems xs

/-- `hasNoNull` on the entries of an object. -/
def hasNoNullFields : List (String × Json) → Bool
  | [] => true
  | (_, v) :: fs => hasNoNull v && hasNoNullFields fs

end

mutual

/-- A tree without `null` is the only one with its text. -/
theorem eq_of_wire_eq : ∀ j' j : Json, hasNoNull j = true → wire j' = wire j → j' = j
  | j', .bool b, _, h => by
    cases j' with
    | float x => rw [wire] at h; split at h <;> cases h
    | _ => first | exact h | cases h
  | j', .int n, _, h => by
    cases j' with
    | float x => rw [wire] at h; split at h <;> cases h
    | _ => first | exact h | cases h
  | j', .str s, _, h => by
    cases j' with
    | float x => rw [wire] at h; split at h <;> cases h
    | _ => first | exact h | cases h
  | j', .float x, hnull, h => by
    have hx : wire (.float x) = .float x := if_pos hnull
    rw [hx] at h
    cases j' with
    | float y =>
      rw [wire] at h
      split at h
      · exact h
      · cases h
    | _ => cases h
  | j', .arr xs, hnull, h => by
    cases j' with
    | float y => rw [wire] at h; split at h <;> cases h
    | arr ys => rw [eq_of_wireItems_eq ys xs hnull (Json.arr.inj h)]
    | _ => cases h
  | j', .obj fs, hnull, h => by
    cases j' with
    | float y => rw [wire] at h; split at h <;> cases h
    | obj gs => rw [eq_of_wireFields_eq gs fs hnull (Json.obj.inj h)]
    | _ => cases h

theorem eq_of_wireItems_eq :
    ∀ ys xs : List Json, hasNoNullItems xs = true → wireItems ys = wireItems xs → ys = xs
  | [], [], _, _ => rfl
  | [], _ :: _, _, h => by cases h
  | _ :: _, [], _, h => by cases h
  | y :: ys, x :: xs, hnull, h => by
    rw [hasNoNullItems, Bool.and_eq_true] at hnull
    obtain ⟨hhead, htail⟩ := List.cons.inj h
    rw [eq_of_wire_eq y x hnull.1 hhead, eq_of_wireItems_eq ys xs hnull.2 htail]

theorem eq_of_wireFields_eq :
    ∀ gs fs : List (String × Json), hasNoNullFields fs = true → wireFields gs = wireFields fs →
      gs = fs
  | [], [], _, _ => rfl
  | [], (_, _) :: _, _, h => by cases h
  | (_, _) :: _, [], _, h => by cases h
  | (l, w) :: gs, (k, v) :: fs, hnull, h => by
    rw [hasNoNullFields, Bool.and_eq_true] at hnull
    obtain ⟨hhead, htail⟩ := List.cons.inj h
    obtain ⟨hkey, hvalue⟩ := Prod.mk.inj hhead
    rw [hkey, eq_of_wire_eq w v hnull.1 hvalue, eq_of_wireFields_eq gs fs hnull.2 htail]

end

mutual

/-- The tree with another value in each place that is written as `null`. -/
def alter : Json → Json
  | .null => .float .nan
  | .float x => if x.isFinite then .float x else .null
  | .arr xs => .arr (alterItems xs)
  | .obj fs => .obj (alterFields fs)
  | .bool b => .bool b
  | .int n => .int n
  | .str s => .str s

/-- `alter` on the items of a list. -/
def alterItems : List Json → List Json
  | [] => []
  | x :: xs => alter x :: alterItems xs

/-- `alter` on the entries of an object. -/
def alterFields : List (String × Json) → List (String × Json)
  | [] => []
  | (k, v) :: fs => (k, alter v) :: alterFields fs

end

mutual

/-- The text does not change. -/
theorem wire_alter : ∀ j : Json, wire (alter j) = wire j
  | .null | .bool _ | .int _ | .str _ => rfl
  | .float x => by
    rw [alter]
    split
    · rfl
    · next h => exact (if_neg h).symm
  | .arr xs => by
    rw [alter, wire, wire, wireItems_alterItems xs]
  | .obj fs => by
    rw [alter, wire, wire, wireFields_alterFields fs]

theorem wireItems_alterItems : ∀ xs : List Json, wireItems (alterItems xs) = wireItems xs
  | [] => rfl
  | x :: xs => by
    rw [alterItems, wireItems, wireItems, wire_alter x, wireItems_alterItems xs]

theorem wireFields_alterFields :
    ∀ fs : List (String × Json), wireFields (alterFields fs) = wireFields fs
  | [] => rfl
  | (k, v) :: fs => by
    rw [alterFields, wireFields, wireFields, wire_alter v, wireFields_alterFields fs]

end

mutual

/-- The tree changes unless it has no such place. -/
theorem hasNoNull_of_alter : ∀ j : Json, alter j = j → hasNoNull j = true
  | .null, h => by cases h
  | .bool _, _ | .int _, _ | .str _, _ => rfl
  | .float x, h => by
    rw [alter] at h
    split at h
    · next hx => exact hx
    · cases h
  | .arr xs, h => hasNoNullItems_of_alterItems xs (Json.arr.inj h)
  | .obj fs, h => hasNoNullFields_of_alterFields fs (Json.obj.inj h)

theorem hasNoNullItems_of_alterItems :
    ∀ xs : List Json, alterItems xs = xs → hasNoNullItems xs = true
  | [], _ => rfl
  | x :: xs, h => by
    obtain ⟨hhead, htail⟩ := List.cons.inj h
    rw [hasNoNullItems, hasNoNull_of_alter x hhead, hasNoNullItems_of_alterItems xs htail]
    rfl

theorem hasNoNullFields_of_alterFields :
    ∀ fs : List (String × Json), alterFields fs = fs → hasNoNullFields fs = true
  | [], _ => rfl
  | (k, v) :: fs, h => by
    obtain ⟨hhead, htail⟩ := List.cons.inj h
    rw [hasNoNullFields, hasNoNull_of_alter v (Prod.mk.inj hhead).2,
      hasNoNullFields_of_alterFields fs htail]
    rfl

end

end Json
