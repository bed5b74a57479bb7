import AiopsTriage.Lib.Codec
import AiopsTriage.Platform

/-!
# Sealed stage files

Every stage file of a case is **sealed**: one of its fields is the hash of its own
JSON bytes, taken with zeros in that field. A stage file is written once, and whoever
reads it checks the seal.

`StageModel` has what the functions on stage files use of the record: its codec, its
hash field, and what JSON text makes of it. A float that JSON text cannot hold comes
back as `null`; where the record has a typed float there, the file cannot be read back
(`sound`), and elsewhere the reader gets a record with `null` in its place (`wired`).

A sealed record is read back from its bytes exactly when it is sound
(`validateJson_finalize`).
-/

namespace AiopsTriage

open Json

/-- A record that is stored as a sealed file. -/
structure StageModel (α : Type) where
  /-- its name in error messages -/
  name : String
  /-- how it is dumped and validated -/
  codec : Codec α
  /-- the hash field -/
  stageHash : α → Hex64
  /-- `model_copy(update={hash_field: value})` -/
  withHash : α → Hex64 → α
  /-- whether every typed float is finite -/
  sound : α → Bool
  /-- the record after JSON text -/
  wired : α → α
  /-- the hash field is what it was set to -/
  stageHash_withHash : ∀ a h, stageHash (withHash a h) = h
  /-- setting the hash field twice -/
  withHash_withHash : ∀ a h h', withHash (withHash a h) h' = withHash a h'
  /-- setting the hash field to its value -/
  withHash_stageHash : ∀ a, withHash a (stageHash a) = a
  /-- soundness is not about the hash field -/
  sound_withHash : ∀ a h, sound (withHash a h) = sound a
  /-- JSON text does not touch the hash field -/
  wired_withHash : ∀ a h, wired (withHash a h) = withHash (wired a) h
  /-- a sound record is read back as the wired one -/
  wire_enc : ∀ a, sound a = true → wire (codec.enc a) = codec.enc (wired a)
  /-- only sound records are read back -/
  sound_of_dec : ∀ a b, codec.dec (wire (codec.enc a)) = .ok b → sound a = true

/-- `TRIAGE_HASH_PLACEHOLDER`, which all stages share. -/
def hashPlaceholder : Hex64 := ⟨String.ofList (List.replicate 64 '0'), by decide⟩

namespace StageModel

variable {α : Type} (M : StageModel α)

/-- `serialize_casefile_triage`, `serialize_casefile_stage`. -/
def serialize (a : α) : Bytes := .json (wire (M.codec.enc a))

variable [Platform]

/-- `_compute_casefile_hash`: the hash of the bytes with the placeholder in the hash
field. Validating the dump of a record gives the record back, so the record itself
stands for the revalidated one. -/
def computeHash (a : α) : Hex64 := sha256Hex (M.serialize (M.withHash a hashPlaceholder))

/-- `validate_casefile_stage_json`: the record, if its seal is right. Stored bytes that
are no JSON text are refused. -/
def validateJson : Bytes → Except Failure α
  | .json tree =>
    match M.codec.dec tree with
    | .error path => .error (.validationError M.name path)
    | .ok a =>
      if M.stageHash a = M.computeHash a then .ok a
      else .error (.valueError
        s!"{M.name} hash does not match canonical serialized payload bytes")
  | .utf8 _ => .error (.validationError M.name [])

/-- The record with its hash in its hash field. -/
def finalize (a : α) : α := M.withHash a (M.computeHash a)

/-! ## Seals -/

variable {M}

/-- The hash does not depend on the hash field. -/
theorem computeHash_withHash (a : α) (h : Hex64) : M.computeHash (M.withHash a h) = M.computeHash a := by
  rw [computeHash, M.withHash_withHash, computeHash]

/-- The hash of a sealed record is in its hash field. -/
theorem stageHash_finalize (a : α) : M.stageHash (M.finalize a) = M.computeHash (M.finalize a) := by
  rw [finalize, M.stageHash_withHash, computeHash_withHash]

/-- A record whose hash field is right is sealed. -/
theorem finalize_eq_self {a : α} (h : M.stageHash a = M.computeHash a) : M.finalize a = a := by
  rw [finalize, ← h, M.withHash_stageHash]

omit [Platform] in
/-- JSON text is read back as it is, whatever went through it before. -/
theorem wire_enc_wired {a : α} (h : M.sound a = true) :
    wire (M.codec.enc (M.wired a)) = M.codec.enc (M.wired a) := by
  rw [← M.wire_enc a h]
  exact wire_wire _

/-- A sound record and what is read back of it have the same hash. -/
theorem computeHash_wired {a : α} (h : M.sound a = true) :
    M.computeHash (M.wired a) = M.computeHash a := by
  have hsound : M.sound (M.withHash a hashPlaceholder) = true := (M.sound_withHash a _).trans h
  rw [computeHash, computeHash, serialize, serialize, ← M.wired_withHash, wire_enc_wired hsound,
    M.wire_enc _ hsound]

/-- After JSON text the seal of a record is still right. -/
theorem stageHash_wired {a : α} (h : M.sound a = true) :
    M.stageHash (M.wired (M.finalize a)) = M.computeHash (M.wired (M.finalize a)) := by
  have hsound : M.sound (M.finalize a) = true := (M.sound_withHash a _).trans h
  rw [computeHash_wired hsound, ← stageHash_finalize]
  rw [finalize, M.wired_withHash, M.stageHash_withHash, M.stageHash_withHash]

/-- **Reading back a seal**: the bytes of a sealed record are accepted exactly when the
record is sound, and then the reader gets the record after JSON text. -/
theorem validateJson_finalize (a b : α) :
    M.validateJson (M.serialize (M.finalize a)) = .ok b ↔ M.sound a = true ∧ b = M.wired (M.finalize a) := by
  have hsealed : M.sound (M.finalize a) = M.sound a := M.sound_withHash a _
  simp only [serialize, validateJson]
  constructor
  · intro h
    split at h
    · cases h
    · next c hdec =>
      have hsound : M.sound (M.finalize a) = true := M.sound_of_dec _ _ hdec
      rw [M.wire_enc _ hsound, M.codec.dec_enc] at hdec
      cases hdec
      split at h
      · cases h
        exact ⟨hsealed ▸ hsound, rfl⟩
      · cases h
  · rintro ⟨hsound, rfl⟩
    have hsound : M.sound (M.finalize a) = true := hsealed.trans hsound
    rw [M.wire_enc _ hsound, M.codec.dec_enc]
    simp only [if_pos (stageHash_wired (hsealed ▸ hsound))]

end StageModel

end AiopsTriage
