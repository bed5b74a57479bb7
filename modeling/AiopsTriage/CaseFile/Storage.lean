import AiopsTriage.CaseFile.Sealed
import AiopsTriage.Lib.Dict
import AiopsTriage.Outbox.Schema

/-!
# Stage files in the object store

A stage file is put into the object store under the key of its case and stage, once:
`put_if_absent` refuses a key that is taken. A second write of the same bytes is then
accepted as a repetition, and one of other bytes violates the invariant
(`persistWriteOnce_ok`).

A remote call may fail, and a write that fails may have been applied or not
(`Remote`).
-/

namespace AiopsTriage

/-- How a remote call goes. -/
inductive Remote where
  /-- it is answered -/
  | answered
  /-- it raises, after it was applied or without -/
  | fails (applied : Bool) (error : Failure)
  deriving DecidableEq, Repr

/-- Whether the call was applied. -/
def Remote.applied : Remote → Bool
  | .answered => true
  | .fails applied _ => applied

/-- Objects by key. -/
abbrev ObjectStore := Dict String Bytes

/-- `PutIfAbsentResult`. -/
inductive PutIfAbsentResult where
  /-- the object was written -/
  | created
  /-- the key was taken -/
  | exists
  deriving DecidableEq, Repr

/-- `S3ObjectStoreClient.put_if_absent`. -/
def putIfAbsent (objects : ObjectStore) (key : String) (body : Bytes) (remote : Remote) :
    Except Failure PutIfAbsentResult × ObjectStore :=
  let (result, objects') : PutIfAbsentResult × ObjectStore :=
    match objects.get? key with
    | none => (.created, objects.set key body)
    | some _ => (.exists, objects)
  match remote with
  | .answered => (.ok result, objects')
  | .fails true e => (.error e, objects')
  | .fails false e => (.error e, objects)

/-- `S3ObjectStoreClient.get_object_bytes`. -/
def getObjectBytes (objects : ObjectStore) (key : String) (remote : Remote) :
    Except Failure Bytes :=
  match remote with
  | .fails _ e => .error e
  | .answered =>
    match objects.get? key with
    | some body => .ok body
    | none => .error (.objectNotFound key)

/-- A read returns what is under the key. -/
theorem getObjectBytes_eq_ok {objects : ObjectStore} {key : String} {remote : Remote}
    {body : Bytes} (h : getObjectBytes objects key remote = .ok body) :
    objects.get? key = some body := by
  unfold getObjectBytes at h
  split at h
  · cases h
  · split at h
    · next found hfound =>
      cases h
      exact hfound
    · cases h

/-! ## Keys -/

/-- `CaseFileStageName`. -/
inductive CaseFileStageName where
  /-- the triage file -/
  | triage
  /-- the diagnosis file -/
  | diagnosis
  /-- the linkage file -/
  | linkage
  /-- the labels file -/
  | labels
  deriving DecidableEq, Repr

/-- The name of a stage in keys. -/
def CaseFileStageName.value : CaseFileStageName → String
  | .triage => "triage"
  | .diagnosis => "diagnosis"
  | .linkage => "linkage"
  | .labels => "labels"

/-- The key of a stage file of a case whose id is not blank. -/
def stageKey (caseId : String) (stage : CaseFileStageName) : String :=
  s!"cases/{PyText.strip caseId}/{stage.value}.json"

/-- `build_casefile_stage_object_key`. -/
def buildCasefileStageObjectKey (caseId : String) (stage : CaseFileStageName) :
    Except Failure String :=
  if PyText.isBlank caseId then .error (.valueError "case_id must not be empty")
  else .ok (stageKey caseId stage)

/-! ## Writing once -/

/-- `write_result`. -/
inductive WriteResult where
  /-- the file is new -/
  | created
  /-- it was there, with the same bytes -/
  | idempotent
  deriving DecidableEq, Repr

/-- How the two remote calls of a write go. -/
structure WriteFaults where
  /-- the put -/
  put : Remote := .answered
  /-- the read of an existing object -/
  get : Remote := .answered
  deriving DecidableEq, Repr

section Persist

variable {α : Type} (M : StageModel α) [Platform]

/-- The check of an object that was already there. -/
def checkExisting (stage : CaseFileStageName) (payload : Bytes) (stageHash : Hex64)
    (existing : Bytes) : Except Failure WriteResult :=
  if existing ≠ payload then
    .error (.invariantViolation
      "write-once invariant violation: existing object payload differs from retry payload")
  else
    match M.validateJson existing with
    | .error _ => .error (.invariantViolation
        s!"write-once invariant violation: existing object is not a valid CaseFile {stage.value} payload")
    | .ok existingCasefile =>
      if M.stageHash existingCasefile = stageHash then .ok .idempotent
      else .error (.invariantViolation
        "write-once invariant violation: existing object hash does not match retry hash")

/-- `_persist_casefile_payload_write_once`: the key of the file, and how it got there. -/
def persistPayload (objects : ObjectStore) (caseId : String) (stage : CaseFileStageName)
    (payload : Bytes) (stageHash : Hex64) (faults : WriteFaults) :
    Except Failure (String × WriteResult) × ObjectStore :=
  match buildCasefileStageObjectKey caseId stage with
  | .error e => (.error e, objects)
  | .ok key =>
    match putIfAbsent objects key payload faults.put with
    | (.error e, objects) => (.error e, objects)
    | (.ok .created, objects) => (.ok (key, .created), objects)
    | (.ok .exists, objects) =>
      match getObjectBytes objects key faults.get with
      | .error e => (.error e, objects)
      | .ok existing =>
        match checkExisting M stage payload stageHash existing with
        | .error e => (.error e, objects)
        | .ok result => (.ok (key, result), objects)

/-- `persist_casefile_triage_write_once` and its siblings: a record whose seal is wrong
is not written. -/
def persistWriteOnce (objects : ObjectStore) (caseId : String) (stage : CaseFileStageName) (a : α)
    (faults : WriteFaults) : Except Failure (String × WriteResult) × ObjectStore :=
  if M.stageHash a ≠ M.computeHash a then
    (.error (.invariantViolation
      s!"{stage.value}_hash does not match canonical serialized payload bytes before persistence"),
      objects)
  else persistPayload M objects caseId stage (M.serialize a) (M.stageHash a) faults

variable {M} {objects : ObjectStore} {caseId : String} {stage : CaseFileStageName} {a : α}

/-- The object store **takes** a file: its key is free, or holds the same bytes. -/
structure TakesFile (M : StageModel α) (objects : ObjectStore) (caseId : String)
    (stage : CaseFileStageName) (a : α) (faults : WriteFaults) : Prop where
  /-- the case has a name -/
  named : PyText.isBlank caseId = false
  /-- the put is answered -/
  put : faults.put = .answered
  /-- the key is free, or the same bytes can be read back -/
  object : objects.get? (stageKey caseId stage) = none ∨
    objects.get? (stageKey caseId stage) = some (M.serialize a) ∧ faults.get = .answered

variable {faults : WriteFaults}

/-- A file that is taken is then under its key. -/
theorem persistWriteOnce_of_takes (hsealed : M.stageHash a = M.computeHash a)
    (hsound : M.sound a = true) (h : TakesFile M objects caseId stage a faults) :
    ∃ result, persistWriteOnce M objects caseId stage a faults =
      (.ok (stageKey caseId stage, result),
        objects.set (stageKey caseId stage) (M.serialize a)) := by
  obtain ⟨hnamed, hput, hobject⟩ := h
  rw [persistWriteOnce, if_neg (not_not.mpr hsealed)]
  rcases hobject with hfree | ⟨hsame, hget⟩
  · refine ⟨.created, ?_⟩
    simp [persistPayload, buildCasefileStageObjectKey, hnamed, putIfAbsent, hput, hfree]
  · have hread : M.validateJson (M.serialize a) = .ok (M.wired a) := by
      have hfinal := (StageModel.validateJson_finalize (M := M) a (M.wired a)).mpr
      rw [StageModel.finalize_eq_self hsealed] at hfinal
      exact hfinal ⟨hsound, rfl⟩
    have hwired : M.stageHash (M.wired a) = M.stageHash a := by
      rw [← M.withHash_stageHash a, M.wired_withHash, M.stageHash_withHash, M.stageHash_withHash]
    -- the bytes are there already, so setting them changes nothing
    rw [Dict.set_eq_self hsame]
    refine ⟨.idempotent, ?_⟩
    simp [persistPayload, buildCasefileStageObjectKey, hnamed, putIfAbsent, hput, hsame,
      getObjectBytes, hget, checkExisting, hread, hwired]

/-- A write that returns was taken. -/
theorem takes_of_persistWriteOnce {path : String} {result : WriteResult} {objects' : ObjectStore}
    (h : persistWriteOnce M objects caseId stage a faults = (.ok (path, result), objects')) :
    TakesFile M objects caseId stage a faults := by
  unfold persistWriteOnce at h
  split at h
  · cases h
  unfold persistPayload buildCasefileStageObjectKey at h
  by_cases hblank : PyText.isBlank caseId = true
  · rw [if_pos hblank] at h
    cases h
  rw [if_neg hblank] at h
  have hnamed : PyText.isBlank caseId = false := Bool.eq_false_iff.mpr hblank
  cases hput : faults.put with
  | fails applied e => cases applied <;> simp [putIfAbsent, hput] at h
  | answered =>
    cases hobject : objects.get? (stageKey caseId stage) with
    | none => exact ⟨hnamed, hput, .inl hobject⟩
    | some existing =>
      cases hget : faults.get with
      | fails applied e => simp [putIfAbsent, hput, hobject, getObjectBytes, hget] at h
      | answered =>
        by_cases hsame : existing = M.serialize a
        · exact ⟨hnamed, hput, .inr ⟨hsame ▸ hobject, hget⟩⟩
        · simp [putIfAbsent, hput, hobject, getObjectBytes, hget, checkExisting, hsame] at h

/-- A write **creates** its file: the record is sealed, its case has a name, the key is free
and the put is applied. -/
structure CreatesFile (M : StageModel α) (objects : ObjectStore) (caseId : String)
    (stage : CaseFileStageName) (a : α) (faults : WriteFaults) : Prop where
  /-- the seal is right -/
  isSealed : M.stageHash a = M.computeHash a
  /-- the case has a name -/
  named : PyText.isBlank caseId = false
  /-- the key is free -/
  free : objects.get? (stageKey caseId stage) = none
  /-- the put is applied, whatever becomes of its answer -/
  applied : faults.put.applied = true

/-- A write that creates its file adds it to the store. -/
theorem persistWriteOnce_of_creates (h : CreatesFile M objects caseId stage a faults) :
    (persistWriteOnce M objects caseId stage a faults).2 =
      objects.set (stageKey caseId stage) (M.serialize a) := by
  obtain ⟨hsealed, hnamed, hfree, happlied⟩ := h
  rw [persistWriteOnce, if_neg (not_not.mpr hsealed)]
  rcases hput : faults.put with _ | ⟨applied, e⟩
  · simp [persistPayload, buildCasefileStageObjectKey, hnamed, putIfAbsent, hput, hfree]
  · rw [hput] at happlied
    obtain rfl : applied = true := happlied
    simp [persistPayload, buildCasefileStageObjectKey, hnamed, putIfAbsent, hput, hfree]

/-- Every other write leaves the store as it was. -/
theorem persistWriteOnce_of_not_creates (h : ¬CreatesFile M objects caseId stage a faults) :
    (persistWriteOnce M objects caseId stage a faults).2 = objects := by
  unfold persistWriteOnce
  split
  · rfl
  next hsealed =>
  unfold persistPayload buildCasefileStageObjectKey
  by_cases hblank : PyText.isBlank caseId = true
  · rw [if_pos hblank]
  rw [if_neg hblank]
  have hnot : ¬(objects.get? (stageKey caseId stage) = none ∧ faults.put.applied = true) :=
    fun hwrite => h ⟨not_not.mp hsealed, Bool.eq_false_iff.mpr hblank, hwrite.1, hwrite.2⟩
  -- nothing is put, and what the reads and checks then say does not touch the store
  have hput : (putIfAbsent objects (stageKey caseId stage) (M.serialize a) faults.put).2 =
      objects := by
    rw [putIfAbsent]
    rcases hobject : objects.get? (stageKey caseId stage) with _ | existing
    · rcases hremote : faults.put with _ | ⟨_ | _, e⟩
      · exact absurd ⟨hobject, by rw [hremote]; rfl⟩ hnot
      · rfl
      · exact absurd ⟨hobject, by rw [hremote]; rfl⟩ hnot
    · rcases faults.put with _ | ⟨_ | _, e⟩ <;> rfl
  rcases hcall : putIfAbsent objects (stageKey caseId stage) (M.serialize a) faults.put with
    ⟨answer, after⟩
  rw [hcall] at hput
  obtain rfl : after = objects := hput
  simp only [hcall]
  rcases answer with e | _ | _
  · rfl
  · rfl
  · simp only
    split
    · rfl
    · split
      · rfl
      · rfl

end Persist

end AiopsTriage
