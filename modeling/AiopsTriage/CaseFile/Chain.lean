import AiopsTriage.CaseFile.Stages
import AiopsTriage.CaseFile.Storage

/-!
# The hash chain of a case

The stage functions write a diagnosis, linkage or labels file only after they have read
the files it names: the triage file must be there and have the hash the record gives, and
so must the diagnosis file, when the record names one (`validateStageHashes`).

A file is **linked** when the files of its case have the hashes it gives (`Linked`), and
the **hash chain** of a store holds when every stored file is linked (`HashChain`).
Objects are never replaced, so a store only **grows**, and what is linked stays linked
(`Linked.mono`). When a write adds a file to a store whose chain holds, the chain then holds
exactly when that file is linked (`hashChain_set_iff`).
-/

namespace AiopsTriage

/-! ## Keys -/

/-- Keys of different stages are different, and those of one stage differ when the cases
do. -/
theorem stageKey_inj {caseId caseId' : String} {stage stage' : CaseFileStageName}
    (h : stageKey caseId stage = stageKey caseId' stage') :
    stage = stage' ∧ PyText.strip caseId = PyText.strip caseId' := by
  -- read from their ends, keys differ in the name of the stage first
  have hchars := congrArg (fun s => s.toList.reverse) h
  simp only [stageKey, toString, String.toList_append, List.reverse_append,
    List.append_cancel_left_eq, List.append_assoc] at hchars
  cases stage <;> cases stage' <;> simp [CaseFileStageName.value] at hchars
  all_goals exact ⟨rfl, String.toList_inj.mp hchars⟩

/-- Only the stripped case id counts. -/
theorem stageKey_congr {caseId caseId' : String} (h : PyText.strip caseId = PyText.strip caseId')
    (stage : CaseFileStageName) : stageKey caseId stage = stageKey caseId' stage := by
  rw [stageKey, stageKey, h]

/-! ## Stores that grow -/

/-- Every object of a store is still there in a later one. -/
def ObjectStore.Grows (objects objects' : ObjectStore) : Prop :=
  ∀ key body, objects.get? key = some body → objects'.get? key = some body

theorem ObjectStore.Grows.refl (objects : ObjectStore) : objects.Grows objects := fun _ _ h => h

/-- Writing under a free key replaces nothing. -/
theorem ObjectStore.grows_set {objects : ObjectStore} {key : String} {body : Bytes}
    (hfree : objects.get? key = none) : objects.Grows (objects.set key body) := by
  intro key' body' hbody
  rw [Dict.get?_set]
  split
  · next hkey =>
    subst hkey
    rw [hfree] at hbody
    cases hbody
  · exact hbody

/-! ## Reading and checking -/

/-- The stages after the triage, of which `CasefileStagePersistResult.stage` is one. -/
inductive AppendedStage where
  /-- the diagnosis file -/
  | diagnosis
  /-- the linkage file -/
  | linkage
  /-- the labels file -/
  | labels
  deriving DecidableEq, Repr

namespace AppendedStage

/-- Its name in keys. -/
def name : AppendedStage → CaseFileStageName
  | .diagnosis => .diagnosis
  | .linkage => .linkage
  | .labels => .labels

theorem name_inj {s s' : AppendedStage} (h : s.name = s'.name) : s = s' := by
  cases s <;> cases s' <;> first | rfl | cases h

theorem name_ne_triage (s : AppendedStage) : s.name ≠ .triage := by
  cases s <;> exact CaseFileStageName.noConfusion

/-- The record of its file. -/
abbrev Payload : AppendedStage → Type
  | .diagnosis => CaseFileDiagnosisV1
  | .linkage => CaseFileLinkageV1
  | .labels => CaseFileLabelsV1

/-- Its file as a sealed file. -/
def model : (s : AppendedStage) → StageModel s.Payload
  | .diagnosis => diagnosisModel
  | .linkage => linkageModel
  | .labels => labelsModel

/-- The case of a record. -/
def caseId : (s : AppendedStage) → s.Payload → String
  | .diagnosis => CaseFileDiagnosisV1.caseId
  | .linkage => CaseFileLinkageV1.caseId
  | .labels => CaseFileLabelsV1.caseId

/-- The `triage_hash` of a record. -/
def triageHash : (s : AppendedStage) → s.Payload → Hex64
  | .diagnosis => CaseFileDiagnosisV1.triageHash
  | .linkage => CaseFileLinkageV1.triageHash
  | .labels => CaseFileLabelsV1.triageHash

/-- The diagnosis file a record names; the diagnosis file itself names none. -/
def namedDiagnosis : (s : AppendedStage) → s.Payload → Option Hex64
  | .diagnosis => fun _ => none
  | .linkage => CaseFileLinkageV1.diagnosisHash
  | .labels => CaseFileLabelsV1.diagnosisHash

theorem sound (s : AppendedStage) (a : s.Payload) : s.model.sound a = true := by
  cases s <;> rfl

theorem wired (s : AppendedStage) (a : s.Payload) : s.model.wired a = a := by
  cases s <;> rfl

end AppendedStage

/-- How the reads of the checks go. -/
structure ReadFaults where
  /-- of the triage file -/
  triage : Remote := .answered
  /-- of the diagnosis file -/
  diagnosis : Remote := .answered
  deriving DecidableEq, Repr

section Chain

variable [Platform]

/-- `read_casefile_stage_json_or_none`. -/
def readCasefileStageJsonOrNone {α : Type} (M : StageModel α) (objects : ObjectStore)
    (caseId : String) (stage : CaseFileStageName) (remote : Remote) : Except Failure (Option α) :=
  match buildCasefileStageObjectKey caseId stage with
  | .error e => .error e
  | .ok key =>
    match getObjectBytes objects key remote with
    | .ok payload => some <$> M.validateJson payload
    | .error (.objectNotFound _) => .ok none
    | .error e => .error e

/-- `_validate_diagnosis_stage_hashes` and its siblings. -/
def validateStageHashes (s : AppendedStage) (objects : ObjectStore) (a : s.Payload)
    (faults : ReadFaults) : Except Failure Unit := do
  raiseIf (s.model.stageHash a ≠ s.model.computeHash a)
    (.invariantViolation s!"{s.name.value}_hash mismatch before stage persistence")
  let triage ← readCasefileStageJsonOrNone triageModel objects (s.caseId a) .triage faults.triage
  match triage with
  | none => .error (.invariantViolation s!"{s.name.value} stage requires triage.json to exist")
  | some triage =>
    raiseIf (s.triageHash a ≠ triageModel.computeHash triage)
      (.invariantViolation
        s!"{s.name.value} stage triage_hash mismatch (tamper or stale dependency)")
    match s.namedDiagnosis a with
    | none => return ()
    | some diagnosisHash =>
      let diagnosis ← readCasefileStageJsonOrNone diagnosisModel objects (s.caseId a) .diagnosis
        faults.diagnosis
      match diagnosis with
      | none => .error (.invariantViolation
          s!"{s.name.value} stage diagnosis_hash was provided but diagnosis.json is absent")
      | some diagnosis =>
        raiseIf (diagnosisHash ≠ diagnosisModel.computeHash diagnosis)
          (.invariantViolation s!"{s.name.value} stage diagnosis_hash mismatch")

/-- The second half of a stage function: the write, when the checks have passed. -/
def persistAppended (s : AppendedStage) (objects : ObjectStore) (a : s.Payload)
    (faults : WriteFaults) : Except Failure String × ObjectStore :=
  match persistWriteOnce s.model objects (s.caseId a) s.name a faults with
  | (.error e, objects) => (.error e, objects)
  | (.ok (objectPath, _), objects) => (.ok objectPath, objects)

/-- The stage functions, with nobody else between the checks and the write. -/
def persistCasefileStage (s : AppendedStage) (objects : ObjectStore) (a : s.Payload)
    (reads : ReadFaults) (writes : WriteFaults) : Except Failure String × ObjectStore :=
  match validateStageHashes s objects a reads with
  | .error e => (.error e, objects)
  | .ok () => persistAppended s objects a writes

/-- `persist_casefile_diagnosis_stage`. -/
def persistCasefileDiagnosisStage (objects : ObjectStore) (casefile : CaseFileDiagnosisV1)
    (reads : ReadFaults) (writes : WriteFaults) : Except Failure String × ObjectStore :=
  persistCasefileStage .diagnosis objects casefile reads writes

/-- `persist_casefile_linkage_stage`. -/
def persistCasefileLinkageStage (objects : ObjectStore) (casefile : CaseFileLinkageV1)
    (reads : ReadFaults) (writes : WriteFaults) : Except Failure String × ObjectStore :=
  persistCasefileStage .linkage objects casefile reads writes

/-- `persist_casefile_labels_stage`. -/
def persistCasefileLabelsStage (objects : ObjectStore) (casefile : CaseFileLabelsV1)
    (reads : ReadFaults) (writes : WriteFaults) : Except Failure String × ObjectStore :=
  persistCasefileStage .labels objects casefile reads writes

/-! ## Links -/

/-- The file of a stage of a case is there, and this is what its readers get. -/
def Stored {α : Type} (M : StageModel α) (objects : ObjectStore) (caseId : String)
    (stage : CaseFileStageName) (a : α) : Prop :=
  ∃ body, objects.get? (stageKey caseId stage) = some body ∧ M.validateJson body = .ok a

/-- The triage file of a case is there, with this hash. -/
def TriageStored (objects : ObjectStore) (caseId : String) (h : Hex64) : Prop :=
  ∃ triage, Stored triageModel objects caseId .triage triage ∧ h = triage.triageHash

/-- The files of a case have the hashes a record gives. -/
structure Linked (s : AppendedStage) (objects : ObjectStore) (caseId : String) (a : s.Payload) :
    Prop where
  /-- the triage file -/
  triage : TriageStored objects caseId (s.triageHash a)
  /-- the diagnosis file, when the record names one -/
  diagnosis : ∀ h, s.namedDiagnosis a = some h →
    ∃ d, Stored diagnosisModel objects caseId .diagnosis d ∧ h = diagnosisModel.computeHash d

/-- **The hash chain**: every diagnosis, linkage and labels file of every case can be read
and is linked. -/
def HashChain (objects : ObjectStore) : Prop :=
  ∀ caseId (s : AppendedStage) body, objects.get? (stageKey caseId s.name) = some body →
    ∃ a, s.model.validateJson body = .ok a ∧ Linked s objects caseId a

variable {objects objects' : ObjectStore} {caseId caseId' : String} {s : AppendedStage}
  {a : s.Payload}

theorem Stored.mono {α : Type} {M : StageModel α} {stage : CaseFileStageName} {a : α}
    (h : Stored M objects caseId stage a) (hgrows : objects.Grows objects') :
    Stored M objects' caseId stage a := by
  obtain ⟨body, hbody, hread⟩ := h
  exact ⟨body, hgrows _ _ hbody, hread⟩

/-- What is linked stays linked. -/
theorem Linked.mono (h : Linked s objects caseId a) (hgrows : objects.Grows objects') :
    Linked s objects' caseId a := by
  obtain ⟨⟨triage, htriage, hhash⟩, hdiagnosis⟩ := h
  refine ⟨⟨triage, htriage.mono hgrows, hhash⟩, fun h hnamed => ?_⟩
  obtain ⟨d, hd, heq⟩ := hdiagnosis h hnamed
  exact ⟨d, hd.mono hgrows, heq⟩

/-- A record is linked in the case its stripped id names. -/
theorem Linked.congr (h : Linked s objects caseId a)
    (hid : PyText.strip caseId = PyText.strip caseId') : Linked s objects caseId' a := by
  obtain ⟨⟨triage, ⟨body, hbody, hread⟩, hhash⟩, hdiagnosis⟩ := h
  refine ⟨⟨triage, ⟨body, stageKey_congr hid _ ▸ hbody, hread⟩, hhash⟩, fun h hnamed => ?_⟩
  obtain ⟨d, ⟨body, hbody, hread⟩, heq⟩ := hdiagnosis h hnamed
  exact ⟨d, ⟨body, stageKey_congr hid _ ▸ hbody, hread⟩, heq⟩

/-- What is read is sealed. -/
theorem StageModel.sealed_of_validateJson {α : Type} {M : StageModel α} {body : Bytes} {a : α}
    (h : M.validateJson body = .ok a) : M.stageHash a = M.computeHash a := by
  unfold validateJson at h
  split at h
  · split at h
    · cases h
    · split at h
      · next hseal =>
        cases h
        exact hseal
      · cases h
  · cases h

/-- A sealed file of these stages is read back as it was. -/
theorem validateJson_serialize (hsealed : s.model.stageHash a = s.model.computeHash a) :
    s.model.validateJson (s.model.serialize a) = .ok a := by
  have hread := (StageModel.validateJson_finalize (M := s.model) a a).mpr
  rw [StageModel.finalize_eq_self hsealed] at hread
  exact hread ⟨s.sound a, (s.wired a).symm⟩

/-- A file that a read returns is stored. -/
theorem stored_of_read {α : Type} {M : StageModel α} {stage : CaseFileStageName} {remote : Remote}
    {a : α} (h : readCasefileStageJsonOrNone M objects caseId stage remote = .ok (some a)) :
    Stored M objects caseId stage a := by
  unfold readCasefileStageJsonOrNone at h
  split at h
  · cases h
  next key hkey =>
  have hkey : key = stageKey caseId stage := by
    unfold buildCasefileStageObjectKey at hkey
    split at hkey
    · cases hkey
    · exact (Except.ok.inj hkey).symm
  subst hkey
  split at h
  · next payload hget =>
    refine ⟨payload, getObjectBytes_eq_ok hget, ?_⟩
    rcases hread : M.validateJson payload with e | b
    · rw [hread] at h
      cases h
    · rw [hread] at h
      cases h
      rfl
  · cases h
  · cases h

/-- **The checks**: what they let through is linked. -/
theorem validateStageHashes_ok {faults : ReadFaults}
    (h : validateStageHashes s objects a faults = .ok ()) :
    s.model.stageHash a = s.model.computeHash a ∧ Linked s objects (s.caseId a) a := by
  obtain ⟨_, hsealed, h⟩ := Except.bind_eq_ok.mp h
  rw [raiseIf_eq_ok, not_not] at hsealed
  refine ⟨hsealed, ?_⟩
  obtain ⟨triage?, htriage, h⟩ := Except.bind_eq_ok.mp h
  cases triage? with
  | none => cases h
  | some triage =>
    have hstored := stored_of_read htriage
    obtain ⟨body, -, hread⟩ := hstored
    obtain ⟨_, hhash, h⟩ := Except.bind_eq_ok.mp h
    rw [raiseIf_eq_ok, not_not] at hhash
    have hseal : triage.triageHash = triageModel.computeHash triage :=
      StageModel.sealed_of_validateJson hread
    refine ⟨⟨triage, stored_of_read htriage, hhash.trans hseal.symm⟩, fun named hnamed => ?_⟩
    rw [hnamed] at h
    obtain ⟨diagnosis?, hdiagnosis, h⟩ := Except.bind_eq_ok.mp h
    cases diagnosis? with
    | none => cases h
    | some diagnosis =>
      rw [raiseIf_eq_ok, not_not] at h
      exact ⟨diagnosis, stored_of_read hdiagnosis, h⟩

/-- A sealed record that names the triage file which is there, and no diagnosis, passes. -/
theorem validateStageHashes_returns {triage : CaseFileTriageV1}
    (hsealed : s.model.stageHash a = s.model.computeHash a)
    (hnamed : PyText.isBlank (s.caseId a) = false)
    (htriage : Stored triageModel objects (s.caseId a) .triage triage)
    (hhash : s.triageHash a = triage.triageHash) (hnone : s.namedDiagnosis a = none) :
    validateStageHashes s objects a {} = .ok () := by
  obtain ⟨body, hbody, hread⟩ := htriage
  have hseal : s.triageHash a = triageModel.computeHash triage :=
    hhash.trans (StageModel.sealed_of_validateJson hread)
  have hthere : readCasefileStageJsonOrNone triageModel objects (s.caseId a) .triage .answered =
      .ok (some triage) := by
    simp [readCasefileStageJsonOrNone, buildCasefileStageObjectKey, hnamed, getObjectBytes, hbody,
      hread]
  simp [validateStageHashes, hthere, hsealed, hseal, hnone, raiseIf]

/-! ## What a write does to the chain -/

/-- The store after a write has all that was there before. -/
theorem persistWriteOnce_grows {α : Type} (M : StageModel α) (objects : ObjectStore)
    (caseId : String) (stage : CaseFileStageName) (a : α) (faults : WriteFaults) :
    objects.Grows (persistWriteOnce M objects caseId stage a faults).2 := by
  by_cases h : CreatesFile M objects caseId stage a faults
  · rw [persistWriteOnce_of_creates h]
    exact ObjectStore.grows_set h.free
  · rw [persistWriteOnce_of_not_creates h]
    exact ObjectStore.Grows.refl _

omit [Platform] in
/-- A new object under a key that is none of a stage leaves the files of that stage as they
were. -/
theorem get?_set_of_stage_ne {stage : CaseFileStageName} {key : String} {body : Bytes}
    (h : ∀ caseId, stageKey caseId stage ≠ key) (caseId : String) :
    (objects.set key body).get? (stageKey caseId stage) = objects.get? (stageKey caseId stage) := by
  rw [Dict.get?_set, if_neg fun heq => h caseId heq.symm]

/-- A new triage file keeps the chain. -/
theorem hashChain_set_triage {body : Bytes} (hchain : HashChain objects)
    (hfree : objects.get? (stageKey caseId .triage) = none) :
    HashChain (objects.set (stageKey caseId .triage) body) := by
  intro caseId' s' body' hbody
  rw [get?_set_of_stage_ne fun _ heq => s'.name_ne_triage (stageKey_inj heq).1] at hbody
  obtain ⟨b, hread, hlinked⟩ := hchain caseId' s' body' hbody
  exact ⟨b, hread, hlinked.mono (ObjectStore.grows_set hfree)⟩

/-- **One more file**: the chain holds after a write of a sealed file exactly when the file is
linked to those that were there. -/
theorem hashChain_set_iff (hchain : HashChain objects)
    (hsealed : s.model.stageHash a = s.model.computeHash a)
    (hfree : objects.get? (stageKey caseId s.name) = none) :
    HashChain (objects.set (stageKey caseId s.name) (s.model.serialize a)) ↔
      Linked s objects caseId a := by
  have hgrows : objects.Grows (objects.set (stageKey caseId s.name) (s.model.serialize a)) :=
    ObjectStore.grows_set hfree
  constructor
  · intro h
    obtain ⟨b, hread, ⟨triage, ⟨body, hbody, hvalid⟩, hhash⟩, hdiagnosis⟩ :=
      h caseId s (s.model.serialize a) (by rw [Dict.get?_set, if_pos rfl])
    rw [validateJson_serialize hsealed] at hread
    cases hread
    rw [get?_set_of_stage_ne fun _ heq => s.name_ne_triage (stageKey_inj heq).1.symm] at hbody
    refine ⟨⟨triage, ⟨body, hbody, hvalid⟩, hhash⟩, fun named hnamed => ?_⟩
    obtain ⟨d, ⟨body, hbody, hvalid⟩, heq⟩ := hdiagnosis named hnamed
    -- a record that names a diagnosis is not one itself, so the diagnosis was there before
    have hstage : .diagnosis ≠ s.name := by
      intro hs
      obtain rfl : .diagnosis = s := AppendedStage.name_inj hs
      cases hnamed
    rw [get?_set_of_stage_ne fun _ heq => hstage (stageKey_inj heq).1] at hbody
    exact ⟨d, ⟨body, hbody, hvalid⟩, heq⟩
  · intro hlinked caseId' s' body hbody
    rw [Dict.get?_set] at hbody
    split at hbody
    · next hkey =>
      obtain ⟨hname, hid⟩ := stageKey_inj hkey
      obtain rfl := AppendedStage.name_inj hname
      cases hbody
      exact ⟨a, validateJson_serialize hsealed, (hlinked.mono hgrows).congr hid⟩
    · obtain ⟨b, hread, hold⟩ := hchain caseId' s' body hbody
      exact ⟨b, hread, hold.mono hgrows⟩

end Chain

end AiopsTriage
