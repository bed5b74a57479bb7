import AiopsTriage.CaseFile.Chain
import AiopsTriage.Lib.WriteOnce

/-!
# Writers of stage files

A `persist_casefile_*_write_once` call as the steps it makes on the object store, so that those of
several writers can alternate: the put, and the read of an object that was there. With nothing in
between, the steps are the call (`persistWriteOnce_alone`).

What any number of writers do to the store in any order is said by `casefile_written_once`.
-/

namespace AiopsTriage

open WriteOnce

section Writers

variable [Platform]

/-- The steps of a write: its seal is checked and its key built before the put, and an object that
is there is checked after the read. -/
def stageWrite {α : Type} (M : StageModel α) (caseId : String) (stage : CaseFileStageName) (a : α) :
    Write String Bytes (String × WriteResult) Failure where
  target :=
    if M.stageHash a ≠ M.computeHash a then
      .error (.invariantViolation
        s!"{stage.value}_hash does not match canonical serialized payload bytes before persistence")
    else buildCasefileStageObjectKey caseId stage
  body := M.serialize a
  created := (stageKey caseId stage, .created)
  found existing := (checkExisting M stage (M.serialize a) (M.stageHash a) existing).map
    fun result => (stageKey caseId stage, result)
  found_ok b r h := by
    unfold checkExisting at h
    split at h
    · cases h
    · next hsame =>
      split at h
      · cases h
      · split at h
        · cases h
          exact ⟨not_not.mp hsame, by simp⟩
        · cases h

/-- A call that writes a stage file. -/
inductive CasefileWrite where
  /-- `persist_casefile_triage_write_once` -/
  | triage (casefile : CaseFileTriageV1)
  /-- `persist_casefile_diagnosis_write_once` and its siblings for linkage and labels -/
  | appended (stage : AppendedStage) (casefile : stage.Payload)

namespace CasefileWrite

/-- Its steps. -/
def write : CasefileWrite → Write String Bytes (String × WriteResult) Failure
  | triage casefile => stageWrite triageModel casefile.caseId .triage casefile
  | appended stage casefile =>
    stageWrite stage.model (stage.caseId casefile) stage.name casefile

omit [Platform] in
/-- Its key, when the case has a name. -/
def key : CasefileWrite → String
  | triage casefile => stageKey casefile.caseId .triage
  | appended stage casefile => stageKey (stage.caseId casefile) stage.name

/-- What it writes. -/
def payload : CasefileWrite → Bytes
  | triage casefile => triageModel.serialize casefile
  | appended stage casefile => stage.model.serialize casefile

end CasefileWrite

omit [Platform] in
/-- A remote put as a step. -/
def putOf : Remote → Put Failure
  | .answered => .answered
  | .fails applied e => .raises applied e

omit [Platform] in
/-- A remote read as a step. -/
def raisesOf : Remote → Option Failure
  | .answered => none
  | .fails _ e => some e

section Alone

variable {α : Type} {M : StageModel α} {objects : ObjectStore} {caseId : String}
  {stage : CaseFileStageName} {a : α} {faults : WriteFaults}

/-- A write with a wrong seal is refused before the put. -/
theorem stageWrite_target_unsealed (hseal : M.stageHash a ≠ M.computeHash a) :
    (stageWrite M caseId stage a).target = .error (.invariantViolation
      s!"{stage.value}_hash does not match canonical serialized payload bytes before persistence") :=
  if_pos hseal

/-- A write with its seal has the key of its case. -/
theorem stageWrite_target_sealed (hseal : M.stageHash a = M.computeHash a) :
    (stageWrite M caseId stage a).target = buildCasefileStageObjectKey caseId stage :=
  if_neg (not_not.mpr hseal)

/-- The steps of a write with nothing in between are the write. -/
theorem persistWriteOnce_alone :
    ∃ ls t, Runs.run (step (fun _ : Unit => stageWrite M caseId stage a) Failure.objectNotFound)
        (start objects) ls = some t ∧
      t.phase () = .finished (persistWriteOnce M objects caseId stage a faults).1 ∧
      t.objects = (persistWriteOnce M objects caseId stage a faults).2 := by
  -- a call that is done with its put
  have hone : ∀ {t : State Unit String Bytes (String × WriteResult) Failure},
      step (fun _ : Unit => stageWrite M caseId stage a) Failure.objectNotFound (start objects)
        (.put () (putOf faults.put)) = some t →
      t.phase () = .finished (persistWriteOnce M objects caseId stage a faults).1 →
      t.objects = (persistWriteOnce M objects caseId stage a faults).2 →
      ∃ ls t, Runs.run (step (fun _ : Unit => stageWrite M caseId stage a) Failure.objectNotFound)
          (start objects) ls = some t ∧
        t.phase () = .finished (persistWriteOnce M objects caseId stage a faults).1 ∧
        t.objects = (persistWriteOnce M objects caseId stage a faults).2 :=
    fun hstep hphase hobjects =>
      ⟨[.put () (putOf faults.put)], _, Runs.run_cons_eq_some.mpr ⟨_, hstep, rfl⟩, hphase, hobjects⟩
  by_cases hseal : M.stageHash a = M.computeHash a
  case neg =>
    refine hone (step_put_error rfl (stageWrite_target_unsealed hseal)) ?_ ?_
    · simp [moved, persistWriteOnce, hseal]
    · simp [moved, start, persistWriteOnce, hseal]
  by_cases hblank : PyText.isBlank caseId = true
  · have htarget : (stageWrite M caseId stage a).target =
        .error (.valueError "case_id must not be empty") := by
      rw [stageWrite_target_sealed hseal, buildCasefileStageObjectKey, if_pos hblank]
    refine hone (step_put_error rfl htarget) ?_ ?_
    · simp [moved, persistWriteOnce, hseal, persistPayload, buildCasefileStageObjectKey, hblank]
    · simp [moved, start, persistWriteOnce, hseal, persistPayload, buildCasefileStageObjectKey,
        hblank]
  have hkey : buildCasefileStageObjectKey caseId stage = .ok (stageKey caseId stage) := by
    rw [buildCasefileStageObjectKey, if_neg hblank]
  have htarget : (stageWrite M caseId stage a).target = .ok (stageKey caseId stage) :=
    (stageWrite_target_sealed hseal).trans hkey
  cases hput : faults.put with
  | fails applied e =>
    -- raised by the put, which was applied or not
    refine hone (step_put_ok rfl htarget) ?_ ?_
    · cases applied <;> cases hget : objects.get? (stageKey caseId stage) <;>
        simp [putStep, putOf, start, moved, stageWrite, persistWriteOnce, hseal, persistPayload,
          hkey, putIfAbsent, hput, hget]
    · cases applied <;> cases hget : objects.get? (stageKey caseId stage) <;>
        simp [putStep, putOf, start, moved, stageWrite, persistWriteOnce, hseal, persistPayload,
          hkey, putIfAbsent, hput, hget]
  | answered =>
    cases hget : objects.get? (stageKey caseId stage) with
    | none =>
      refine hone (step_put_ok rfl htarget) ?_ ?_
      · simp [putStep, putOf, start, moved, stageWrite, persistWriteOnce, hseal, persistPayload,
          hkey, putIfAbsent, hput, hget]
      · simp [putStep, putOf, start, moved, stageWrite, persistWriteOnce, hseal, persistPayload,
          hkey, putIfAbsent, hput, hget]
    | some existing =>
      -- the key is taken: what is there is read
      have hstep : step (fun _ : Unit => stageWrite M caseId stage a) Failure.objectNotFound
          (start objects) (.put () .answered) = some (moved (start objects) () .reading) := by
        refine Eq.trans (step_put_ok rfl htarget) ?_
        simp [putStep, start, hget]
      have hread : step (fun _ : Unit => stageWrite M caseId stage a) Failure.objectNotFound
          (moved (start objects) () .reading) (.get () (raisesOf faults.get)) =
          some (moved (moved (start objects) () .reading) () (.finished
            (persistWriteOnce M objects caseId stage a faults).1)) := by
        refine Eq.trans (step_get_ok (by simp [moved]) htarget) ?_
        cases hfault : faults.get with
        | fails applied e =>
          simp [readAnswer, raisesOf, persistWriteOnce, hseal, persistPayload, hkey, putIfAbsent,
            hput, hget, getObjectBytes, hfault]
        | answered =>
          cases hcheck : checkExisting M stage (M.serialize a) (M.computeHash a) existing <;>
            simp [readAnswer, raisesOf, persistWriteOnce, hseal, persistPayload, hkey,
              putIfAbsent, hput, hget, getObjectBytes, hfault, start, moved, stageWrite, hcheck,
              Except.map]
      refine ⟨[.put () .answered, .get () (raisesOf faults.get)], _,
        Runs.run_cons_eq_some.mpr ⟨_, hstep, Runs.run_cons_eq_some.mpr ⟨_, hread, rfl⟩⟩, ?_, ?_⟩
      · simp [moved]
      · have hkeeps : ¬CreatesFile M objects caseId stage a faults := by
          intro hcreates
          cases hcreates.free.symm.trans hget
        rw [persistWriteOnce_of_not_creates hkeeps]
        rfl

end Alone

/-! ## Any number of writers -/

section Returned

variable {c : CasefileWrite}

/-- A stage file that has a key has the one of its case. -/
theorem stageWrite_target_ok {α : Type} {M : StageModel α} {caseId : String}
    {stage : CaseFileStageName} {a : α} {key : String}
    (h : (stageWrite M caseId stage a).target = .ok key) : key = stageKey caseId stage := by
  simp only [stageWrite, buildCasefileStageObjectKey] at h
  split at h
  · cases h
  · split at h
    · cases h
    · exact (Except.ok.inj h).symm

/-- A stage file that is accepted is accepted under the key of its case. -/
theorem stageWrite_found_path {α : Type} {M : StageModel α} {caseId : String}
    {stage : CaseFileStageName} {a : α} {existing : Bytes} {path : String} {result : WriteResult}
    (h : (stageWrite M caseId stage a).found existing = .ok (path, result)) :
    path = stageKey caseId stage := by
  simp only [stageWrite, Except.map] at h
  split at h
  · cases h
  · cases h
    rfl

/-- The key of a call is that of its case. -/
theorem CasefileWrite.target_ok {key : String} (h : c.write.target = .ok key) : key = c.key := by
  cases c with
  | triage casefile => exact stageWrite_target_ok h
  | appended stage casefile => exact stageWrite_target_ok h

/-- What a call writes. -/
theorem CasefileWrite.write_body : c.write.body = c.payload := by
  cases c <;> rfl

/-- What a call answers when it created its object. -/
theorem CasefileWrite.write_created : c.write.created = (c.key, .created) := by
  cases c <;> rfl

/-- A call that accepts an object answers with its key. -/
theorem CasefileWrite.found_path {existing : Bytes} {path : String} {result : WriteResult}
    (h : c.write.found existing = .ok (path, result)) : path = c.key := by
  cases c with
  | triage casefile => exact stageWrite_found_path h
  | appended stage casefile => exact stageWrite_found_path h

end Returned

section Run

variable {ι : Type} [DecidableEq ι] {calls : ι → CasefileWrite}

/-- A run of the steps of calls. -/
abbrev runWrites (calls : ι → CasefileWrite) :
    State ι String Bytes (String × WriteResult) Failure → List (Label ι Failure) →
      Option (State ι String Bytes (String × WriteResult) Failure) :=
  Runs.run (step (fun i => (calls i).write) Failure.objectNotFound)

variable {objects : ObjectStore} {ls : List (Label ι Failure)}
  {t : State ι String Bytes (String × WriteResult) Failure}

/-- A call that returned has answered with its key, and its bytes are there. -/
theorem stored_of_write_returned (hrun : runWrites calls (start objects) ls = some t) {i : ι}
    {path : String} {result : WriteResult}
    (hreturned : t.phase i = .finished (.ok (path, result))) :
    path = (calls i).key ∧ (calls i).write.target = .ok path ∧
      t.objects.get? path = some (calls i).payload := by
  obtain ⟨hanswer, key, htarget, hstored⟩ := stored_of_returned hrun hreturned
  have hpath : path = (calls i).key := by
    rcases hanswer with hcreated | hfound
    · rw [CasefileWrite.write_created] at hcreated
      exact congrArg Prod.fst hcreated
    · exact CasefileWrite.found_path hfound
  obtain rfl : key = path := (CasefileWrite.target_ok htarget).trans hpath.symm
  rw [CasefileWrite.write_body] at hstored
  exact ⟨hpath, htarget, hstored⟩

variable (calls) in
/-- **Written once.** In any order of the steps of any number of writers, an object that is stored
stays as it is; of the calls with one key at most one returns `created`; the bytes of a call that
returned, `created` or `idempotent`, are the ones stored under its key; and a call that did not
create leaves the store as it was with each of its steps, but for a put that is applied although
it raises. -/
theorem casefile_written_once (hrun : runWrites calls (start objects) ls = some t) :
    (∀ before u, before <+: ls → runWrites calls (start objects) before = some u →
      ∀ key body, u.objects.get? key = some body → t.objects.get? key = some body) ∧
    (∀ i j path, t.phase i = .finished (.ok (path, .created)) →
      t.phase j = .finished (.ok (path, .created)) → i = j) ∧
    (∀ i path result, t.phase i = .finished (.ok (path, result)) →
      path = (calls i).key ∧ t.objects.get? path = some (calls i).payload) ∧
    (∀ before l after u, ls = before ++ l :: after →
      runWrites calls (start objects) before = some u → l.Atomic →
      (∀ path, t.phase l.call ≠ .finished (.ok (path, .created))) →
      ∃ u', step (fun i => (calls i).write) Failure.objectNotFound u l = some u' ∧
        u'.objects = u.objects) := by
  refine ⟨?_, ?_, ?_, ?_⟩
  · rintro before u ⟨after, rfl⟩ hbefore key body hbody
    unfold runWrites at hrun hbefore
    rw [Runs.run_append, hbefore, Option.bind_some] at hrun
    exact run_grows hrun hbody
  · intro i j path hi hj
    obtain ⟨hpathi, htargeti, -⟩ := stored_of_write_returned hrun hi
    obtain ⟨hpathj, htargetj, -⟩ := stored_of_write_returned hrun hj
    refine created_unique hrun ?_ ?_ (htargeti.trans htargetj.symm)
    · rw [CasefileWrite.write_created, ← hpathi]
      exact hi
    · rw [CasefileWrite.write_created, ← hpathj]
      exact hj
  · intro i path result hi
    obtain ⟨hpath, -, hstored⟩ := stored_of_write_returned hrun hi
    exact ⟨hpath, hstored⟩
  · rintro before l after u rfl hbefore hatomic hnot
    refine unchanged_of_not_created hrun hatomic ?_ hbefore
    rw [CasefileWrite.write_created]
    exact hnot _

end Run

/-- The labels of a case, sealed. -/
def confirmedLabels (ownerConfirmed : Bool) : CaseFileLabelsV1 :=
  labelsModel.finalize
    { caseId := "case-1", labelData := { ownerConfirmed := some ownerConfirmed }
      triageHash := sha256Hex (.utf8 "case-1"), labelsHash := sha256Hex (.utf8 "case-1") }

end Writers

/-- Two writers with different labels for one case, and both have put before one reads: the file is
that of the first, and the second raises. -/
theorem casefile_written_once_race :
    let := asciiPlatform []
    let calls : Bool → CasefileWrite := fun b => .appended .labels (confirmedLabels b)
    ∃ t, runWrites calls (start .empty)
        [.put true .answered, .put false .answered, .get false none] = some t ∧
      t.phase false = .finished (.error (.invariantViolation
        "write-once invariant violation: existing object payload differs from retry payload")) ∧
      t.objects.get? "cases/case-1/labels.json" = some (calls true).payload := by
  intro _ calls
  have hphases : (runWrites calls (start .empty)
      [.put true .answered, .put false .answered, .get false none]).map
        (fun t => (t.phase true, t.phase false)) =
      some (.finished (.ok ("cases/case-1/labels.json", .created)),
        .finished (.error (.invariantViolation
          "write-once invariant violation: existing object payload differs from retry payload"))) := by
    decide +kernel
  obtain ⟨t, hrun, hphase⟩ := Option.map_eq_some_iff.mp hphases
  obtain ⟨-, -, hstored, -⟩ := casefile_written_once calls hrun
  exact ⟨t, hrun, congrArg Prod.snd hphase, (hstored true _ _ (congrArg Prod.fst hphase)).2⟩

end AiopsTriage
