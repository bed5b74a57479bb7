import AiopsTriage.Diagnosis.ColdPath
import AiopsTriage.HotPath.Orders

/-!
# Writers of one object store

Any number of writers share the object store. Each **starts** a persist, which runs its
checks and reads, and later **writes**; other writers may come between the two, as the cold
path waits for its model for up to a minute. The writers are the hot path with its triage
files, the stage functions, and the cold path.

What the checks of a stage function have seen stays there, so its file is linked when it is
written (`pending_linked`). The cold path checks nothing. The hash chain holds in every state
of a run exactly when every file the cold path creates names the triage file that is stored
by then (`hash_chain_kept_iff`); a file that names another one breaks the chain for good
(`stale_link_stays`).
-/

namespace AiopsTriage

/-- A call that persists a file of a case. -/
inductive Persist where
  /-- `persist_casefile_and_prepare_outbox_ready` -/
  | triage (casefile : CaseFileTriageV1)
  /-- `persist_casefile_diagnosis_stage` and its siblings -/
  | stage (s : AppendedStage) (casefile : s.Payload)
  /-- `run_cold_path_diagnosis` -/
  | coldPath (call : ColdPathCall)

/-- A file that is about to be written. -/
inductive CaseFileWrite where
  /-- by the hot path -/
  | triage (casefile : CaseFileTriageV1)
  /-- by a stage function, which has checked it -/
  | stage (s : AppendedStage) (casefile : s.Payload)
  /-- by the cold path -/
  | coldPath (casefile : CaseFileDiagnosisV1)

/-- The object store, and what each writer is about to write. -/
structure Writers (ι : Type) where
  /-- the shared store -/
  objects : ObjectStore
  /-- the writers between their two halves -/
  pending : ι → Option CaseFileWrite

/-- One half of a persist. -/
inductive WriterLabel (ι : Type) where
  /-- a writer starts a persist, and its reads go in a way -/
  | starts (i : ι) (persist : Persist) (faults : ReadFaults)
  /-- a writer writes its file, and its remote calls go in a way -/
  | writes (i : ι) (faults : WriteFaults)

section Writers

variable [Platform]

/-- The first half of a persist. -/
def Persist.prepare (objects : ObjectStore) (faults : ReadFaults) :
    Persist → Except Failure CaseFileWrite
  | .triage casefile => .ok (.triage casefile)
  | .stage s casefile => (fun _ => .stage s casefile) <$> validateStageHashes s objects casefile faults
  | .coldPath call => .coldPath <$> coldPathCasefile call

/-- The store after the second half. -/
def CaseFileWrite.perform (objects : ObjectStore) (faults : WriteFaults) :
    CaseFileWrite → ObjectStore
  | .triage casefile => (persistCasefileAndPrepareOutboxReady objects casefile faults).2
  | .stage s casefile => (persistAppended s objects casefile faults).2
  | .coldPath casefile => (persistColdPath objects casefile faults).2

/-- A stage function is its two halves, one after the other. -/
theorem persistCasefileStage_eq (s : AppendedStage) (objects : ObjectStore) (a : s.Payload)
    (reads : ReadFaults) (writes : WriteFaults) :
    (persistCasefileStage s objects a reads writes).2 =
      match (Persist.stage s a).prepare objects reads with
      | .error _ => objects
      | .ok file => file.perform objects writes := by
  rw [persistCasefileStage, Persist.prepare]
  rcases validateStageHashes s objects a reads with e | _ <;> rfl

/-- So is the cold path. -/
theorem runColdPathDiagnosis_eq (objects : ObjectStore) (call : ColdPathCall)
    (reads : ReadFaults) (writes : WriteFaults) :
    (runColdPathDiagnosis objects call writes).2 =
      match (Persist.coldPath call).prepare objects reads with
      | .error _ => objects
      | .ok file => file.perform objects writes := by
  rw [runColdPathDiagnosis, Persist.prepare]
  rcases coldPathCasefile call with e | casefile <;> rfl

/-! ## What a write does to the store -/

variable {objects : ObjectStore} {faults : WriteFaults}

theorem perform_triage (casefile : CaseFileTriageV1) :
    (CaseFileWrite.triage casefile).perform objects faults =
      (persistWriteOnce triageModel objects casefile.caseId .triage casefile faults).2 := by
  rw [CaseFileWrite.perform, persistCasefileAndPrepareOutboxReady, buildCasefileStageObjectKey]
  by_cases hblank : PyText.isBlank casefile.caseId = true
  · rw [if_pos hblank, persistWriteOnce_of_not_creates]
    intro h
    rw [h.named] at hblank
    cases hblank
  · rw [if_neg hblank]
    simp only
    split
    · next hwrite => rw [hwrite]
    · next hwrite =>
      rw [hwrite]
      split <;> rfl

theorem perform_stage (s : AppendedStage) (a : s.Payload) :
    (CaseFileWrite.stage s a).perform objects faults =
      (persistWriteOnce s.model objects (s.caseId a) s.name a faults).2 := by
  rw [CaseFileWrite.perform, persistAppended]
  split
  · next hwrite => rw [hwrite]
  · next hwrite => rw [hwrite]

theorem perform_coldPath (casefile : CaseFileDiagnosisV1) :
    (CaseFileWrite.coldPath casefile).perform objects faults =
      (persistWriteOnce diagnosisModel objects casefile.caseId .diagnosis casefile faults).2 := by
  rw [CaseFileWrite.perform, persistColdPath]
  split
  · next hwrite => rw [hwrite]
  · next hwrite => rw [hwrite]

/-- No write replaces an object. -/
theorem perform_grows (file : CaseFileWrite) : objects.Grows (file.perform objects faults) := by
  cases file with
  | triage casefile =>
    rw [perform_triage]
    exact persistWriteOnce_grows _ _ _ _ _ _
  | stage s a =>
    rw [perform_stage]
    exact persistWriteOnce_grows _ _ _ _ _ _
  | coldPath casefile =>
    rw [perform_coldPath]
    exact persistWriteOnce_grows _ _ _ _ _ _

/-- A file a stage function has checked keeps the chain. -/
theorem hashChain_stage {s : AppendedStage} {a : s.Payload} (hchain : HashChain objects)
    (hlinked : Linked s objects (s.caseId a) a) :
    HashChain ((CaseFileWrite.stage s a).perform objects faults) := by
  rw [perform_stage]
  by_cases h : CreatesFile s.model objects (s.caseId a) s.name a faults
  · rw [persistWriteOnce_of_creates h]
    exact (hashChain_set_iff hchain h.isSealed h.free).mpr hlinked
  · rw [persistWriteOnce_of_not_creates h]
    exact hchain

/-- A triage file keeps the chain. -/
theorem hashChain_triage (casefile : CaseFileTriageV1) (hchain : HashChain objects) :
    HashChain ((CaseFileWrite.triage casefile).perform objects faults) := by
  rw [perform_triage]
  by_cases h : CreatesFile triageModel objects casefile.caseId .triage casefile faults
  · rw [persistWriteOnce_of_creates h]
    exact hashChain_set_triage hchain h.free
  · rw [persistWriteOnce_of_not_creates h]
    exact hchain

/-- **The cold path**: its write keeps the chain exactly when it creates no file, or the
triage file of the case is stored by then and has the hash of the call. -/
theorem hashChain_coldPath_iff {casefile : CaseFileDiagnosisV1} (hchain : HashChain objects) :
    HashChain ((CaseFileWrite.coldPath casefile).perform objects faults) ↔
      (CreatesFile diagnosisModel objects casefile.caseId .diagnosis casefile faults →
        TriageStored objects casefile.caseId casefile.triageHash) := by
  rw [perform_coldPath]
  by_cases h : CreatesFile diagnosisModel objects casefile.caseId .diagnosis casefile faults
  · rw [persistWriteOnce_of_creates h]
    have hiff := hashChain_set_iff (s := .diagnosis) hchain h.isSealed h.free
    refine hiff.trans ⟨fun hlinked _ => hlinked.triage, fun htriage => ⟨htriage h, ?_⟩⟩
    intro _ hnamed
    cases hnamed
  · rw [persistWriteOnce_of_not_creates h]
    exact ⟨fun _ hcreates => absurd hcreates h, fun _ => hchain⟩

/-! ## Runs of the writers -/

variable {ι : Type} [DecidableEq ι]

namespace Writers

/-- One half of one writer's persist. A persist that raises in its first half is over. -/
def step (w : Writers ι) : WriterLabel ι → Option (Writers ι)
  | .starts i persist faults =>
    match w.pending i with
    | some _ => none
    | none =>
      match persist.prepare w.objects faults with
      | .error _ => some w
      | .ok file => some { w with pending := Function.update w.pending i (some file) }
  | .writes i faults =>
    match w.pending i with
    | none => none
    | some file => some
        { objects := file.perform w.objects faults
          pending := Function.update w.pending i none }

end Writers

/-- Nobody has started. -/
def Writers.start (objects : ObjectStore) : Writers ι := ⟨objects, fun _ => none⟩

namespace Writers

/-- What a stage function is about to write is linked. -/
def PendingLinked (w : Writers ι) : Prop :=
  ∀ i s a, w.pending i = some (.stage s a) → Linked s w.objects (s.caseId a) a

/-- A file the cold path creates in this step names the triage file that is stored. -/
def NamesTriage (w : Writers ι) : WriterLabel ι → Prop
  | .starts _ _ _ => True
  | .writes i faults => ∀ casefile, w.pending i = some (.coldPath casefile) →
      CreatesFile diagnosisModel w.objects casefile.caseId .diagnosis casefile faults →
        TriageStored w.objects casefile.caseId casefile.triageHash

/-- What a start does: the store is as it was, and its writer may have a file to write that
its checks let through. -/
theorem step_starts {w w' : Writers ι} {i : ι} {persist : Persist} {faults : ReadFaults}
    (h : w.step (.starts i persist faults) = some w') :
    w'.objects = w.objects ∧
      (w'.pending = w.pending ∨ ∃ file, persist.prepare w.objects faults = .ok file ∧
        w'.pending = Function.update w.pending i (some file)) := by
  rcases hpending : w.pending i with _ | file
  · rcases hprepare : persist.prepare w.objects faults with e | file
    · simp only [step, hpending, hprepare, Option.some.injEq] at h
      subst h
      exact ⟨rfl, .inl rfl⟩
    · simp only [step, hpending, hprepare, Option.some.injEq] at h
      subst h
      exact ⟨rfl, .inr ⟨file, rfl, rfl⟩⟩
  · simp [step, hpending] at h

/-- What a write does: its writer's file is written, or not. -/
theorem step_writes {w w' : Writers ι} {i : ι} {faults : WriteFaults}
    (h : w.step (.writes i faults) = some w') :
    ∃ file, w.pending i = some file ∧ w'.objects = file.perform w.objects faults ∧
      w'.pending = Function.update w.pending i none := by
  rcases hpending : w.pending i with _ | file
  · simp [step, hpending] at h
  · simp only [step, hpending, Option.some.injEq] at h
    subst h
    exact ⟨file, rfl, rfl, rfl⟩

/-- A writer whose persist gets through its first half can go on at once. -/
theorem step_alone {w : Writers ι} {i : ι} {persist : Persist} {reads : ReadFaults}
    {file : CaseFileWrite} (hidle : w.pending i = none)
    (hfile : persist.prepare w.objects reads = .ok file) (writes : WriteFaults) :
    ∃ w', w.step (.starts i persist reads) = some w' ∧ w'.objects = w.objects ∧
      w'.pending i = some file ∧
      w'.step (.writes i writes) = some ⟨file.perform w.objects writes, w.pending⟩ := by
  refine ⟨{ w with pending := Function.update w.pending i (some file) }, ?_, rfl, ?_, ?_⟩
  · simp only [step, hidle, hfile]
  · exact Function.update_self ..
  · simp only [step, Function.update_self, Function.update_idem]
    rw [← hidle, Function.update_eq_self]

/-- No step replaces an object. -/
theorem step_grows {w w' : Writers ι} {l : WriterLabel ι} (h : w.step l = some w') :
    w.objects.Grows w'.objects := by
  cases l with
  | starts i persist faults =>
    rw [(step_starts h).1]
    exact ObjectStore.Grows.refl _
  | writes i faults =>
    obtain ⟨file, -, hobjects, -⟩ := step_writes h
    rw [hobjects]
    exact perform_grows file

/-- What the checks have seen is still there when the file is written. -/
theorem pending_linked {w w' : Writers ι} {l : WriterLabel ι} (hw : w.PendingLinked)
    (h : w.step l = some w') : w'.PendingLinked := by
  intro j s a hpending
  have hgrows := step_grows h
  cases l with
  | starts i persist faults =>
    obtain ⟨-, hsame | ⟨file, hprepare, hupdate⟩⟩ := step_starts h
    · rw [hsame] at hpending
      exact (hw j s a hpending).mono hgrows
    · rw [hupdate, Function.update_apply] at hpending
      split at hpending
      · obtain rfl := Option.some.inj hpending
        -- only a stage function prepares such a file, after its checks
        cases persist with
        | triage casefile => cases hprepare
        | stage s' casefile =>
          rw [Persist.prepare] at hprepare
          rcases hchecks : validateStageHashes s' w.objects casefile faults with e | _
          · rw [hchecks] at hprepare
            cases hprepare
          · rw [hchecks] at hprepare
            cases hprepare
            exact (validateStageHashes_ok hchecks).2.mono hgrows
        | coldPath call =>
          rw [Persist.prepare] at hprepare
          rcases hfile : coldPathCasefile call with e | casefile
          · rw [hfile] at hprepare
            cases hprepare
          · rw [hfile] at hprepare
            cases hprepare
      · exact (hw j s a hpending).mono hgrows
  | writes i faults =>
    obtain ⟨file, -, -, hupdate⟩ := step_writes h
    rw [hupdate, Function.update_apply] at hpending
    split at hpending
    · cases hpending
    · exact (hw j s a hpending).mono hgrows

/-- **One step** keeps the chain exactly when the file the cold path may create in it names the
triage file that is stored. -/
theorem step_hashChain_iff {w w' : Writers ι} {l : WriterLabel ι} (hw : w.PendingLinked)
    (hchain : HashChain w.objects) (h : w.step l = some w') :
    HashChain w'.objects ↔ w.NamesTriage l := by
  cases l with
  | starts i persist faults =>
    rw [(step_starts h).1]
    exact ⟨fun _ => trivial, fun _ => hchain⟩
  | writes i faults =>
    obtain ⟨file, hfile, hobjects, -⟩ := step_writes h
    rw [hobjects]
    cases file with
    | triage casefile =>
      refine ⟨fun _ d hd => ?_, fun _ => hashChain_triage casefile hchain⟩
      rw [hfile] at hd
      cases hd
    | stage s a =>
      refine ⟨fun _ d hd => ?_, fun _ => hashChain_stage hchain (hw i s a hfile)⟩
      rw [hfile] at hd
      cases hd
    | coldPath casefile =>
      rw [hashChain_coldPath_iff hchain]
      constructor
      · intro hcreates d hd
        rw [hfile] at hd
        cases hd
        exact hcreates
      · exact fun hnames => hnames casefile hfile

end Writers

/-- **The hash chain**: let the chain of a store hold, and let writers persist triage,
diagnosis, linkage and labels files in any order, through the stage functions and the cold
path. The chain holds in every state of the run exactly when every diagnosis file that the
cold path creates names the triage file of its case that is stored by then. -/
theorem hash_chain_kept_iff {objects : ObjectStore} (hchain : HashChain objects)
    {ls : List (WriterLabel ι)} {w : Writers ι}
    (hrun : Runs.run Writers.step (Writers.start objects) ls = some w) :
    Runs.Always Writers.step (fun u => HashChain u.objects) (Writers.start objects) ls ↔
      Runs.Along Writers.step Writers.NamesTriage (Writers.start objects) ls := by
  refine Runs.always_iff_along (J := Writers.PendingLinked) ?_ ?_ hrun ?_ hchain
  · intro u l u' hu hstep
    exact Writers.pending_linked hu hstep
  · intro u l u' hu hi hstep
    exact Writers.step_hashChain_iff hu hi hstep
  · intro i s a hpending
    cases hpending

/-- **A stale link stays**: once a diagnosis file names another triage file than the one that
is stored, no run ever makes the chain hold. -/
theorem stale_link_stays {w w' : Writers ι} {ls : List (WriterLabel ι)} {caseId : String}
    {triage : CaseFileTriageV1} {diagnosis : CaseFileDiagnosisV1}
    (htriage : Stored triageModel w.objects caseId .triage triage)
    (hdiagnosis : Stored diagnosisModel w.objects caseId .diagnosis diagnosis)
    (hstale : diagnosis.triageHash ≠ triage.triageHash)
    (hrun : Runs.run Writers.step w ls = some w') : ¬HashChain w'.objects := by
  have hboth : Stored triageModel w'.objects caseId .triage triage ∧
      Stored diagnosisModel w'.objects caseId .diagnosis diagnosis :=
    Runs.run_inv (I := fun u => Stored triageModel u.objects caseId .triage triage ∧
        Stored diagnosisModel u.objects caseId .diagnosis diagnosis)
      (fun u l u' hu hstep => ⟨hu.1.mono (Writers.step_grows hstep),
        hu.2.mono (Writers.step_grows hstep)⟩) hrun ⟨htriage, hdiagnosis⟩
  obtain ⟨⟨tbody, htbody, htread⟩, ⟨dbody, hdbody, hdread⟩⟩ := hboth
  intro hchain
  obtain ⟨d, hread, ⟨t, ⟨body, hbody, hvalid⟩, hhash⟩, -⟩ := hchain caseId .diagnosis dbody hdbody
  obtain rfl : diagnosis = d := Except.ok.inj (hdread.symm.trans hread)
  obtain rfl : tbody = body := Option.some.inj (htbody.symm.trans hbody)
  obtain rfl : triage = t := Except.ok.inj (htread.symm.trans hvalid)
  exact hstale hhash

/-! ## A case and its cold path -/

/-- A triage file of the orders topic, not yet sealed. -/
def ordersTriage : CaseFileTriageV1 where
  caseId := "case-orders"
  scope := ordersScope
  triageTimestamp := newYear2026
  evidenceSnapshot := ⟨some ordersScope, [], pageInput.evidenceStatusMap, false, none, none⟩
  topologyContext :=
    { streamId := "stream-orders"
      topicRole := .sink
      criticalityTier := .tier0
      sourceSystem := none
      blastRadius := .sharedKafkaIngestion
      downstreamImpacts := []
      routing := ⟨.platformDefault, "platform", "team-1", "Platform", none, none, none⟩ }
  gateInput := pageInput
  actionDecision := ordersDecision
  policyVersions :=
    ⟨⟨"1", by decide⟩, ⟨"v1", v1_ne⟩, ⟨"v1", v1_ne⟩, ⟨"v1", v1_ne⟩, ⟨"v1", v1_ne⟩⟩
  triageHash := hashPlaceholder

/-- A cold path call on that case with a hash of the caller's, whose model does not answer in
time. -/
def ordersCall (triageHash : Hex64) : ColdPathCall where
  caseId := ordersTriage.caseId
  triageExcerpt :=
    { caseId := ordersTriage.caseId
      env := .prod
      clusterId := "cluster-a"
      streamId := "stream-orders"
      topic := "orders"
      anomalyFamily := .volumeDrop
      topicRole := .sink
      criticalityTier := .tier0
      routingKey := "platform"
      sustained := true
      evidenceStatusMap := pageInput.evidenceStatusMap
      findings := pageInput.findings
      triageTimestamp := newYear2026 }
  denylist := ordersConfig.denylist
  triageHash := triageHash.val
  answer := .timeout

/-- The triage file is persisted, then the cold path runs. -/
def coldPathRun (triageHash : Hex64) : List (WriterLabel Unit) :=
  [.starts () (.triage (triageModel.finalize ordersTriage)) {}, .writes () {},
    .starts () (.coldPath (ordersCall triageHash)) {}, .writes () {}]

/-- The store after the first two steps of such a run. -/
def ordersStore : ObjectStore :=
  Dict.empty.set (stageKey ordersTriage.caseId .triage)
    (triageModel.serialize (triageModel.finalize ordersTriage))

theorem ordersStore_stored : Stored triageModel ordersStore ordersTriage.caseId .triage
    (triageModel.wired (triageModel.finalize ordersTriage)) := by
  refine ⟨triageModel.serialize (triageModel.finalize ordersTriage), ?_, ?_⟩
  · rw [ordersStore, Dict.get?_set, if_pos rfl]
  · exact (StageModel.validateJson_finalize _ _).mpr ⟨rfl, rfl⟩

/-- What the run goes through: the triage file is stored, and the cold path creates its file
beside it. -/
theorem coldPathRun_steps (triageHash : Hex64) :
    ∃ casefile, casefile.caseId = ordersTriage.caseId ∧ casefile.triageHash = triageHash ∧
      CreatesFile diagnosisModel ordersStore casefile.caseId .diagnosis casefile {} ∧
      ∃ w w' : Writers Unit,
        (Writers.start .empty).step (.starts () (.triage (triageModel.finalize ordersTriage)) {}) =
          some w ∧ w.pending () = some (.triage (triageModel.finalize ordersTriage)) ∧
        w.step (.writes () {}) = some (.start ordersStore) ∧
        (Writers.start ordersStore).step (.starts () (.coldPath (ordersCall triageHash)) {}) =
          some w' ∧ w'.objects = ordersStore ∧ w'.pending () = some (.coldPath casefile) ∧
        w'.step (.writes () {}) =
          some (.start ((CaseFileWrite.coldPath casefile).perform ordersStore {})) := by
  have hblank : PyText.isBlank ordersTriage.caseId = false := by decide
  have htriage : CreatesFile triageModel .empty ordersTriage.caseId .triage
      (triageModel.finalize ordersTriage) {} :=
    ⟨StageModel.stageHash_finalize _, hblank, rfl, rfl⟩
  have hstore : (CaseFileWrite.triage (triageModel.finalize ordersTriage)).perform .empty {} =
      ordersStore :=
    (perform_triage _).trans (persistWriteOnce_of_creates htriage)
  have hexcerpt := (ordersCall triageHash).triageExcerpt.sanitize_of_removesNothing
    ordersConfig_removesNothing
  obtain ⟨casefile, hcasefile⟩ : ∃ casefile, coldPathCasefile (ordersCall triageHash) =
      .ok casefile :=
    coldPathCasefile_returns.mpr ⟨⟨_, hexcerpt⟩, triageHash.2⟩
  obtain ⟨hid, hhash, hsealed⟩ := coldPathCasefile_ok hcasefile
  have hfree : ordersStore.get? (stageKey casefile.caseId .diagnosis) = none := by
    rw [ordersStore, Dict.get?_set, if_neg]
    · rfl
    · intro hkey
      cases (stageKey_inj hkey).1
  refine ⟨casefile, hid, Subtype.ext hhash, ⟨hsealed, hid ▸ hblank, hfree, rfl⟩, ?_⟩
  have hidle : ∀ objects, (Writers.start objects : Writers Unit).pending () = none := fun _ => rfl
  have hprepare : (Persist.triage (triageModel.finalize ordersTriage)).prepare .empty {} =
      .ok (.triage (triageModel.finalize ordersTriage)) := rfl
  have hprepare' : (Persist.coldPath (ordersCall triageHash)).prepare ordersStore {} =
      .ok (.coldPath casefile) := by
    rw [Persist.prepare, hcasefile]
    rfl
  obtain ⟨w, hstart, -, hpending, hwrite⟩ := Writers.step_alone (hidle .empty) hprepare {}
  obtain ⟨w', hstart', hobjects', hpending', hwrite'⟩ :=
    Writers.step_alone (hidle ordersStore) hprepare' {}
  refine ⟨w, w', hstart, hpending, ?_, hstart', hobjects', hpending', hwrite'⟩
  rw [hwrite]
  exact congrArg some (congrArg (Writers.mk · _) hstore)

/-- The hash that is stored. -/
def ordersHash : Hex64 := (triageModel.wired (triageModel.finalize ordersTriage)).triageHash

theorem ordersStore_triage {h : Hex64} :
    TriageStored ordersStore ordersTriage.caseId h ↔ h = ordersHash := by
  constructor
  · rintro ⟨triage, ⟨body, hbody, hread⟩, rfl⟩
    obtain ⟨body', hbody', hread'⟩ := ordersStore_stored
    obtain rfl := Option.some.inj (hbody.symm.trans hbody')
    obtain rfl := Except.ok.inj (hread.symm.trans hread')
    rfl
  · rintro rfl
    exact ⟨_, ordersStore_stored, rfl⟩

/-- Every file of the cold path names the triage file when the call does. -/
theorem coldPathRun_along (triageHash : Hex64) (hfresh : triageHash = ordersHash) :
    Runs.Along Writers.step Writers.NamesTriage (.start .empty) (coldPathRun triageHash) := by
  obtain ⟨casefile, hid, hhash, -, w, w', hstart, hpending, hwrite, hstart', hobjects', hpending',
    hwrite'⟩ := coldPathRun_steps triageHash
  refine Runs.along_cons trivial hstart (Runs.along_cons ?_ hwrite (Runs.along_cons trivial hstart'
    (Runs.along_cons ?_ hwrite' Runs.along_nil)))
  · intro d hd
    rw [hpending] at hd
    cases hd
  · intro d hd _
    rw [hpending', Option.some.injEq, CaseFileWrite.coldPath.injEq] at hd
    subst hd
    rw [hobjects', hid]
    exact ordersStore_triage.mpr (hhash.trans hfresh)

/-- Whatever hash the call has, the run goes through, and the cold path writes it into the
store. -/
theorem coldPathRun_run (triageHash : Hex64) :
    ∃ w : Writers Unit,
      Runs.run Writers.step (.start .empty) (coldPathRun triageHash) = some w ∧
      Stored triageModel w.objects ordersTriage.caseId .triage
        (triageModel.wired (triageModel.finalize ordersTriage)) ∧
      ∃ casefile, casefile.triageHash = triageHash ∧
        Stored diagnosisModel w.objects ordersTriage.caseId .diagnosis casefile := by
  obtain ⟨casefile, hid, hhash, hcreates, w, w', hstart, -, hwrite, hstart', -, -, hwrite'⟩ :=
    coldPathRun_steps triageHash
  have hobjects : (CaseFileWrite.coldPath casefile).perform ordersStore {} =
      ordersStore.set (stageKey casefile.caseId .diagnosis) (diagnosisModel.serialize casefile) :=
    (perform_coldPath _).trans (persistWriteOnce_of_creates hcreates)
  refine ⟨.start ((CaseFileWrite.coldPath casefile).perform ordersStore {}), ?_,
    ordersStore_stored.mono (perform_grows _), casefile, hhash,
    diagnosisModel.serialize casefile, ?_,
    validateJson_serialize (s := .diagnosis) hcreates.isSealed⟩
  · rw [coldPathRun, Runs.run_cons, hstart, Option.bind_some, Runs.run_cons, hwrite,
      Option.bind_some, Runs.run_cons, hstart', Option.bind_some, Runs.run_cons, hwrite']
    rfl
  · rw [Writers.start, hobjects, hid, Dict.get?_set, if_pos rfl]

end Writers

/-- The chain holds throughout a run whose cold path is called with the hash that is
stored. -/
theorem hash_chain_kept_orders :
    ∃ w, Runs.run (@Writers.step (asciiPlatform []) Unit _) (.start .empty)
        (@coldPathRun (asciiPlatform []) (@ordersHash (asciiPlatform []))) = some w ∧
      Runs.Always (@Writers.step (asciiPlatform []) Unit _)
        (fun u => @HashChain (asciiPlatform []) u.objects) (.start .empty)
        (@coldPathRun (asciiPlatform []) (@ordersHash (asciiPlatform []))) := by
  obtain ⟨w, hrun, -⟩ := @coldPathRun_run (asciiPlatform []) (@ordersHash (asciiPlatform []))
  exact ⟨w, hrun, (@hash_chain_kept_iff (asciiPlatform []) Unit _ .empty
    (fun _ _ _ h => by cases h) _ w hrun).mpr
      (@coldPathRun_along (asciiPlatform []) _ rfl)⟩

/-- A hash that is not the one stored. -/
def staleHash : Hex64 := ⟨String.ofList (List.replicate 64 'a'), by decide⟩

theorem staleHash_ne : staleHash ≠ @ordersHash (asciiPlatform []) := by
  -- every digest is zero on the platform without a table
  have hzero : @ordersHash (asciiPlatform []) = hashPlaceholder :=
    Subtype.ext (by
      show hexDigest (digestOfHex "") = String.ofList (List.replicate 64 '0')
      decide)
  rw [hzero]
  decide

/-- The model does not answer in time, the cold path has a stale hash, and its fallback file
breaks the chain of the store. -/
theorem stale_fallback_breaks_chain :
    ∃ w, Runs.run (@Writers.step (asciiPlatform []) Unit _) (.start .empty)
        (@coldPathRun (asciiPlatform []) staleHash) = some w ∧
      (∃ triage diagnosis,
        @Stored (asciiPlatform []) _ (@triageModel (asciiPlatform [])) w.objects
            ordersTriage.caseId .triage triage ∧
          @Stored (asciiPlatform []) _ diagnosisModel w.objects ordersTriage.caseId .diagnosis
            diagnosis ∧
          diagnosis.triageHash ≠ triage.triageHash) ∧
      ¬@HashChain (asciiPlatform []) w.objects := by
  obtain ⟨w, hrun, htriage, casefile, hhash, hdiagnosis⟩ :=
    @coldPathRun_run (asciiPlatform []) staleHash
  have hne := hhash ▸ staleHash_ne
  exact ⟨w, hrun, ⟨_, casefile, htriage, hdiagnosis, hne⟩,
    @stale_link_stays (asciiPlatform []) Unit _ w w [] _ _ _ htriage hdiagnosis hne rfl⟩

end AiopsTriage
