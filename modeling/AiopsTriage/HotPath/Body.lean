import AiopsTriage.CaseFile.Assembly
import AiopsTriage.HotPath.Dispatch
import AiopsTriage.Outbox.Repository

/-!
# The body of the inner loop

For every decision of a cycle the loop finds the decision's gate input, assembles the
case, writes its triage file, inserts its outbox row and dispatches the action. Whatever
raises on the way ends this **round**, is logged, and the loop goes on.

A round has a time at which it assembles the case and one at which it inserts the row, and
its remote calls may fail (`RoundEnv`). It gets to its dispatch exactly when its case is
assembled and the stores take it (`processCase_dispatches`), which is a condition on the
case and on what the stores held before (`Storable`).
-/

namespace AiopsTriage

/-! ## Definitions -/

/-- What a round writes to. -/
structure Stores where
  /-- the object store -/
  objects : ObjectStore := .empty
  /-- the outbox table -/
  outbox : OutboxTable := .empty

/-- The clock of a round, and how its remote calls go. -/
structure RoundEnv where
  /-- when it assembles its case -/
  triageTimestamp : Instant
  /-- when it inserts its row -/
  insertedAt : Instant
  /-- the object store -/
  write : WriteFaults := {}
  /-- the transaction of the insert -/
  insert : Remote := .answered
  /-- the call to PagerDuty -/
  page : Remote := .answered
  /-- the call to Slack -/
  slack : Remote := .answered
  deriving DecidableEq, Repr

/-- The object store and the database answer. -/
def RoundEnv.healthy (env : RoundEnv) : Bool :=
  decide (env.write = {}) && decide (env.insert = .answered)

/-- What the loop is started with, besides the stores. -/
structure HotPathConfig where
  /-- `PrometheusMetricsContractV1.version` -/
  metricsContractVersion : String
  /-- the exposure denylist -/
  denylist : DenylistV1
  /-- PagerDuty and Slack -/
  clients : DispatchClients

/-- The policies the loop stamps its cases with. -/
def HotPathConfig.policies (config : HotPathConfig) : TriagePolicies where
  rulebook := RulebookV1.v1
  prometheusMetricsContractVersion := config.metricsContractVersion
  denylist := config.denylist

/-- The policies have versions when the metrics contract has one. -/
theorem HotPathConfig.stamped_iff {config : HotPathConfig} :
    config.policies.Stamped ↔ config.metricsContractVersion ≠ "" := by
  refine ⟨fun h => h.metrics, fun h => ⟨?_, h, ?_⟩⟩
  · exact (by decide : "v1" ≠ "")
  · exact (by decide : "v1" ≠ "")

section Body

variable [Platform]

/-- `persist_casefile_and_prepare_outbox_ready`. -/
def persistCasefileAndPrepareOutboxReady (objects : ObjectStore) (casefile : CaseFileTriageV1)
    (faults : WriteFaults) : Except Failure OutboxReadyCasefileV1 × ObjectStore :=
  match buildCasefileStageObjectKey casefile.caseId .triage with
  | .error e => (.error e, objects)
  | .ok _ =>
    match persistWriteOnce triageModel objects casefile.caseId .triage casefile faults with
    | (.error e, objects) => (.error e, objects)
    | (.ok (objectPath, _), objects) =>
      match OutboxReadyCasefileV1.validate casefile.caseId objectPath casefile.triageHash.val with
      | .ok ready => (.ok ready, objects)
      | .error _ => (.error (.integrationError
          "failed to construct outbox-ready payload from confirmed casefile persistence"), objects)

/-- `insert_pending_object` over a connection that may fail. -/
def insertPendingObjectVia (table : OutboxTable) (confirmed : OutboxReadyCasefileV1)
    (now : DateTime) (remote : Remote) : Except Failure OutboxRecord × OutboxTable :=
  match remote with
  | .answered => insertPendingObject table confirmed now
  | .fails true e => (.error (wrapRepo e), (insertPendingObject table confirmed now).2)
  | .fails false e => (.error (wrapRepo e), table)

/-- The `try` block of a round, once its gate input is found. -/
def processCase (config : HotPathConfig) (outputs : StageOutputs) (scope : Scope)
    (gateInput : GateInputV1) (decision : ActionDecisionV1) (env : RoundEnv) (stores : Stores) :
    Except Failure DispatchReport × Stores :=
  match assembleCasefileTriageStage scope outputs config.policies gateInput decision
    (.aware env.triageTimestamp) with
  | .error e => (.error e, stores)
  | .ok casefile =>
    match persistCasefileAndPrepareOutboxReady stores.objects casefile env.write with
    | (.error e, objects) => (.error e, { stores with objects })
    | (.ok ready, objects) =>
      match insertPendingObjectVia stores.outbox ready (.aware env.insertedAt) env.insert with
      | (.error e, outbox) => (.error e, { objects, outbox })
      | (.ok _, outbox) =>
        (.ok (dispatchAction config.clients config.denylist casefile.caseId decision
          (outputs.topologyOutput.routingByScope.get? scope) env.page env.slack), { objects, outbox })

/-! ## When the stores take a case -/

/-- The stores **take** a case: the object store its file and the outbox its row. -/
structure Storable (casefile : CaseFileTriageV1) (env : RoundEnv) (stores : Stores) : Prop where
  /-- the object store takes the file -/
  file : TakesFile triageModel stores.objects casefile.caseId .triage casefile env.write
  /-- the transaction is answered -/
  insert : env.insert = .answered
  /-- the outbox takes the row -/
  row : ∃ ready : OutboxReadyCasefileV1, ready.caseId = casefile.caseId ∧
    ready.objectPath = stageKey casefile.caseId .triage ∧
    ready.triageHash = casefile.triageHash.val ∧
    TakesRow stores.outbox ready env.insertedAt

variable {config : HotPathConfig} {outputs : StageOutputs} {scope : Scope}
  {gateInput : GateInputV1} {decision : ActionDecisionV1} {env : RoundEnv} {stores : Stores}

/-- An assembled case is sealed, and its typed floats are finite. -/
theorem assembled_sealed {policies : TriagePolicies} {t : DateTime} {casefile : CaseFileTriageV1}
    (h : assembleCasefileTriageStage scope outputs policies gateInput decision t = .ok casefile) :
    triageModel.stageHash casefile = triageModel.computeHash casefile ∧
      triageModel.sound casefile = true := by
  obtain ⟨draft, sanitized, -, -, hsound, rfl⟩ := assemble_eq_ok.mp h
  exact ⟨StageModel.stageHash_wired hsound, hsound⟩

/-- What a round does with a case the stores take. -/
theorem processCase_of_storable {casefile : CaseFileTriageV1}
    (hcase : assembleCasefileTriageStage scope outputs config.policies gateInput decision
      (.aware env.triageTimestamp) = .ok casefile)
    (h : Storable casefile env stores) :
    ∃ row outbox, outbox.get? casefile.caseId = some row ∧
      processCase config outputs scope gateInput decision env stores =
        (.ok (dispatchAction config.clients config.denylist casefile.caseId decision
            (outputs.topologyOutput.routingByScope.get? scope) env.page env.slack),
          { objects := stores.objects.set (stageKey casefile.caseId .triage)
              (triageModel.serialize casefile)
            outbox }) := by
  obtain ⟨hsealed, hsound⟩ := assembled_sealed hcase
  obtain ⟨result, hwrite⟩ := persistWriteOnce_of_takes hsealed hsound h.file
  obtain ⟨ready, hid, hpath, hhash, hrow⟩ := h.row
  obtain ⟨record, outbox, hinsert⟩ := insertPendingObject_returns.mpr hrow
  have hkey : buildCasefileStageObjectKey casefile.caseId .triage =
      .ok (stageKey casefile.caseId .triage) := by
    rw [buildCasefileStageObjectKey, h.file.named]
    rfl
  have hready : OutboxReadyCasefileV1.validate casefile.caseId
      (stageKey casefile.caseId .triage) casefile.triageHash.val = .ok ready := by
    obtain ⟨caseId, objectPath, triageHash, hid_ne, hpath_ok, hhash_ok⟩ := ready
    simp only at hid hpath hhash
    subst hid hpath hhash
    rw [OutboxReadyCasefileV1.validate, dif_pos hid_ne, dif_pos hpath_ok, dif_pos hhash_ok]
  refine ⟨record, outbox, hid ▸ insertPendingObject_get? hinsert, ?_⟩
  simp only [processCase, hcase, persistCasefileAndPrepareOutboxReady, hkey, hwrite, hready,
    insertPendingObjectVia, h.insert, hinsert]

/-- **What it takes to get to the dispatch**: a round dispatches exactly when its case is
assembled and the stores take it. -/
theorem processCase_dispatches :
    (∃ report, (processCase config outputs scope gateInput decision env stores).1 = .ok report) ↔
      ∃ casefile, assembleCasefileTriageStage scope outputs config.policies gateInput decision
        (.aware env.triageTimestamp) = .ok casefile ∧ Storable casefile env stores := by
  constructor
  · rintro ⟨report, h⟩
    unfold processCase at h
    split at h
    · cases h
    next casefile hcase =>
    refine ⟨casefile, hcase, ?_⟩
    split at h
    · cases h
    next ready objects hpersist =>
    split at h
    · cases h
    next record outbox hinsert =>
    -- the file was written, and the handoff is about it
    unfold persistCasefileAndPrepareOutboxReady at hpersist
    split at hpersist
    · cases hpersist
    split at hpersist
    · cases hpersist
    next path result objects' hwrite =>
    split at hpersist
    next ready' hready =>
      cases hpersist
      obtain ⟨hsealed, hsound⟩ := assembled_sealed hcase
      have hfile := takes_of_persistWriteOnce hwrite
      obtain ⟨_, hwrite'⟩ := persistWriteOnce_of_takes hsealed hsound hfile
      have hpath : path = stageKey casefile.caseId .triage := by
        rw [hwrite'] at hwrite
        cases hwrite
        rfl
      unfold OutboxReadyCasefileV1.validate at hready
      split at hready
      case isFalse => cases hready
      split at hready
      case isFalse => cases hready
      split at hready
      case isFalse => cases hready
      cases hready
      cases hremote : env.insert with
      | answered =>
        rw [hremote] at hinsert
        exact ⟨hfile, hremote, _, rfl, hpath, rfl,
          insertPendingObject_returns.mp ⟨_, _, hinsert⟩⟩
      | fails applied e =>
        rw [hremote] at hinsert
        cases applied <;> cases hinsert
    · cases hpersist
  · rintro ⟨casefile, hcase, hstore⟩
    obtain ⟨_, _, -, hprocess⟩ := processCase_of_storable hcase hstore
    exact ⟨_, congrArg Prod.fst hprocess⟩

/-- A dispatch is of the round's own decision. -/
theorem processCase_decision {report : DispatchReport}
    (h : (processCase config outputs scope gateInput decision env stores).1 = .ok report) :
    report.decision = decision ∧
      (report.completed = true ↔
        PageGoesOut config.clients.pagerDuty decision.finalAction env.page) := by
  obtain ⟨casefile, hcase, hstore⟩ := processCase_dispatches.mp ⟨report, h⟩
  obtain ⟨_, _, -, hprocess⟩ := processCase_of_storable hcase hstore
  rw [hprocess] at h
  cases h
  exact ⟨rfl, dispatchAction_completed⟩

end Body

end AiopsTriage
