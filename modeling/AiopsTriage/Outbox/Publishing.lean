import AiopsTriage.Diagnosis.Chain
import AiopsTriage.Lib.Runs
import AiopsTriage.Outbox.Publisher
import AiopsTriage.Outbox.Ready
import Mathlib.Logic.Function.Basic

/-!
# Who marks a row as sent

Two paths move a row to `SENT`. The worker selects records, publishes both events of each and
marks its row. The stage helper inserts the row of a confirmed file, moves it to `READY`,
publishes a header and marks the row, so a row it marks has no excerpt sent.

Any number of workers and helpers run at once, and each call to the repository, the object
store or the broker is a step of its own, so what one has read may be old when it acts on it.
The broker may report a message long after the call that sent it, and the object store may
change at any time. A row that is `SENT` has both events delivered, in all states of a run,
exactly when no helper marks a row whose excerpt is not delivered (`sent_delivered_iff`).
-/

namespace AiopsTriage

/-! ## What a call does to the table -/

/-- Two records of the same file. -/
structure SameFile (a b : OutboxRecord) : Prop where
  /-- the case -/
  caseId : b.caseId = a.caseId
  /-- the path -/
  objectPath : b.casefileObjectPath = a.casefileObjectPath
  /-- the hash -/
  triageHash : b.triageHash = a.triageHash

theorem SameFile.refl (a : OutboxRecord) : SameFile a a := ⟨rfl, rfl, rfl⟩

theorem SameFile.symm {a b : OutboxRecord} (h : SameFile a b) : SameFile b a :=
  ⟨h.caseId.symm, h.objectPath.symm, h.triageHash.symm⟩

theorem SameFile.trans {a b c : OutboxRecord} (h : SameFile a b) (h' : SameFile b c) :
    SameFile a c :=
  ⟨h'.caseId.trans h.caseId, h'.objectPath.trans h.objectPath, h'.triageHash.trans h.triageHash⟩

/-- A row is confirmed by what its file says of it. -/
theorem ConfirmedIn.congr [Platform] {objects : ObjectStore} {a b : OutboxRecord}
    {casefile : CaseFileTriageV1} (h : SameFile a b) (hconfirmed : ConfirmedIn objects a casefile) :
    ConfirmedIn objects b casefile := by
  obtain ⟨body, hbody, hread, hid, hhash⟩ := hconfirmed
  exact ⟨body, by rw [h.objectPath, hbody], hread, hid.trans h.caseId.symm,
    hhash.trans h.triageHash.symm⟩

/-- Every row is the row of its key. -/
def OwnKeys (table : OutboxTable) : Prop :=
  ∀ caseId row, table.get? caseId = some row → row.caseId = caseId

/-- A call that marks no row `SENT`, or that of one case only. -/
structure TableStep (marked : Option String) (table table' : OutboxTable) : Prop where
  /-- rows stay, and are of the same file -/
  kept : ∀ caseId row, table.get? caseId = some row →
    ∃ row', table'.get? caseId = some row' ∧ SameFile row row'
  /-- rows stay under their keys -/
  own : OwnKeys table → OwnKeys table'
  /-- a row that is `SENT` was so, or is marked -/
  sent : ∀ caseId row', table'.get? caseId = some row' → row'.status = .sent →
    marked = some caseId ∨ ∃ row, table.get? caseId = some row ∧ row.status = .sent

namespace TableStep

variable {marked : Option String} {table : OutboxTable} {caseId : String} {row row' : OutboxRecord}

theorem refl (marked : Option String) (table : OutboxTable) : TableStep marked table table where
  kept _ row hrow := ⟨row, hrow, .refl row⟩
  own h := h
  sent _ row hrow hsent := .inr ⟨row, hrow, hsent⟩

/-- A row is replaced by one of the same file. -/
theorem set (hget : table.get? caseId = some row) (hsame : SameFile row row')
    (hsent : row'.status = .sent → marked = some caseId) :
    TableStep marked table (table.set caseId row') where
  kept c r hr := by
    rw [Dict.get?_set]
    split
    · next hc =>
      subst hc
      obtain rfl := Option.some.inj (hget.symm.trans hr)
      exact ⟨row', rfl, hsame⟩
    · exact ⟨r, hr, .refl r⟩
  own hown c r hr := by
    rw [Dict.get?_set] at hr
    split at hr
    · next hc =>
      subst hc
      cases hr
      exact hsame.caseId.trans (hown _ _ hget)
    · exact hown c r hr
  sent c r hr hstatus := by
    rw [Dict.get?_set] at hr
    split at hr
    · next hc =>
      subst hc
      cases hr
      exact .inl (hsent hstatus)
    · exact .inr ⟨r, hr, hstatus⟩

/-- A row is added. -/
theorem add (hnone : table.get? caseId = none) (hid : row.caseId = caseId)
    (hopen : row.status ≠ .sent) : TableStep marked table (table.set caseId row) where
  kept c r hr := by
    refine ⟨r, ?_, .refl r⟩
    rw [Dict.get?_set, if_neg]
    · exact hr
    · rintro rfl
      cases hnone.symm.trans hr
  own hown c r hr := by
    rw [Dict.get?_set] at hr
    split at hr
    · next hc =>
      subst hc
      cases hr
      exact hid
    · exact hown c r hr
  sent c r hr hstatus := by
    rw [Dict.get?_set] at hr
    split at hr
    · cases hr
      exact absurd hstatus hopen
    · exact .inr ⟨r, hr, hstatus⟩

/-- **A transition** marks at most its own row, and the record it returns is in the table. -/
theorem of_transition {expected : OutboxRecord → List OutboxState}
    {mark : OutboxRecord → DateTime → Except Failure OutboxRecord} {now : DateTime}
    {target : OutboxState}
    (hexpected : ∀ row now next, mark row now = .ok next → row.status ∈ expected row)
    (hsent : ∀ row now next, mark row now = .ok next → next.status = .sent → marked = some caseId) :
    TableStep marked table (transition table caseId now target expected mark).2 ∧
      ∀ r, (transition table caseId now target expected mark).1 = .ok r →
        (transition table caseId now target expected mark).2.get? caseId = some r := by
  rcases transition_cases expected mark hexpected table caseId now target with
    ⟨e, hcall⟩ | ⟨row, hget, -, hcall⟩ | ⟨row, next, t, hget, -, hmark, hcall⟩
  · rw [hcall]
    exact ⟨.refl _ _, fun r hr => by cases hr⟩
  · rw [hcall]
    refine ⟨.refl _ _, fun r hr => ?_⟩
    cases hr
    exact hget
  · rw [hcall]
    refine ⟨set hget ⟨rfl, rfl, rfl⟩ (hsent row _ next hmark), fun r hr => ?_⟩
    cases hr
    rw [Dict.get?_set, if_pos rfl]

theorem of_ready {now : DateTime} : TableStep marked table (transitionToReady table caseId now).2 ∧
    ∀ r, (transitionToReady table caseId now).1 = .ok r →
      (transitionToReady table caseId now).2.get? caseId = some r := by
  refine of_transition (fun row now next hmark => ?_) (fun row now next hmark hsent => ?_)
  · rw [(markOutboxRecordReady_ok hmark).1]
    exact List.mem_singleton_self _
  · obtain ⟨-, t, -, rfl⟩ := markOutboxRecordReady_ok hmark
    cases hsent

theorem of_sent {now : DateTime} :
    TableStep (some caseId) table (transitionToSent table caseId now).2 :=
  (of_transition (fun _ _ _ _ => List.mem_singleton_self _) fun _ _ _ _ _ => rfl).1

theorem of_failure [Platform] {policy : OutboxPolicyV1} {appEnv : String} {error : PublishError}
    {now : DateTime} :
    TableStep marked table (transitionPublishFailure table caseId policy appEnv error now).2 := by
  refine (of_transition (fun _ _ _ _ => List.mem_singleton_self _)
    fun row now next hmark hsent => ?_).1
  obtain ⟨-, t, limit, -, -, ⟨-, rfl⟩ | ⟨-, due, -, rfl⟩⟩ := markOutboxRecordPublishFailure_ok hmark
  · cases hsent
  · cases hsent

theorem of_insert {confirmed : OutboxReadyCasefileV1} {now : DateTime} :
    TableStep marked table (insertPendingObject table confirmed now).2 := by
  rcases insertPendingObject_cases table confirmed now with
    ⟨e, hcall⟩ | ⟨row, -, -, -, hcall⟩ | ⟨t, hnone, -, hcall⟩
  · rw [hcall]
    exact .refl _ _
  · rw [hcall]
    exact .refl _ _
  · rw [hcall]
    exact add hnone rfl (fun h => by cases h)

end TableStep

/-- **Marking a row** that is not `SENT` and can be marked. -/
theorem transitionToSent_marks {table : OutboxTable} {record row : OutboxRecord} {now : Instant}
    (hget : table.get? record.caseId = some row) (hopen : row.status ≠ .sent)
    (hcan : OutboxWorker.CanSend now table record) :
    ∃ row', (transitionToSent table record.caseId (.aware now)).2.get? record.caseId = some row' ∧
      SameFile row row' ∧ row'.status = .sent := by
  obtain ⟨r, hr⟩ := OutboxWorker.transitionToSent_returns.mpr hcan
  rcases transition_cases (fun current => [current.status]) markOutboxRecordSent
    (fun _ _ _ _ => List.mem_singleton_self _) table record.caseId (.aware now) .sent with
    ⟨e, hcall⟩ | ⟨row', hget', hsent, -⟩ | ⟨row', next, t, hget', -, hmark, hcall⟩
  · rw [transitionToSent, hcall] at hr
    cases hr
  · obtain rfl := Option.some.inj (hget.symm.trans hget')
    exact absurd hsent hopen
  · obtain rfl := Option.some.inj (hget.symm.trans hget')
    obtain ⟨-, u, -, rfl⟩ := markOutboxRecordSent_ok hmark
    refine ⟨row.update (sentRecord row u), ?_, ⟨rfl, rfl, rfl⟩, rfl⟩
    rw [transitionToSent, hcall, Dict.get?_set, if_pos rfl]

/-- A row that is `SENT` after the call was so, or could be marked. -/
theorem canSend_of_sent {table : OutboxTable} {record row' : OutboxRecord} {now : Instant}
    (hget : (transitionToSent table record.caseId (.aware now)).2.get? record.caseId = some row')
    (hsent : row'.status = .sent) :
    (∃ row, table.get? record.caseId = some row ∧ row.status = .sent) ∨
      OutboxWorker.CanSend now table record := by
  rcases hcall : transitionToSent table record.caseId (.aware now) with ⟨e | r, table'⟩
  · obtain rfl := OutboxWorker.transitionToSent_error hcall
    rw [hcall] at hget
    exact .inl ⟨row', hget, hsent⟩
  · exact .inr (OutboxWorker.transitionToSent_returns.mp ⟨r, by rw [hcall]⟩)

/-! ## Publishers -/

/-- What a publisher is set up with. -/
structure PublisherConfig where
  /-- the worker -/
  worker : OutboxWorker
  /-- the denylist -/
  denylist : DenylistV1
  /-- the adapter -/
  kafka : KafkaPublisher

/-- How far a publisher is. -/
inductive PublisherTask where
  /-- it does nothing -/
  | idle
  /-- the worker has these records left, and turns to the first of them -/
  | batch (todo : List OutboxRecord)
  /-- it has published the record -/
  | published (record : OutboxRecord) (todo : List OutboxRecord)
  /-- it has to record a failure of the record -/
  | failed (record : OutboxRecord) (error : PublishError) (todo : List OutboxRecord)
  /-- the helper has inserted the row of a casefile -/
  | inserted (confirmed : OutboxReadyCasefileV1) (event : CaseHeaderEventV1)
  /-- it has the `READY` record, of the repository or made without one -/
  | ready (record : OutboxRecord) (event : CaseHeaderEventV1) (persisted : Bool)
  /-- it has published the header for a record of the repository -/
  | headerPublished (record : OutboxRecord)

/-- The record both events of which are published, and which is to be marked. -/
def PublisherTask.published? : PublisherTask → Option OutboxRecord
  | .published record _ => some record
  | _ => none

/-- The record whose header is published, and which is to be marked. -/
def PublisherTask.headerPublished? : PublisherTask → Option OutboxRecord
  | .headerPublished record => some record
  | _ => none

theorem PublisherTask.published?_eq_some {task : PublisherTask} {record : OutboxRecord} :
    task.published? = some record ↔ ∃ todo, task = .published record todo := by
  cases task <;> simp [published?]

/-- The publishers and what they share. -/
structure PublishingState (ι : Type) where
  /-- the `outbox` table -/
  table : OutboxTable
  /-- the object store -/
  objects : ObjectStore
  /-- what the object store was before -/
  earlier : List ObjectStore
  /-- the events handed to the broker -/
  produced : List CaseEvent
  /-- the events it has acknowledged -/
  acknowledged : List CaseEvent
  /-- what each publisher is at -/
  task : ι → PublisherTask

/-- A step, with what the environment answers. The clock of each step is free. -/
inductive PublishingLabel (ι : Type) where
  /-- objects are written or purged -/
  | store (objects : ObjectStore)
  /-- the broker acknowledges an event it was handed -/
  | report (event : CaseEvent)
  /-- a publisher has finished, or crashes -/
  | stop (i : ι)
  /-- `select_publishable` -/
  | select (i : ι) (now : Instant)
  /-- `publish_case_events_after_invariant_a` -/
  | publishEvents (i : ι) (remote : Remote) (run : ProducerRun 2)
  /-- `transition_to_sent` of the worker -/
  | markSent (i : ι) (now : Instant)
  /-- `transition_publish_failure` -/
  | recordFailure (i : ι) (now : Instant)
  /-- `insert_pending_object` -/
  | insert (i : ι) (confirmed : OutboxReadyCasefileV1) (event : CaseHeaderEventV1) (now : Instant)
  /-- `create_ready_outbox_record`, when the helper has no repository -/
  | createReady (i : ι) (confirmed : OutboxReadyCasefileV1) (event : CaseHeaderEventV1)
      (now : Instant)
  /-- `transition_to_ready` -/
  | makeReady (i : ι) (now : Instant)
  /-- `publish_case_header_after_invariant_a` -/
  | publishHeader (i : ι) (remote : Remote) (run : ProducerRun 1)
  /-- `transition_to_sent` of the helper -/
  | markHeaderSent (i : ι) (now : Instant)

namespace PublishingState

variable {ι : Type} [DecidableEq ι]

/-- The outbox is empty and nobody has started. -/
def start (objects : ObjectStore) : PublishingState ι :=
  ⟨.empty, objects, [], [], [], fun _ => .idle⟩

/-- Publisher `i` is at another task. -/
def become (s : PublishingState ι) (i : ι) (task : PublisherTask) : PublishingState ι :=
  { s with task := Function.update s.task i task }

/-- Publisher `i` has called the repository. -/
def write (s : PublishingState ι) (table : OutboxTable) (i : ι) (task : PublisherTask) :
    PublishingState ι :=
  ({ s with table }).become i task

/-- Publisher `i` has sent events. -/
def send {ε : Type} (s : PublishingState ι) (sending : Sending ε) (i : ι) (task : PublisherTask) :
    PublishingState ι :=
  ({ s with
      produced := s.produced ++ sending.produced
      acknowledged := s.acknowledged ++ sending.acknowledged }).become i task

variable [Platform] (config : ι → PublisherConfig)

/-- One step. A call that raises ends the helper, and in the worker it is a failure of the
record or, when that cannot be recorded, leaves `run_once`. -/
def step (s : PublishingState ι) : PublishingLabel ι → Option (PublishingState ι)
  | .store objects => some { s with objects, earlier := s.objects :: s.earlier }
  | .report event =>
    if event ∈ s.produced then some { s with acknowledged := s.acknowledged ++ [event] } else none
  | .stop i => some (s.become i .idle)
  | .select i now =>
    match s.task i with
    | .idle =>
      match selectPublishable s.table (.aware now) (config i).worker.batchSize with
      | .ok records => some (s.become i (.batch records))
      | .error _ => some (s.become i .idle)
    | _ => none
  | .publishEvents i remote run =>
    match s.task i with
    | .batch (record :: todo) =>
      let sending := publishCaseEventsAfterInvariantA (config i).kafka record (config i).denylist
        s.objects remote run
      match sending.result with
      | .ok _ => some (s.send sending i (.published record todo))
      | .error e =>
        some (s.send sending i (.failed record (e.recorded (config i).worker.str) todo))
    | _ => none
  | .markSent i now =>
    match s.task i with
    | .published record todo =>
      match transitionToSent s.table record.caseId (.aware now) with
      | (.ok _, table) => some (s.write table i (.batch todo))
      | (.error e, table) =>
        some (s.write table i (.failed record ((config i).worker.refusal e) todo))
    | _ => none
  | .recordFailure i now =>
    match s.task i with
    | .failed record error todo =>
      match (config i).worker.recordFailure now s.table record error with
      | (.ok _, table) => some (s.write table i (.batch todo))
      | (.error _, table) => some (s.write table i .idle)
    | _ => none
  | .insert i confirmed event now =>
    match s.task i with
    | .idle =>
      match insertPendingObject s.table confirmed (.aware now) with
      | (.ok _, table) => some (s.write table i (.inserted confirmed event))
      | (.error _, table) => some (s.write table i .idle)
    | _ => none
  | .createReady i confirmed event now =>
    match s.task i with
    | .idle => some (s.become i (.ready (createReadyOutboxRecord confirmed now) event false))
    | _ => none
  | .makeReady i now =>
    match s.task i with
    | .inserted confirmed event =>
      match transitionToReady s.table confirmed.caseId (.aware now) with
      | (.ok record, table) => some (s.write table i (.ready record event true))
      | (.error _, table) => some (s.write table i .idle)
    | _ => none
  | .publishHeader i remote run =>
    match s.task i with
    | .ready record event persisted =>
      let sending := publishCaseHeaderAfterInvariantA (config i).kafka record event s.objects
        remote run
      match sending.result with
      | .ok _ => some (s.send sending i (if persisted then .headerPublished record else .idle))
      | .error _ => some (s.send sending i .idle)
    | _ => none
  | .markHeaderSent i now =>
    match s.task i with
    | .headerPublished record =>
      some (s.write (transitionToSent s.table record.caseId (.aware now)).2 i .idle)
    | _ => none

/-! ## What is delivered -/

variable {config}

/-- The file of a record stands in the store, or stood there. -/
def Persisted (s : PublishingState ι) (record : OutboxRecord) (casefile : CaseFileTriageV1) :
    Prop :=
  ∃ objects ∈ s.objects :: s.earlier, ConfirmedIn objects record casefile

/-- A header of the case is acknowledged. -/
def HeaderAcknowledged (s : PublishingState ι) (caseId : String) : Prop :=
  ∃ event, .caseHeader event ∈ s.acknowledged ∧ event.caseId = caseId

/-- The excerpt of a casefile is acknowledged, as a denylist has left it. -/
def ExcerptAcknowledged (s : PublishingState ι) (casefile : CaseFileTriageV1) : Prop :=
  ∃ denylist excerpt, (triageExcerptOf casefile).sanitize denylist = .ok excerpt ∧
    excerpt.caseId = casefile.caseId ∧ .triageExcerpt excerpt ∈ s.acknowledged

/-- Both events are acknowledged, for a persisted file of the case and the hash of the record. -/
def Delivered (s : PublishingState ι) (record : OutboxRecord) : Prop :=
  ∃ casefile, s.Persisted record casefile ∧ s.HeaderAcknowledged casefile.caseId ∧
    s.ExcerptAcknowledged casefile

/-- The excerpt is. -/
def ExcerptDelivered (s : PublishingState ι) (record : OutboxRecord) : Prop :=
  ∃ casefile, s.Persisted record casefile ∧ s.ExcerptAcknowledged casefile

/-- Every row that is `SENT` has both events delivered. -/
def SentDelivered (s : PublishingState ι) : Prop :=
  ∀ caseId row, s.table.get? caseId = some row → row.status = .sent → s.Delivered row

/-- A helper that marks a row only marks one whose excerpt is delivered: the row is `SENT`
already, or the sent record cannot be stored, or a worker has sent the excerpt and did not
get to mark the row. -/
def MarksDelivered (s : PublishingState ι) : PublishingLabel ι → Prop
  | .markHeaderSent i now => ∀ record, s.task i = .headerPublished record →
      ∀ row, s.table.get? record.caseId = some row → row.status ≠ .sent →
        OutboxWorker.CanSend now s.table record → s.ExcerptDelivered row
  | _ => True

end PublishingState

/-! ## The invariant -/

/-- The record is of a row of the table. -/
def OfRow (table : OutboxTable) (record : OutboxRecord) : Prop :=
  ∃ row, table.get? record.caseId = some row ∧ SameFile record row

theorem OfRow.step {marked : Option String} {table table' : OutboxTable} {record : OutboxRecord}
    (h : OfRow table record) (hstep : TableStep marked table table') : OfRow table' record := by
  obtain ⟨row, hrow, hsame⟩ := h
  obtain ⟨row', hrow', hsame'⟩ := hstep.kept _ _ hrow
  exact ⟨row', hrow', hsame.trans hsame'⟩

namespace PublishingState

section Invariant

variable {ι : Type} [Platform] {s s' : PublishingState ι} {record row : OutboxRecord}

theorem Persisted.congr {casefile : CaseFileTriageV1} (h : SameFile record row)
    (hpersisted : s.Persisted record casefile) : s.Persisted row casefile := by
  obtain ⟨objects, hobjects, hconfirmed⟩ := hpersisted
  exact ⟨objects, hobjects, hconfirmed.congr h⟩

theorem Delivered.congr (h : SameFile record row) (hdelivered : s.Delivered record) :
    s.Delivered row := by
  obtain ⟨casefile, hpersisted, hboth⟩ := hdelivered
  exact ⟨casefile, hpersisted.congr h, hboth⟩

/-- What holds of a publisher at a task: its records are of rows of the table, and what it
means to mark is delivered as far as it has published it. -/
def TaskSound (s : PublishingState ι) : PublisherTask → Prop
  | .idle => True
  | .batch todo => ∀ r ∈ todo, OfRow s.table r
  | .published record todo =>
    OfRow s.table record ∧ s.Delivered record ∧ ∀ r ∈ todo, OfRow s.table r
  | .failed _ _ todo => ∀ r ∈ todo, OfRow s.table r
  | .inserted _ _ => True
  | .ready record _ persisted => persisted = true → OfRow s.table record
  | .headerPublished record => OfRow s.table record ∧
      (∃ casefile, s.Persisted record casefile) ∧ s.HeaderAcknowledged record.caseId

/-- The invariant of a state. -/
structure Sound (s : PublishingState ι) : Prop where
  /-- every row is the row of its key -/
  own : OwnKeys s.table
  /-- every publisher is sound -/
  tasks : ∀ i, s.TaskSound (s.task i)

/-- What a step does, when it may mark the row of a case. -/
structure Moves (marked : Option String) (s s' : PublishingState ι) : Prop where
  /-- to the table -/
  table : TableStep marked s.table s'.table
  /-- contents of the object store are remembered -/
  stores : s.objects :: s.earlier ⊆ s'.objects :: s'.earlier
  /-- what is acknowledged stays so -/
  acknowledged : s.acknowledged ⊆ s'.acknowledged
  /-- a publisher stays where it is, or is sound at its new task -/
  tasks : ∀ i, s'.task i = s.task i ∨ s'.TaskSound (s'.task i)

variable {marked : Option String}

theorem Persisted.mono {casefile : CaseFileTriageV1} (hpersisted : s.Persisted record casefile)
    (h : Moves marked s s') : s'.Persisted record casefile := by
  obtain ⟨objects, hobjects, hconfirmed⟩ := hpersisted
  exact ⟨objects, h.stores hobjects, hconfirmed⟩

theorem HeaderAcknowledged.mono {caseId : String} (hheader : s.HeaderAcknowledged caseId)
    (h : Moves marked s s') : s'.HeaderAcknowledged caseId := by
  obtain ⟨event, hevent, hid⟩ := hheader
  exact ⟨event, h.acknowledged hevent, hid⟩

theorem Delivered.mono (hdelivered : s.Delivered record) (h : Moves marked s s') :
    s'.Delivered record := by
  obtain ⟨casefile, hpersisted, hheader, denylist, excerpt, hsanitize, hid, hexcerpt⟩ := hdelivered
  exact ⟨casefile, hpersisted.mono h, hheader.mono h, denylist, excerpt, hsanitize, hid,
    h.acknowledged hexcerpt⟩

/-- A sound task stays so while other publishers take steps. -/
theorem TaskSound.mono {task : PublisherTask} (htask : s.TaskSound task) (h : Moves marked s s') :
    s'.TaskSound task := by
  cases task with
  | idle => trivial
  | inserted _ _ => trivial
  | batch todo => exact fun r hr => (htask r hr).step h.table
  | failed _ _ todo => exact fun r hr => (htask r hr).step h.table
  | published record todo =>
    obtain ⟨hrow, hdelivered, htodo⟩ := htask
    exact ⟨hrow.step h.table, hdelivered.mono h, fun r hr => (htodo r hr).step h.table⟩
  | ready record event persisted => exact fun hpersisted => (htask hpersisted).step h.table
  | headerPublished record =>
    obtain ⟨hrow, ⟨casefile, hpersisted⟩, hheader⟩ := htask
    exact ⟨hrow.step h.table, ⟨casefile, hpersisted.mono h⟩, hheader.mono h⟩

theorem Sound.moves (hs : s.Sound) (h : Moves marked s s') : s'.Sound where
  own := h.table.own hs.own
  tasks i := by
    rcases h.tasks i with hsame | hsound
    · rw [hsame]
      exact (hs.tasks i).mono h
    · exact hsound

theorem sound_start (objects : ObjectStore) : (start objects : PublishingState ι).Sound where
  own caseId row hrow := by cases hrow
  tasks _ := trivial

end Invariant

/-! ## Steps -/

section Steps

variable {ι : Type} [DecidableEq ι] [Platform] {config : ι → PublisherConfig}
  {s s' : PublishingState ι} {marked : Option String} {i : ι} {task : PublisherTask}

theorem task_become (h : (s.become i task).TaskSound task) (j : ι) :
    (s.become i task).task j = s.task j ∨ (s.become i task).TaskSound ((s.become i task).task j) := by
  by_cases hj : j = i
  · have hnew : (s.become i task).task j = task := by
      rw [hj]
      exact Function.update_self ..
    right
    rw [hnew]
    exact h
  · exact .inl (Function.update_of_ne hj ..)

theorem Moves.become (h : (s.become i task).TaskSound task) : Moves marked s (s.become i task) where
  table := .refl _ _
  stores := List.Subset.refl _
  acknowledged := List.Subset.refl _
  tasks := task_become h

theorem Moves.write {table : OutboxTable} (htable : TableStep marked s.table table)
    (h : (s.write table i task).TaskSound task) : Moves marked s (s.write table i task) where
  table := htable
  stores := List.Subset.refl _
  acknowledged := List.Subset.refl _
  tasks := task_become h

theorem Moves.send {ε : Type} {sending : Sending ε} (h : (s.send sending i task).TaskSound task) :
    Moves marked s (s.send sending i task) where
  table := .refl _ _
  stores := List.Subset.refl _
  acknowledged := List.subset_append_left _ _
  tasks := task_become h

/-- The case whose row a step may mark. -/
def marks (s : PublishingState ι) : PublishingLabel ι → Option String
  | .markSent i _ =>
    match s.task i with
    | .published record _ => some record.caseId
    | _ => none
  | .markHeaderSent i _ =>
    match s.task i with
    | .headerPublished record => some record.caseId
    | _ => none
  | _ => none

/-- **Step lemma**: a step marks at most the row of a record that its publisher has published. -/
theorem step_moves {l : PublishingLabel ι} (hs : s.Sound) (h : step config s l = some s') :
    Moves (s.marks l) s s' := by
  cases l with
  | store objects =>
    cases h
    exact ⟨.refl _ _, List.subset_cons_self _ _, List.Subset.refl _, fun _ => .inl rfl⟩
  | report event =>
    simp only [step] at h
    split at h
    · cases h
      exact ⟨.refl _ _, List.Subset.refl _, List.subset_append_left _ _, fun _ => .inl rfl⟩
    · cases h
  | stop i =>
    cases h
    exact .become trivial
  | select i now =>
    simp only [step] at h
    split at h
    · split at h
      · next records hselect =>
        cases h
        refine .become fun r hr => ?_
        obtain ⟨⟨caseId, hget⟩, -⟩ := mem_of_selectPublishable hselect r hr
        obtain rfl := hs.own _ _ hget
        exact ⟨r, hget, .refl r⟩
      · cases h
        exact .become trivial
    · cases h
  | publishEvents i remote run =>
    have hsound := hs.tasks i
    simp only [step] at h
    split at h
    · next record todo htask =>
      rw [htask] at hsound
      obtain ⟨hrecord, htodo⟩ := List.forall_mem_cons.mp hsound
      split at h
      · next hresult =>
        cases h
        obtain ⟨casefile, excerpt, hconfirmed, hsanitize, hid, hheader, hexcerpt⟩ :=
          publishCaseEventsAfterInvariantA_eq_ok hresult
        exact .send ⟨hrecord, ⟨casefile, ⟨s.objects, List.mem_cons_self, hconfirmed⟩,
          ⟨_, List.mem_append_right _ hheader, rfl⟩,
          _, excerpt, hsanitize, hid, List.mem_append_right _ hexcerpt⟩, htodo⟩
      · cases h
        exact .send htodo
    · cases h
  | markSent i now =>
    have hsound := hs.tasks i
    simp only [step] at h
    split at h
    · next record todo htask =>
      rw [htask] at hsound
      obtain ⟨-, -, htodo⟩ := hsound
      have htable : TableStep (some record.caseId) s.table
        (transitionToSent s.table record.caseId (.aware now)).2 := .of_sent
      rw [show s.marks (.markSent i now) = some record.caseId by simp only [marks, htask]]
      split at h
      · next hcall =>
        cases h
        rw [hcall] at htable
        exact .write htable fun r hr => (htodo r hr).step htable
      · next hcall =>
        cases h
        rw [hcall] at htable
        exact .write htable fun r hr => (htodo r hr).step htable
    · cases h
  | recordFailure i now =>
    have hsound := hs.tasks i
    simp only [step] at h
    split at h
    · next record error todo htask =>
      rw [htask] at hsound
      have htable : TableStep none s.table
          ((config i).worker.recordFailure now s.table record error).2 := by
        have hfailure : TableStep none s.table (transitionPublishFailure s.table record.caseId
          (config i).worker.policy (config i).worker.appEnv error (.aware now)).2 := .of_failure
        unfold OutboxWorker.recordFailure
        split
        · next hcall =>
          rw [hcall] at hfailure
          exact hfailure
        · next hcall =>
          rw [hcall] at hfailure
          exact hfailure
      split at h
      · next hcall =>
        cases h
        rw [hcall] at htable
        exact .write htable fun r hr => (hsound r hr).step htable
      · next hcall =>
        cases h
        rw [hcall] at htable
        exact .write htable trivial
    · cases h
  | insert i confirmed event now =>
    simp only [step] at h
    split at h
    · have htable : TableStep none s.table (insertPendingObject s.table confirmed (.aware now)).2 :=
        .of_insert
      split at h
      · next hcall =>
        cases h
        rw [hcall] at htable
        exact .write htable trivial
      · next hcall =>
        cases h
        rw [hcall] at htable
        exact .write htable trivial
    · cases h
  | createReady i confirmed event now =>
    simp only [step] at h
    split at h
    · cases h
      exact .become fun hpersisted => by cases hpersisted
    · cases h
  | makeReady i now =>
    simp only [step] at h
    split at h
    · next confirmed event htask =>
      obtain ⟨htable, hreturned⟩ : TableStep none s.table
          (transitionToReady s.table confirmed.caseId (.aware now)).2 ∧ _ := TableStep.of_ready
      split at h
      · next record table hcall =>
        cases h
        rw [hcall] at htable hreturned
        have hget := hreturned record rfl
        refine .write htable fun _ => ?_
        obtain hid := htable.own hs.own _ _ hget
        exact ⟨record, by rw [hid]; exact hget, .refl record⟩
      · next hcall =>
        cases h
        rw [hcall] at htable
        exact .write htable trivial
    · cases h
  | publishHeader i remote run =>
    have hsound := hs.tasks i
    simp only [step] at h
    split at h
    · next record event persisted htask =>
      rw [htask] at hsound
      split at h
      · next hresult =>
        cases h
        obtain ⟨hid, ⟨casefile, hconfirmed⟩, hheader⟩ :=
          publishCaseHeaderAfterInvariantA_eq_ok hresult
        cases persisted with
        | false => exact .send trivial
        | true =>
          exact .send ⟨hsound rfl, ⟨casefile, s.objects, List.mem_cons_self, hconfirmed⟩,
            event, List.mem_append_right _ hheader, hid⟩
      · cases h
        exact .send trivial
    · cases h
  | markHeaderSent i now =>
    simp only [step] at h
    split at h
    · next record htask =>
      cases h
      rw [show s.marks (.markHeaderSent i now) = some record.caseId by simp only [marks, htask]]
      exact .write .of_sent trivial
    · cases h

/-- **What a step needs** to keep every `SENT` row delivered. -/
theorem sentDelivered_step_iff {l : PublishingLabel ι} (hs : s.Sound) (hsent : s.SentDelivered)
    (h : step config s l = some s') : s'.SentDelivered ↔ s.MarksDelivered l := by
  have hmoves := step_moves hs h
  -- a row that was sent before is delivered
  have hbefore : ∀ caseId row', s'.table.get? caseId = some row' →
      (∃ row, s.table.get? caseId = some row ∧ row.status = .sent) → s'.Delivered row' := by
    rintro caseId row' hget' ⟨row, hget, hstatus⟩
    obtain ⟨row'', hget'', hsame⟩ := hmoves.table.kept _ _ hget
    obtain rfl := Option.some.inj (hget''.symm.trans hget')
    exact ((hsent _ _ hget hstatus).mono hmoves).congr hsame
  cases l with
  | markHeaderSent i now =>
    simp only [step] at h
    split at h
    · next record htask =>
      cases h
      have hsound := hs.tasks i
      rw [htask] at hsound
      obtain ⟨⟨row, hget, hsame⟩, -, event, hevent, hid⟩ := hsound
      constructor
      · intro hafter record' hrecord' row' hget' hopen hcan
        obtain rfl : record = record' := by
          rw [htask] at hrecord'
          cases hrecord'
          rfl
        obtain rfl := Option.some.inj (hget.symm.trans hget')
        obtain ⟨sent, hsentGet, hsame', hstatus⟩ := transitionToSent_marks hget hopen hcan
        obtain ⟨casefile, hpersisted, -, hexcerpt⟩ := hafter _ _ hsentGet hstatus
        exact ⟨casefile, Persisted.congr hsame'.symm hpersisted, hexcerpt⟩
      · intro hmarks caseId row' hget' hstatus
        by_cases hwas : ∃ row, s.table.get? caseId = some row ∧ row.status = .sent
        · exact hbefore caseId row' hget' hwas
        -- the call has marked the row of its record
        rcases (TableStep.of_sent.sent caseId row' hget' hstatus) with hmarked | hwas'
        · obtain rfl := Option.some.inj hmarked
          obtain ⟨row'', hget'', hsame''⟩ := hmoves.table.kept _ _ hget
          obtain rfl := Option.some.inj (hget''.symm.trans hget')
          have hcan := (canSend_of_sent hget' hstatus).resolve_left hwas
          have hopen : row.status ≠ .sent := fun hrow => hwas ⟨row, hget, hrow⟩
          obtain ⟨casefile, hpersisted, hexcerpt⟩ := hmarks record htask row hget hopen hcan
          have hcase : casefile.caseId = row.caseId := by
            obtain ⟨_, -, _, -, -, hcase, -⟩ := hpersisted
            exact hcase
          refine ⟨casefile, Persisted.congr hsame'' hpersisted, ⟨event, hevent, ?_⟩, hexcerpt⟩
          rw [hid, hcase, hsame.caseId]
        · exact hbefore caseId row' hget' hwas'
    · cases h
  | markSent i now =>
    refine iff_of_true (fun caseId row' hget' hstatus => ?_) trivial
    rcases hmoves.table.sent caseId row' hget' hstatus with hmarked | hwas
    · simp only [marks] at hmarked
      split at hmarked
      · next record todo htask =>
        obtain rfl := Option.some.inj hmarked
        have hsound := hs.tasks i
        rw [htask] at hsound
        obtain ⟨⟨row, hget, hsame⟩, hdelivered, -⟩ := hsound
        obtain ⟨row'', hget'', hsame''⟩ := hmoves.table.kept _ _ hget
        obtain rfl := Option.some.inj (hget''.symm.trans hget')
        exact (hdelivered.mono hmoves).congr (hsame.trans hsame'')
      · cases hmarked
    · exact hbefore caseId row' hget' hwas
  | _ =>
    refine iff_of_true (fun caseId row' hget' hstatus => ?_) trivial
    rcases hmoves.table.sent caseId row' hget' hstatus with hmarked | hwas
    · cases hmarked
    · exact hbefore caseId row' hget' hwas

omit [DecidableEq ι] in
/-- Nothing is `SENT` before the first step. -/
theorem sentDelivered_start (objects : ObjectStore) :
    (start objects : PublishingState ι).SentDelivered := by
  intro caseId row hrow
  cases hrow

variable (config) in
/-- **Sent means delivered**, in all states of a run, exactly when no helper marks a row whose
excerpt is not delivered. -/
theorem sent_delivered_iff (objects : ObjectStore) {ls : List (PublishingLabel ι)}
    (hrun : Runs.run (step config) (start objects) ls = some s) :
    Runs.Always (step config) SentDelivered (start objects) ls ↔
      Runs.Along (step config) MarksDelivered (start objects) ls :=
  Runs.always_iff_along (J := Sound) (fun _ _ _ hs h => hs.moves (step_moves hs h))
    (fun _ _ _ hs hsent h => sentDelivered_step_iff hs hsent h) hrun (sound_start objects)
    (sentDelivered_start objects)

/-- **Workers keep it**: in a run in which no helper marks a row, whatever the broker, the store
and the repository answer, and whatever header is published without a row. -/
theorem sentDelivered_of_workers (objects : ObjectStore) {ls : List (PublishingLabel ι)}
    (hworkers : ∀ i now, PublishingLabel.markHeaderSent i now ∉ ls)
    (hrun : Runs.run (step config) (start objects) ls = some s) : s.SentDelivered := by
  have halong : Runs.Along (step config) MarksDelivered (start objects) ls := by
    refine Runs.along_of_mem fun t l hl => ?_
    cases l with
    | markHeaderSent i now => exact absurd hl (hworkers i now)
    | _ => trivial
  have hboth : s.Sound ∧ s.SentDelivered := by
    refine Runs.run_inv_along (I := fun t => t.Sound ∧ t.SentDelivered)
      (fun t l t' ht hmarks hstep => ?_) halong hrun
      ⟨sound_start objects, sentDelivered_start objects⟩
    exact ⟨ht.1.moves (step_moves ht.1 hstep), (sentDelivered_step_iff ht.1 ht.2 hstep).mpr hmarks⟩
  exact hboth.2

end Steps

end PublishingState

/-! ## A helper alone -/

/-- A hash fits its column. -/
theorem fitsVarchar_of_isHex64 {s : String} (h : isHex64 s = true) : fitsVarchar 64 s = true := by
  rw [isHex64, Bool.and_eq_true, beq_iff_eq, List.all_eq_true] at h
  simp only [fitsVarchar, Bool.and_eq_true, decide_eq_true_eq, Bool.not_eq_true',
    List.contains_eq_mem, decide_eq_false_iff_not]
  refine ⟨h.1.le, fun hnull => ?_⟩
  have hdigit := h.2 _ hnull
  revert hdigit
  decide

/-- A stored `READY` row can be marked. -/
theorem canSend_of_ready {table : OutboxTable} {record row : OutboxRecord} {t : Instant}
    (hget : table.get? record.caseId = some row) (hstored : RowStored record.caseId row)
    (hready : row.status = .ready) (hattempts : row.deliveryAttempts = 0) :
    OutboxWorker.CanSend t table record := by
  obtain ⟨now, hnow⟩ : ∃ now, resolveTransitionNow row (.aware t) = .ok now := by
    simp [resolveTransitionNow, resolveNow, pure, Except.pure]
  have hmark : markOutboxRecordSent row (.aware t) = .ok (sentRecord row now) := by
    simp [markOutboxRecordSent, raiseIf, hready, hnow, pure, Except.pure]
  have hle := resolveTransitionNow_le hnow
  obtain ⟨hid, hpath, hhash, htime⟩ := rowToRecord_returns.mp hstored.reads
  have hfits := hstored.fits
  refine ⟨row, hget, hstored.reads, .inr ⟨_, hmark, ?_, ?_⟩⟩
  · simp only [columnsFit, OutboxRecord.update, sentRecord, Bool.and_eq_true, decide_eq_true_eq,
      hattempts, Option.all_none] at hfits ⊢
    exact ⟨⟨⟨hfits.1.1.1, by omega⟩, trivial⟩, trivial⟩
  · exact rowToRecord_returns.mpr ⟨hid, hpath, hhash, htime.trans hle⟩

namespace PublishingState

section Alone

variable {ι : Type} [DecidableEq ι] [Platform] {config : ι → PublisherConfig}

/-- The steps of one helper, at one time. -/
def helperRun (i : ι) (confirmed : OutboxReadyCasefileV1) (event : CaseHeaderEventV1)
    (run : ProducerRun 1) (t : Instant) : List (PublishingLabel ι) :=
  [.insert i confirmed event t, .makeReady i t, .publishHeader i .answered run,
    .markHeaderSent i t]

/-- **A helper alone** marks the row of a confirmed file after its header is delivered, and
nothing else is. -/
theorem run_helperRun {i : ι} {objects : ObjectStore} {confirmed : OutboxReadyCasefileV1}
    {event : CaseHeaderEventV1} {casefile : CaseFileTriageV1} {t : Instant} {run : ProducerRun 1}
    (hfits : columnsFit (createPendingOutboxRecord confirmed t) = true)
    (hevent : event.caseId = confirmed.caseId)
    (hconfirmed : ConfirmedIn objects (createPendingOutboxRecord confirmed t) casefile)
    (hsent : ((config i).kafka.publishCaseHeader event run).result = .ok ()) :
    ∃ s row, Runs.run (step config) (start objects) (helperRun i confirmed event run t) = some s ∧
      s.table.get? confirmed.caseId = some row ∧ row.status = .sent ∧
      s.acknowledged = ((config i).kafka.publishCaseHeader event run).acknowledged := by
  set pending := createPendingOutboxRecord confirmed t with hpending
  have hstored : RowStored confirmed.caseId pending := ⟨rfl, rowToRecord_pending confirmed t, hfits⟩
  -- the row is inserted
  have hnone : (Dict.empty : OutboxTable).get? confirmed.caseId = none := rfl
  have hinsert := insertPendingObject_of_none t hnone
  rw [if_pos hfits] at hinsert
  let s₁ : PublishingState ι :=
    (start objects).write (Dict.empty.set confirmed.caseId pending) i (.inserted confirmed event)
  have h₁ : step config (start objects) (.insert i confirmed event t) = some s₁ := by
    simp only [step, start, hinsert]
    rfl
  -- and moved to `READY`
  have hget₁ : s₁.table.get? confirmed.caseId = some pending := Dict.get?_set.trans (if_pos rfl)
  obtain ⟨u, hready⟩ := transitionToReady_pending (t := t) hget₁ hstored rfl
  let s₂ := s₁.write (s₁.table.set confirmed.caseId (readyRecord pending u)) i
    (.ready (readyRecord pending u) event true)
  have h₂ : step config s₁ (.makeReady i t) = some s₂ := by
    have htask : s₁.task i = .inserted confirmed event := Function.update_self ..
    simp only [step, htask, hready]
    rfl
  have hget₂ : s₂.table.get? confirmed.caseId = some (readyRecord pending u) :=
    Dict.get?_set.trans (if_pos rfl)
  have hle : pending.updatedAt ≤ u := by
    rcases transition_cases (fun _ => [.pendingObject]) markOutboxRecordReady
      (fun row now next hmark => by simp [(markOutboxRecordReady_ok hmark).1])
      s₁.table confirmed.caseId (.aware t) .ready with
      ⟨e, hcall⟩ | ⟨row, hget, hstatus, -⟩ | ⟨row, next, t', hget, -, hmark, hcall⟩
    · cases hcall.symm.trans hready
    · obtain rfl := Option.some.inj (hget₁.symm.trans hget)
      cases hstatus
    · obtain rfl := Option.some.inj (hget₁.symm.trans hget)
      obtain ⟨-, v, hv, rfl⟩ := markOutboxRecordReady_ok hmark
      have huv := congrArg (fun call => call.1.toOption.map OutboxRecord.updatedAt)
        (hcall.symm.trans hready)
      cases Option.some.inj huv
      exact hv
  -- its header is published
  have hread : readbackCasefileForOutboxRecord (readyRecord pending u) objects .answered =
      .ok casefile := readback_eq_ok.mpr ⟨rfl, hconfirmed.congr ⟨rfl, rfl, rfl⟩⟩
  have hpublish : publishCaseHeaderAfterInvariantA (config i).kafka (readyRecord pending u) event
      objects .answered run = (config i).kafka.publishCaseHeader event run := by
    have hstatus : (readyRecord pending u).status = .ready := rfl
    have hid : event.caseId = (readyRecord pending u).caseId := hevent
    rw [publishCaseHeaderAfterInvariantA, if_neg (not_not.mpr hstatus), if_neg (not_not.mpr hid),
      hread]
  let s₃ := s₂.send ((config i).kafka.publishCaseHeader event run) i
    (.headerPublished (readyRecord pending u))
  have h₃ : step config s₂ (.publishHeader i .answered run) = some s₃ := by
    have htask : s₂.task i = .ready (readyRecord pending u) event true := Function.update_self ..
    have hobjects : s₂.objects = objects := rfl
    simp only [step, htask, hobjects, hpublish, hsent]
    rfl
  -- and the row is marked
  have hcan : OutboxWorker.CanSend t s₃.table (readyRecord pending u) :=
    canSend_of_ready hget₂ (hstored.ready hle) rfl rfl
  have hget₃ : s₃.table.get? (readyRecord pending u).caseId = some (readyRecord pending u) := hget₂
  obtain ⟨row, hget, -, hstatus⟩ := transitionToSent_marks hget₃ (fun h => by cases h) hcan
  let s₄ := s₃.write (transitionToSent s₃.table (readyRecord pending u).caseId (.aware t)).2 i .idle
  have h₄ : step config s₃ (.markHeaderSent i t) = some s₄ := by
    have htask : s₃.task i = .headerPublished (readyRecord pending u) := Function.update_self ..
    simp only [step, htask]
    rfl
  refine ⟨s₄, row, ?_, hget, hstatus, List.nil_append _⟩
  simp only [helperRun, Runs.run_cons, h₁, h₂, h₃, h₄, Runs.run_nil, Option.bind_some]

end Alone

/-! ## The helper on the casefile of the orders -/

section Orders

/-- The file of the orders, as its outbox row has it. -/
def ordersConfirmed [Platform] : OutboxReadyCasefileV1 where
  caseId := "case-orders"
  objectPath := "cases/case-orders/triage.json"
  triageHash := ordersHash.val
  caseId_ne := by decide
  objectPath_ok := by decide +kernel
  triageHash_ok := ordersHash.property

/-- The broker acknowledges the one message of a batch. -/
def oneDelivered : ProducerRun 1 where
  raised := none
  reports := [(0, none)]
  pendingCount := 0
  flushed _ _ i := ⟨none, by simp [Fin.eq_zero i]⟩

/-- How the publishers are set up. -/
def ordersPublishers {ι : Type} (_ : ι) : PublisherConfig :=
  ⟨OutboxWorker.prodWorker, ordersConfig.denylist, { str := fun _ => "kafka error" }⟩

/-- One helper publishes the header of the orders. -/
def ordersHelperRun [Platform] : List (PublishingLabel Unit) :=
  helperRun () ordersConfirmed (caseHeaderOf ordersTriage) oneDelivered newYear2026

/-- Where it ends: the row is `SENT`, and the header is all that is acknowledged. -/
theorem run_ordersHelperRun [Platform] : ∃ s row,
    Runs.run (step ordersPublishers) (start ordersStore) ordersHelperRun = some s ∧
      s.table.get? "case-orders" = some row ∧ row.status = .sent ∧
      s.acknowledged = [.caseHeader (caseHeaderOf ordersTriage)] := by
  have hfits : columnsFit (createPendingOutboxRecord ordersConfirmed newYear2026) = true := by
    simp only [columnsFit, createPendingOutboxRecord, ordersConfirmed, Bool.and_eq_true,
      Option.all_none, fitsVarchar_of_isHex64 ordersHash.property, and_true]
    exact ⟨⟨by decide +kernel, by decide +kernel⟩, rfl⟩
  obtain ⟨body, hbody, hread⟩ := ordersStore_stored
  have hconfirmed : ConfirmedIn ordersStore (createPendingOutboxRecord ordersConfirmed newYear2026)
      (triageModel.wired (triageModel.finalize ordersTriage)) := by
    refine ⟨body, ?_, hread, rfl, rfl⟩
    have hkey : "cases/case-orders/triage.json" = stageKey "case-orders" .triage := by
      decide +kernel
    rw [← hbody]
    exact congrArg ordersStore.get? hkey
  have hsent : ((ordersPublishers ()).kafka.publishCaseHeader (caseHeaderOf ordersTriage)
      oneDelivered).result = .ok () := rfl
  exact run_helperRun hfits rfl hconfirmed hsent

/-- The helper marks a row whose excerpt is not sent. -/
theorem helper_marks_undelivered :
    let _ := asciiPlatform []
    ∃ s, Runs.run (step ordersPublishers) (start ordersStore) ordersHelperRun = some s ∧
      ¬ s.SentDelivered := by
  intro _
  obtain ⟨s, row, hrun, hget, hstatus, hacknowledged⟩ := run_ordersHelperRun
  refine ⟨s, hrun, fun hdelivered => ?_⟩
  obtain ⟨casefile, -, -, denylist, excerpt, -, -, hexcerpt⟩ := hdelivered _ _ hget hstatus
  rw [hacknowledged, List.mem_singleton] at hexcerpt
  cases hexcerpt

/-- The broker acknowledges both messages of a batch. -/
def bothDelivered : ProducerRun 2 where
  raised := none
  reports := [(0, none), (1, none)]
  pendingCount := 0
  flushed _ _ i := ⟨none, by revert i; decide⟩

/-- A helper publishes the header of the orders, and a worker both events, before either has marked
the row. -/
def bothPublish [Platform] : List (PublishingLabel Bool) :=
  [.insert true ordersConfirmed (caseHeaderOf ordersTriage) newYear2026, .makeReady true newYear2026,
    .publishHeader true .answered oneDelivered, .select false newYear2026,
    .publishEvents false .answered bothDelivered]

/-- The helper marks the row first. -/
def bothMark : List (PublishingLabel Bool) :=
  [.markHeaderSent true newYear2026, .markSent false newYear2026]

/-- The helper marks a row whose excerpt the worker has sent. -/
theorem sent_delivered_iff_orders :
    let _ := asciiPlatform []
    ∃ s : PublishingState Bool,
      Runs.run (step ordersPublishers) (start ordersStore) (bothPublish ++ bothMark) = some s ∧
      Runs.Always (step ordersPublishers) SentDelivered (start ordersStore) (bothPublish ++ bothMark) ∧
      (s.table.get? "case-orders").map OutboxRecord.status = some .sent := by
  intro _
  have hcheck : (Runs.run (step ordersPublishers) (start ordersStore) bothPublish).map (fun t =>
      (((t.task false).published?.map OutboxRecord.caseId,
          (t.task true).headerPublished?.map OutboxRecord.caseId),
        (Runs.run (step ordersPublishers) t bothMark).map fun s =>
          (s.table.get? "case-orders").map OutboxRecord.status)) =
      some ((some "case-orders", some "case-orders"), some (some .sent)) := by
    decide +kernel
  obtain ⟨t, ht, hfacts⟩ := Option.map_eq_some_iff.mp hcheck
  simp only [Prod.mk.injEq] at hfacts
  obtain ⟨⟨hworker, hhelper⟩, hmarked⟩ := hfacts
  obtain ⟨s, hs, hstatus⟩ := Option.map_eq_some_iff.mp hmarked
  have hrun : Runs.run (step ordersPublishers) (start ordersStore) (bothPublish ++ bothMark) =
      some s := by
    rw [Runs.run_append, ht]
    exact hs
  have hsound : t.Sound := Runs.run_inv (I := Sound)
    (fun _ _ _ hs h => hs.moves (step_moves hs h)) ht (sound_start ordersStore)
  refine ⟨s, hrun, (sent_delivered_iff ordersPublishers ordersStore hrun).mpr ?_, hstatus⟩
  refine (Runs.along_append ht).mpr ⟨?_, ?_, fun _ _ => ⟨trivial, fun _ _ => Runs.along_nil⟩⟩
  · refine Runs.along_of_mem fun u l hl => ?_
    cases l with
    | markHeaderSent i now => simp [bothPublish] at hl
    | _ => trivial
  · -- the row of the helper is the one whose events the worker has delivered
    intro record htask row hget _ _
    obtain ⟨published, hpublished, hid⟩ := Option.map_eq_some_iff.mp hworker
    obtain ⟨todo, hpublished⟩ := PublisherTask.published?_eq_some.mp hpublished
    have hsame : record.caseId = published.caseId := by
      rw [htask] at hhelper
      exact (Option.some.inj hhelper).trans hid.symm
    have hdelivered := hsound.tasks false
    rw [hpublished] at hdelivered
    obtain ⟨⟨row', hrow', hfile⟩, hdelivered, -⟩ := hdelivered
    rw [hsame, hrow'] at hget
    cases hget
    obtain ⟨casefile, hpersisted, -, hexcerpt⟩ := hdelivered.congr hfile
    exact ⟨casefile, hpersisted, hexcerpt⟩

end Orders

end PublishingState

end AiopsTriage
