import AiopsTriage.CaseFile.Storage
import AiopsTriage.Events
import AiopsTriage.Outbox.Worker

/-!
# Publishing the events of a case

Before anything is sent for a record, its triage file is read back from the object store, and
must be sealed and of the case and the hash of the record. The worker's path then builds both
events from the file and sends them in one batch; the older path sends a header that its
caller has made.

A batch is sent when the producer takes every message, reports no error and has nothing left
to report (`publishBatch_eq_ok`). The producer is a client library: what it does with a batch
is a `ProducerRun`, and of these it is known that a `flush` that returns 0 has called back for
every message.
-/

namespace AiopsTriage

/-! ## Events -/

/-- `build_outbox_case_events`, the header. -/
def caseHeaderOf (casefile : CaseFileTriageV1) : CaseHeaderEventV1 where
  caseId := casefile.caseId
  env := casefile.gateInput.env
  clusterId := casefile.gateInput.clusterId
  streamId := casefile.gateInput.streamId
  topic := casefile.gateInput.topic
  anomalyFamily := casefile.gateInput.anomalyFamily
  criticalityTier := casefile.topologyContext.criticalityTier
  finalAction := casefile.actionDecision.finalAction
  routingKey := casefile.topologyContext.routing.routingKey
  evaluationTs := casefile.triageTimestamp

/-- `build_outbox_case_events`, the excerpt. -/
def triageExcerptOf (casefile : CaseFileTriageV1) : TriageExcerptV1 where
  caseId := casefile.caseId
  env := casefile.gateInput.env
  clusterId := casefile.gateInput.clusterId
  streamId := casefile.gateInput.streamId
  topic := casefile.gateInput.topic
  anomalyFamily := casefile.gateInput.anomalyFamily
  topicRole := casefile.topologyContext.topicRole
  criticalityTier := casefile.topologyContext.criticalityTier
  routingKey := casefile.topologyContext.routing.routingKey
  sustained := casefile.gateInput.sustained
  peak := casefile.gateInput.peak
  evidenceStatusMap := casefile.evidenceSnapshot.evidenceStatusMap
  findings := casefile.gateInput.findings
  triageTimestamp := casefile.triageTimestamp

/-- An event that is sent to Kafka. -/
inductive CaseEvent where
  /-- `CaseHeaderEvent.v1` -/
  | caseHeader (event : CaseHeaderEventV1)
  /-- `TriageExcerpt.v1` -/
  | triageExcerpt (event : TriageExcerptV1)
  deriving DecidableEq

/-- The id of the contract an event keeps. -/
def CaseEvent.contractId : CaseEvent → String
  | caseHeader _ => "CaseHeaderEvent.v1"
  | triageExcerpt _ => "TriageExcerpt.v1"

/-- The key of the message: the case id. -/
def CaseEvent.key : CaseEvent → String
  | caseHeader event => event.caseId
  | triageExcerpt event => event.caseId

/-! ## The Kafka adapter -/

/-- A message of a batch; the event stands for its JSON text. -/
structure KafkaMessage where
  /-- the topic -/
  topic : String
  /-- the key -/
  key : String
  /-- the event -/
  value : CaseEvent
  /-- the contract it keeps -/
  contractId : String
  deriving DecidableEq

/-- What a producer does with `n` messages. -/
structure ProducerRun (n : Nat) where
  /-- the exception of `produce`, `poll` or `flush`, if one raises -/
  raised : Option Failure
  /-- the calls of the delivery callbacks before `flush` returns, each with its error if the
  message was not delivered -/
  reports : List (Fin n × Option String)
  /-- what `flush` returns: how many messages are left -/
  pendingCount : Nat
  /-- when nothing is left, every callback has been called -/
  flushed : raised = none → pendingCount = 0 → ∀ i, ∃ err, (i, err) ∈ reports

/-- `ConfluentKafkaCaseEventPublisher`, with the text of each exception. -/
structure KafkaPublisher where
  /-- the topic of the headers -/
  caseHeaderTopic : String := "aiops-case-header"
  /-- the topic of the excerpts -/
  triageExcerptTopic : String := "aiops-triage-excerpt"
  /-- `str(exc)` -/
  str : Failure → String

/-- What comes of handing events to the producer. -/
structure Sending (ε : Type) where
  /-- whether the call returns -/
  result : Except ε Unit
  /-- the events handed over, which may still arrive later -/
  produced : List CaseEvent
  /-- the events reported as delivered by then -/
  acknowledged : List CaseEvent

/-- A call that raises before it hands anything over. -/
def Sending.refused {ε : Type} (error : ε) : Sending ε := ⟨.error error, [], []⟩

namespace ProducerRun

variable {messages : List KafkaMessage} (run : ProducerRun messages.length)

/-- The events of the messages that are reported as delivered. -/
def acknowledged : List CaseEvent :=
  run.reports.filterMap fun
    | (i, none) => some (messages.get i).value
    | (_, some _) => none

/-- The texts of the errors that are reported. -/
def deliveryErrors : List String :=
  run.reports.filterMap fun
    | (_, none) => none
    | (i, some err) =>
      let contractId := (messages.get i).contractId
      some s!"{contractId}: {err}"

theorem mem_acknowledged {i : Fin messages.length} (h : (i, none) ∈ run.reports) :
    (messages.get i).value ∈ run.acknowledged :=
  List.mem_filterMap.mpr ⟨_, h, rfl⟩

theorem deliveryErrors_eq_nil (h : run.deliveryErrors = []) {i : Fin messages.length}
    {err : Option String} (hreport : (i, err) ∈ run.reports) : err = none := by
  cases err with
  | none => rfl
  | some err =>
    have hnone := List.filterMap_eq_nil_iff.mp h _ hreport
    cases hnone

end ProducerRun

namespace KafkaPublisher

variable (publisher : KafkaPublisher)

/-- The message of an event. -/
def message (event : CaseEvent) : KafkaMessage where
  topic :=
    match event with
    | .caseHeader _ => publisher.caseHeaderTopic
    | .triageExcerpt _ => publisher.triageExcerptTopic
  key := event.key
  value := event
  contractId := event.contractId

/-- `_publish_batch`: the exception it ends in. -/
def batchResult (messages : List KafkaMessage) (run : ProducerRun messages.length) :
    Except Failure Unit :=
  let contractIds := ", ".intercalate (messages.map KafkaMessage.contractId)
  match run.raised with
  | some (.criticalDependency context cause) => .error (.criticalDependency context cause)
  | some e =>
    let text := publisher.str e
    .error (.criticalDependency s!"kafka publish failed for contracts=[{contractIds}]: {text}" e)
  | none =>
    if run.deliveryErrors ≠ [] then
      let text := "; ".intercalate run.deliveryErrors
      .error (.criticalDependency s!"kafka delivery failed for contracts=[{contractIds}]: {text}"
        (.clientError text))
    else if run.pendingCount ≠ 0 then
      let left := toString run.pendingCount
      .error (.criticalDependency
        s!"kafka flush timeout for contracts=[{contractIds}]; pending_messages={left}"
        (.clientError left))
    else .ok ()

/-- `_publish_batch`. -/
def publishBatch (messages : List KafkaMessage) (run : ProducerRun messages.length) :
    Sending Failure :=
  ⟨publisher.batchResult messages run, messages.map KafkaMessage.value, run.acknowledged⟩

/-- `publish_case_header`. -/
def publishCaseHeader (event : CaseHeaderEventV1) (run : ProducerRun 1) : Sending Failure :=
  publisher.publishBatch [publisher.message (.caseHeader event)] run

/-- `publish_case_events`. -/
def publishCaseEvents (caseHeader : CaseHeaderEventV1) (triageExcerpt : TriageExcerptV1)
    (run : ProducerRun 2) : Sending Failure :=
  if caseHeader.caseId ≠ triageExcerpt.caseId then
    .refused (.invariantViolation "header/excerpt case_id mismatch for Kafka publish")
  else
    publisher.publishBatch [publisher.message (.caseHeader caseHeader),
      publisher.message (.triageExcerpt triageExcerpt)] run

variable {publisher}

/-- **A batch that is published** has all its events delivered. -/
theorem publishBatch_eq_ok {messages : List KafkaMessage} {run : ProducerRun messages.length}
    (h : (publisher.publishBatch messages run).result = .ok ()) :
    ∀ m ∈ messages, m.value ∈ (publisher.publishBatch messages run).acknowledged := by
  simp only [publishBatch, batchResult] at h ⊢
  split at h
  · cases h
  · cases h
  · next hraised =>
    split at h
    · cases h
    · next herrors =>
      split at h
      · cases h
      · next hpending =>
        intro m hm
        obtain ⟨i, rfl⟩ := List.get_of_mem hm
        obtain ⟨err, hreport⟩ := run.flushed hraised (not_not.mp hpending) i
        obtain rfl := run.deliveryErrors_eq_nil (not_not.mp herrors) hreport
        exact run.mem_acknowledged hreport

theorem publishCaseHeader_eq_ok {event : CaseHeaderEventV1} {run : ProducerRun 1}
    (h : (publisher.publishCaseHeader event run).result = .ok ()) :
    .caseHeader event ∈ (publisher.publishCaseHeader event run).acknowledged := by
  unfold publishCaseHeader at h ⊢
  exact publishBatch_eq_ok h (publisher.message (.caseHeader event)) (List.mem_singleton_self _)

theorem publishCaseEvents_eq_ok {caseHeader : CaseHeaderEventV1} {triageExcerpt : TriageExcerptV1}
    {run : ProducerRun 2}
    (h : (publisher.publishCaseEvents caseHeader triageExcerpt run).result = .ok ()) :
    caseHeader.caseId = triageExcerpt.caseId ∧
      .caseHeader caseHeader ∈
        (publisher.publishCaseEvents caseHeader triageExcerpt run).acknowledged ∧
      .triageExcerpt triageExcerpt ∈
        (publisher.publishCaseEvents caseHeader triageExcerpt run).acknowledged := by
  unfold publishCaseEvents at h ⊢
  split at h
  · cases h
  · next hsame =>
    rw [if_neg hsame]
    have hall := publishBatch_eq_ok h
    exact ⟨not_not.mp hsame, hall (publisher.message (.caseHeader caseHeader)) (by simp),
      hall (publisher.message (.triageExcerpt triageExcerpt)) (by simp)⟩

end KafkaPublisher

/-! ## Publishing after the file is confirmed -/

/-- What `publish_case_events_after_invariant_a` raises. -/
inductive PublisherFailure where
  /-- an exception of a call before the publish -/
  | failure (e : Failure)
  /-- `DenylistSanitizationError` -/
  | denylistSanitization
  /-- `PublishAfterDenylistError`, with its `error_code` -/
  | publishAfterDenylist (errorCode : String)
  deriving DecidableEq, Repr

/-- What the worker records of it: `str(exc)` and the error code. -/
def PublisherFailure.recorded (str : Failure → String) : PublisherFailure → PublishError
  | failure e => ⟨str e, some e.className⟩
  | denylistSanitization =>
    ⟨"triage excerpt denylist sanitization produced schema-invalid payload",
      some "DenylistSanitizationError"⟩
  | publishAfterDenylist errorCode =>
    ⟨"case events publish failed after denylist sanitization", some errorCode⟩

section Publish

variable [Platform]

/-- `_readback_casefile_for_outbox_record`. -/
def readbackCasefileForOutboxRecord (record : OutboxRecord) (objects : ObjectStore)
    (remote : Remote) : Except Failure CaseFileTriageV1 :=
  match getObjectBytes objects record.casefileObjectPath remote with
  | .error (.criticalDependency context cause) => .error (.criticalDependency context cause)
  | .error _ => .error (.invariantViolation
      "cannot publish case events before casefile object is readable from storage")
  | .ok payload =>
    match triageModel.validateJson payload with
    | .error _ => .error (.invariantViolation
        "cannot publish case events because persisted casefile payload failed hash validation")
    | .ok persisted => do
      raiseIf (persisted.caseId ≠ record.caseId)
        (.invariantViolation "persisted casefile case_id does not match outbox record")
      raiseIf (persisted.triageHash.val ≠ record.triageHash)
        (.invariantViolation "persisted casefile triage_hash does not match outbox record")
      return persisted

variable (publisher : KafkaPublisher)

/-- `publish_case_header_after_invariant_a`. -/
def publishCaseHeaderAfterInvariantA (record : OutboxRecord) (event : CaseHeaderEventV1)
    (objects : ObjectStore) (remote : Remote) (run : ProducerRun 1) : Sending Failure :=
  if record.status ≠ .ready then
    .refused (.invariantViolation
      s!"cannot publish case header from outbox status={record.status.value}; expected READY")
  else if event.caseId ≠ record.caseId then
    .refused (.invariantViolation
      "case_header_event.case_id does not match outbox record case_id")
  else
    match readbackCasefileForOutboxRecord record objects remote with
    | .error e => .refused e
    | .ok _ => publisher.publishCaseHeader event run

/-- `publish_case_events_after_invariant_a`. -/
def publishCaseEventsAfterInvariantA (record : OutboxRecord) (denylist : DenylistV1)
    (objects : ObjectStore) (remote : Remote) (run : ProducerRun 2) : Sending PublisherFailure :=
  if ¬(record.status = .ready ∨ record.status = .retry) then
    .refused (.failure (.invariantViolation
      s!"cannot publish case events from outbox status={record.status.value}; expected READY or RETRY"))
  else
    match readbackCasefileForOutboxRecord record objects remote with
    | .error e => .refused (.failure e)
    | .ok persisted =>
      match (triageExcerptOf persisted).sanitize denylist with
      | .error _ => .refused .denylistSanitization
      | .ok excerpt =>
        let sending := publisher.publishCaseEvents (caseHeaderOf persisted) excerpt run
        let result :=
          match sending.result with
          | .ok _ => .ok ()
          | .error e => .error (.publishAfterDenylist e.className)
        ⟨result, sending.produced, sending.acknowledged⟩

variable {publisher} {record : OutboxRecord} {objects : ObjectStore} {remote : Remote}

/-- The record's file stands in the store: sealed, and of its case and its hash. -/
def ConfirmedIn (objects : ObjectStore) (record : OutboxRecord) (casefile : CaseFileTriageV1) :
    Prop :=
  ∃ body, objects.get? record.casefileObjectPath = some body ∧
    triageModel.validateJson body = .ok casefile ∧ casefile.caseId = record.caseId ∧
    casefile.triageHash.val = record.triageHash

/-- What is read back is confirmed. -/
theorem readback_eq_ok {casefile : CaseFileTriageV1} :
    readbackCasefileForOutboxRecord record objects remote = .ok casefile ↔
      remote = .answered ∧ ConfirmedIn objects record casefile := by
  unfold readbackCasefileForOutboxRecord
  constructor
  · intro h
    split at h
    · cases h
    · cases h
    · next payload hget =>
      split at h
      · cases h
      · next persisted hread =>
        obtain ⟨_, hid, h⟩ := Except.bind_eq_ok.mp h
        obtain ⟨_, hhash, h⟩ := Except.bind_eq_ok.mp h
        cases h
        refine ⟨?_, payload, getObjectBytes_eq_ok hget, hread,
          not_not.mp (raiseIf_eq_ok.mp hid), not_not.mp (raiseIf_eq_ok.mp hhash)⟩
        cases remote with
        | answered => rfl
        | fails applied e => cases hget
  · rintro ⟨rfl, body, hbody, hread, hid, hhash⟩
    simp only [getObjectBytes, hbody, hread, hid, hhash, raiseIf, ne_eq, not_true_eq_false,
      if_false]
    rfl

/-- **The header's path**, when it returns: the file is confirmed, and a header of its case is
delivered. -/
theorem publishCaseHeaderAfterInvariantA_eq_ok {event : CaseHeaderEventV1} {run : ProducerRun 1}
    (h : (publishCaseHeaderAfterInvariantA publisher record event objects remote run).result =
      .ok ()) :
    event.caseId = record.caseId ∧ (∃ casefile, ConfirmedIn objects record casefile) ∧
      .caseHeader event ∈
        (publishCaseHeaderAfterInvariantA publisher record event objects remote run).acknowledged := by
  unfold publishCaseHeaderAfterInvariantA at h ⊢
  split at h
  · cases h
  · next hstatus =>
    split at h
    · cases h
    · next hid =>
      rw [if_neg hstatus, if_neg hid]
      split at h
      · cases h
      · next casefile hread =>
        exact ⟨not_not.mp hid, ⟨casefile, (readback_eq_ok.mp hread).2⟩,
          KafkaPublisher.publishCaseHeader_eq_ok h⟩

/-- **The worker's path**, when it returns: the file is confirmed, and its header and its
sanitised excerpt are delivered. -/
theorem publishCaseEventsAfterInvariantA_eq_ok {denylist : DenylistV1} {run : ProducerRun 2}
    (h : (publishCaseEventsAfterInvariantA publisher record denylist objects remote run).result =
      .ok ()) :
    ∃ casefile excerpt, ConfirmedIn objects record casefile ∧
      (triageExcerptOf casefile).sanitize denylist = .ok excerpt ∧
      excerpt.caseId = casefile.caseId ∧
      .caseHeader (caseHeaderOf casefile) ∈
        (publishCaseEventsAfterInvariantA publisher record denylist objects remote
          run).acknowledged ∧
      .triageExcerpt excerpt ∈
        (publishCaseEventsAfterInvariantA publisher record denylist objects remote
          run).acknowledged := by
  unfold publishCaseEventsAfterInvariantA at h ⊢
  split at h
  · cases h
  · next hstatus =>
    rw [if_neg hstatus]
    split at h
    · cases h
    · next casefile hread =>
      split at h
      · cases h
      · next excerpt hsanitize =>
        simp only at h ⊢
        split at h
        · next hsent =>
          obtain ⟨hid, hheader, hexcerpt⟩ := KafkaPublisher.publishCaseEvents_eq_ok hsent
          exact ⟨casefile, excerpt, (readback_eq_ok.mp hread).2, hsanitize, hid.symm, hheader,
            hexcerpt⟩
        · cases h

end Publish

end AiopsTriage
