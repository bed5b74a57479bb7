import AiopsTriage.CaseFile.Assembly
import AiopsTriage.HotPath.Orders

/-!
# Identity of a triage file

A casefile is sanitised before it is stored, and what is left is validated again. The
validation stands for the fields that a record cannot do without: when one of them is
removed, nothing is assembled. An item of a list, an entry of a mapping and a field with
a default are removed without an error.

So a triage file that is assembled has the environment, the cluster, the stream, the
topic, its role and the fingerprint of its gate input, and as many findings. It has the
scope, the consumer group, the keys of the evidence and the gates of the decision exactly
when none of them is denied (`identity_kept_iff`).
-/

namespace AiopsTriage

open Json

/-- What identifies a case and its decision. -/
structure CaseIdentity where
  /-- the scope tuple -/
  scope : Scope
  /-- the environment of the gate input -/
  env : Environment
  /-- its cluster -/
  clusterId : String
  /-- its stream -/
  streamId : String
  /-- its topic -/
  topic : String
  /-- the role of the topic -/
  topicRole : TopicRole
  /-- its consumer group -/
  consumerGroup : Option String
  /-- its fingerprint -/
  actionFingerprint : String
  /-- the keys of its evidence status map -/
  gateEvidence : List String
  /-- the keys of the snapshot's evidence status map -/
  snapshotEvidence : List String
  /-- the number of findings -/
  findings : Nat
  /-- the gates that were evaluated -/
  gateRuleIds : List String
  deriving DecidableEq, Repr

/-- The identity that a triage file gives a case. -/
def CaseFileTriageV1.identity (c : CaseFileTriageV1) : CaseIdentity where
  scope := c.scope
  env := c.gateInput.env
  clusterId := c.gateInput.clusterId
  streamId := c.gateInput.streamId
  topic := c.gateInput.topic
  topicRole := c.gateInput.topicRole
  consumerGroup := c.gateInput.consumerGroup
  actionFingerprint := c.gateInput.actionFingerprint
  gateEvidence := c.gateInput.evidenceStatusMap.keys
  snapshotEvidence := c.evidenceSnapshot.evidenceStatusMap.keys
  findings := c.gateInput.findings.length
  gateRuleIds := c.actionDecision.gateRuleIds

/-- The identity of what a triage file is assembled from. -/
def inputIdentity (scope : Scope) (outputs : StageOutputs) (gateInput : GateInputV1)
    (actionDecision : ActionDecisionV1) : CaseIdentity where
  scope := scope
  env := gateInput.env
  clusterId := gateInput.clusterId
  streamId := gateInput.streamId
  topic := gateInput.topic
  topicRole := gateInput.topicRole
  consumerGroup := gateInput.consumerGroup
  actionFingerprint := gateInput.actionFingerprint
  gateEvidence := gateInput.evidenceStatusMap.keys
  snapshotEvidence := (buildEvidenceSnapshot scope outputs.evidenceOutput outputs.peakOutput
    gateInput).evidenceStatusMap.keys
  findings := gateInput.findings.length
  gateRuleIds := actionDecision.gateRuleIds

section Identity

variable [Platform]

/-- An entry of an evidence status map of which neither name nor status is denied. -/
def DenylistV1.allowsStatus (d : DenylistV1) (name : String) (status : EvidenceStatus) : Bool :=
  !d.deniesName name && !d.deniesText (StrEnum.value status)

/-- Nothing that identifies the case and that can be removed without an error is denied. -/
structure IdentityAllowed (d : DenylistV1) (scope : Scope) (outputs : StageOutputs)
    (gateInput : GateInputV1) (actionDecision : ActionDecisionV1) : Prop where
  /-- no part of the scope -/
  scopeParts : ∀ part ∈ scope, d.deniesText part = false
  /-- no consumer group, by the name of its field or by its text -/
  consumerGroup : ∀ group, gateInput.consumerGroup = some group →
    d.deniesName "consumer_group" = false ∧ d.deniesText group = false
  /-- no evidence of the gate input -/
  gateEvidence : ∀ e ∈ gateInput.evidenceStatusMap.entries, d.allowsStatus e.1 e.2 = true
  /-- no evidence of the snapshot -/
  snapshotEvidence : ∀ e ∈ (buildEvidenceSnapshot scope outputs.evidenceOutput outputs.peakOutput
    gateInput).evidenceStatusMap.entries, d.allowsStatus e.1 e.2 = true
  /-- no gate of the decision -/
  gateRuleIds : ∀ id ∈ actionDecision.gateRuleIds, d.deniesText id = false

variable {denylist : DenylistV1}

/-! ## What is left of a part -/

/-- An evidence status map that is read after sanitising has the entries that are allowed. -/
theorem ReadFrom.statusMap_eq {m m' : Dict String EvidenceStatus}
    (h : ReadFrom denylist statusMap m m') : m' = m.filterEntries denylist.allowsStatus := by
  obtain ⟨kept, hkept, hdec⟩ := h
  have hentries : applyDenylist denylist (m.entries.map fun e => (e.1, Codec.enum.enc e.2)) =
      (m.filterEntries denylist.allowsStatus).entries.map fun e => (e.1, Codec.enum.enc e.2) := by
    rw [applyDenylist_eq, List.filterMap_map, Dict.filterEntries, ← List.filterMap_eq_map,
      List.filterMap_filter]
    refine List.filterMap_congr fun e _ => ?_
    rw [Function.comp_apply, DenylistV1.allowsStatus,
      show Codec.enum.enc e.2 = Json.str (StrEnum.value e.2) from rfl, sanitized_str]
    cases denylist.deniesName e.1 <;> cases denylist.deniesText (StrEnum.value e.2) <;> rfl
  rw [show statusMap.enc m = .obj (m.entries.map fun e => (e.1, Codec.enum.enc e.2)) from rfl,
    sanitized_obj, hentries, Option.some.injEq] at hkept
  subst hkept
  exact Except.ok.inj (hdec.symm.trans (statusMap.dec_enc _))

/-- A list of records that is read after sanitising is as long as it was. -/
theorem ReadFrom.length_eq {α : Type} {c : Codec α} {as as' : List α}
    (h : ReadFrom denylist c.list as as') (hobj : ∀ a, ∃ fs, c.enc a = .obj fs) :
    as'.length = as.length := by
  obtain ⟨kept, hkept, hdec⟩ := h
  -- no record is removed as a whole
  have hsome : ∀ a, (sanitized denylist (c.enc a)).isSome = true := by
    intro a
    obtain ⟨fs, hfs⟩ := hobj a
    rw [hfs, sanitized_obj]
    rfl
  have hlength : ∀ as : List α,
      ((as.map c.enc).filterMap (sanitized denylist)).length = as.length := by
    intro as
    induction as with
    | nil => rfl
    | cons a as ih =>
      obtain ⟨j, hj⟩ := Option.isSome_iff_exists.mp (hsome a)
      rw [List.map_cons, List.filterMap_cons, hj, List.length_cons, ih, List.length_cons]
  rw [show c.list.enc as = .arr (as.map c.enc) from rfl, sanitized_arr,
    Option.some.injEq] at hkept
  subst hkept
  rw [← (Codec.decItems_ok hdec).length_eq, hlength]

/-- A required field that is read was not denied. -/
theorem allowed_of_field {α : Type} {fs : List (String × Json)} {key : String} {dec : Decoder α}
    {a : α} (hnodup : (fs.map Prod.fst).Nodup)
    (h : field (applyDenylist denylist fs) key dec = .ok a) : denylist.deniesName key = false := by
  obtain ⟨j, hj, -⟩ := field_eq_ok.mp h
  rw [lookup_applyDenylist hnodup] at hj
  exact Bool.eq_false_iff.mpr fun hname => by rw [if_pos hname] at hj; cases hj

/-- A map of evidence with a default is read from what is left of it, if its name is allowed. -/
theorem statusMap_fieldOr {fs : List (String × Json)} {key : String}
    {m m' : Dict String EvidenceStatus} (hnodup : (fs.map Prod.fst).Nodup)
    (h : fieldOr (applyDenylist denylist fs) key .empty statusMap.dec = .ok m')
    (hkey : lookup key fs = some (statusMap.enc m)) (hname : denylist.deniesName key = false) :
    ReadFrom denylist statusMap m m' := by
  have hlookup := @lookup_applyDenylist _ denylist _ hnodup key
  have hsome : sanitized denylist (statusMap.enc m) = some _ := sanitized_obj
  rw [hkey, Option.bind_some, hsome, if_neg (Bool.eq_false_iff.mp hname)] at hlookup
  rcases fieldOr_eq_ok.mp h with ⟨hnone, -⟩ | ⟨j, hj, hdec⟩
  · cases hlookup.symm.trans hnone
  · obtain rfl := Option.some.inj (hlookup.symm.trans hj)
    exact ⟨_, hsome, hdec⟩

/-- An optional text that is read after sanitising is gone if its name or itself is denied. -/
theorem optText_fieldOr {fs : List (String × Json)} {key : String} {text text' : Option String}
    (hnodup : (fs.map Prod.fst).Nodup)
    (h : fieldOr (applyDenylist denylist fs) key none optText.dec = .ok text')
    (hkey : lookup key fs = some (optText.enc text)) :
    text' = text.filter fun s => !denylist.deniesName key && !denylist.deniesText s := by
  have hlookup := @lookup_applyDenylist _ denylist _ hnodup key
  rw [hkey, Option.bind_some] at hlookup
  cases text with
  | none =>
    rcases fieldOr_eq_ok.mp h with ⟨-, hdefault⟩ | ⟨j, hj, hdec⟩
    · exact hdefault.symm
    · rw [hlookup] at hj
      split at hj
      · cases hj
      · cases hj
        cases hdec
        rfl
  | some s =>
    rw [show optText.enc (some s) = Json.str s from rfl, sanitized_str] at hlookup
    rw [Option.filter_some]
    cases hname : denylist.deniesName key with
    | true =>
      rw [if_pos hname] at hlookup
      rcases fieldOr_eq_ok.mp h with ⟨-, hdefault⟩ | ⟨j, hj, -⟩
      · exact hdefault.symm
      · cases hlookup.symm.trans hj
    | false =>
      rw [if_neg (Bool.eq_false_iff.mp hname)] at hlookup
      cases htext : denylist.deniesText s with
      | true =>
        rw [if_pos htext] at hlookup
        rcases fieldOr_eq_ok.mp h with ⟨-, hdefault⟩ | ⟨j, hj, -⟩
        · exact hdefault.symm
        · cases hlookup.symm.trans hj
      | false =>
        rw [if_neg (Bool.eq_false_iff.mp htext)] at hlookup
        rcases fieldOr_eq_ok.mp h with ⟨hnone, -⟩ | ⟨j, hj, hdec⟩
        · cases hlookup.symm.trans hnone
        · obtain rfl := Option.some.inj (hlookup.symm.trans hj)
          cases hdec
          rfl

/-- What a sanitised gate input has of the gate input it was written from. -/
structure GateInputKept (denylist : DenylistV1) (g g' : GateInputV1) : Prop where
  /-- what it cannot do without -/
  required : g'.env = g.env ∧ g'.clusterId = g.clusterId ∧ g'.streamId = g.streamId ∧
    g'.topic = g.topic ∧ g'.topicRole = g.topicRole ∧ g'.actionFingerprint = g.actionFingerprint
  /-- its consumer group, if that is allowed -/
  consumerGroup : g'.consumerGroup = g.consumerGroup.filter fun s =>
    !denylist.deniesName "consumer_group" && !denylist.deniesText s
  /-- the evidence that is allowed -/
  evidenceStatusMap : g'.evidenceStatusMap = g.evidenceStatusMap.filterEntries denylist.allowsStatus
  /-- as many findings -/
  findings : g'.findings.length = g.findings.length
  /-- and evidence may be named -/
  evidenceNamed : denylist.deniesName "evidence_status_map" = false

theorem ReadFrom.gateInputKept {g g' : GateInputV1}
    (h : ReadFrom denylist GateInputV1.codec g g') : GateInputKept denylist g g' := by
  obtain ⟨kept, hkept, h⟩ := h
  rw [show GateInputV1.codec.enc g = g.dump from rfl, GateInputV1.dump, sanitized_obj,
    Option.some.injEq] at hkept
  subst hkept
  obtain ⟨fs, hfs, h⟩ := Except.bind_eq_ok.mp h
  cases hfs
  obtain ⟨_, -, h⟩ := Except.bind_eq_ok.mp h
  obtain ⟨env, henv, h⟩ := Except.bind_eq_ok.mp h
  obtain ⟨clusterId, hcluster, h⟩ := Except.bind_eq_ok.mp h
  obtain ⟨streamId, hstream, h⟩ := Except.bind_eq_ok.mp h
  obtain ⟨topic, htopic, h⟩ := Except.bind_eq_ok.mp h
  obtain ⟨topicRole, hrole, h⟩ := Except.bind_eq_ok.mp h
  obtain ⟨_, -, h⟩ := Except.bind_eq_ok.mp h
  obtain ⟨_, -, h⟩ := Except.bind_eq_ok.mp h
  obtain ⟨_, -, h⟩ := Except.bind_eq_ok.mp h
  obtain ⟨_, -, h⟩ := Except.bind_eq_ok.mp h
  obtain ⟨_, -, h⟩ := Except.bind_eq_ok.mp h
  obtain ⟨findings, hfindings, h⟩ := Except.bind_eq_ok.mp h
  obtain ⟨evidence, hevidence, h⟩ := Except.bind_eq_ok.mp h
  obtain ⟨fingerprint, hfingerprint, h⟩ := Except.bind_eq_ok.mp h
  obtain ⟨consumerGroup, hgroup, h⟩ := Except.bind_eq_ok.mp h
  obtain ⟨_, -, h⟩ := Except.bind_eq_ok.mp h
  obtain ⟨_, -, h⟩ := Except.bind_eq_ok.mp h
  obtain ⟨_, -, h⟩ := Except.bind_eq_ok.mp h
  obtain ⟨_, -, h⟩ := Except.bind_eq_ok.mp h
  rw [Except.pure_eq_ok] at h
  subst h
  refine ⟨⟨(readFrom_field (by simp) henv rfl).eq_of_str rfl,
      (readFrom_field (by simp) hcluster rfl).eq_of_str rfl,
      (readFrom_field (by simp) hstream rfl).eq_of_str rfl,
      (readFrom_field (by simp) htopic rfl).eq_of_str rfl,
      (readFrom_field (by simp) hrole rfl).eq_of_str rfl,
      (readFrom_field (by simp) hfingerprint rfl).eq_of_str rfl⟩,
    optText_fieldOr (by simp) hgroup rfl, (readFrom_field (by simp) hevidence rfl).statusMap_eq,
    (readFrom_field (by simp) hfindings rfl).length_eq fun f => ⟨_, rfl⟩,
    allowed_of_field (by simp) hevidence⟩

/-- The evidence of a sanitised snapshot is the evidence that is allowed. -/
theorem ReadFrom.snapshotEvidence {s s' : CaseFileEvidenceSnapshot}
    (h : ReadFrom denylist snapshotCodec s s')
    (hname : denylist.deniesName "evidence_status_map" = false) :
    s'.evidenceStatusMap = s.evidenceStatusMap.filterEntries denylist.allowsStatus := by
  obtain ⟨kept, hkept, h⟩ := h
  rw [snapshotCodec, sanitized_obj, Option.some.injEq] at hkept
  subst hkept
  obtain ⟨fs, hfs, h⟩ := Except.bind_eq_ok.mp h
  cases hfs
  obtain ⟨_, -, h⟩ := Except.bind_eq_ok.mp h
  obtain ⟨_, -, h⟩ := Except.bind_eq_ok.mp h
  obtain ⟨evidence, hevidence, h⟩ := Except.bind_eq_ok.mp h
  obtain ⟨_, -, h⟩ := Except.bind_eq_ok.mp h
  obtain ⟨_, -, h⟩ := Except.bind_eq_ok.mp h
  obtain ⟨_, -, h⟩ := Except.bind_eq_ok.mp h
  rw [Except.pure_eq_ok] at h
  subst h
  exact (statusMap_fieldOr (by simp) hevidence rfl hname).statusMap_eq

/-! ## What is left of the identity -/

variable {scope : Scope} {outputs : StageOutputs} {policies : TriagePolicies}
  {gateInput : GateInputV1} {actionDecision : ActionDecisionV1} {triageTimestamp : DateTime}
  {caseId : Option String}

/-- The identity after sanitising. -/
def CaseIdentity.sanitized (d : DenylistV1) (i : CaseIdentity)
    (gateEvidence snapshotEvidence : Dict String EvidenceStatus) : CaseIdentity :=
  { i with
    scope := i.scope.filter fun part => !d.deniesText part
    consumerGroup := i.consumerGroup.filter fun s =>
      !d.deniesName "consumer_group" && !d.deniesText s
    gateEvidence := (gateEvidence.filterEntries d.allowsStatus).keys
    snapshotEvidence := (snapshotEvidence.filterEntries d.allowsStatus).keys
    gateRuleIds := i.gateRuleIds.filter fun id => !d.deniesText id }

/-- The identity of an assembled triage file. -/
theorem identity_of_assembled {c : CaseFileTriageV1}
    (h : assembleCasefileTriageStage scope outputs policies gateInput actionDecision
      triageTimestamp caseId = .ok c) :
    c.identity = (inputIdentity scope outputs gateInput actionDecision).sanitized policies.denylist
      gateInput.evidenceStatusMap (buildEvidenceSnapshot scope outputs.evidenceOutput
        outputs.peakOutput gateInput).evidenceStatusMap := by
  obtain ⟨draft, sanitised, hdraft, hsanitised, -, rfl⟩ := assemble_eq_ok.mp h
  obtain ⟨-, -, hinput, hdecision, hsnapshot, hscope⟩ := draftCasefile_ok hdraft
  have hreads := sanitizeCasefile_reads hsanitised
  have hkept := hreads.gateInput.gateInputKept
  obtain ⟨henv, hcluster, hstream, htopic, hrole, hfingerprint⟩ := hkept.required
  have hidentity : (triageModel.wired (triageModel.finalize sanitised)).identity =
      sanitised.identity := rfl
  rw [hidentity, CaseFileTriageV1.identity, hreads.scope.texts_eq, henv, hcluster, hstream, htopic,
    hrole, hfingerprint, hkept.consumerGroup, hkept.evidenceStatusMap, hkept.findings,
    hreads.evidenceSnapshot.snapshotEvidence hkept.evidenceNamed,
    hreads.actionDecision.decisionKept.gateRuleIds, hscope, hinput, hdecision, hsnapshot]
  rfl

/-- Hashing and reading a casefile leaves its findings as they are. -/
theorem finalized_findings (c : CaseFileTriageV1) :
    (triageModel.wired (triageModel.finalize c)).gateInput.findings = c.gateInput.findings :=
  rfl

theorem filter_eq_self_iff {d : DenylistV1} {ts : List String} :
    (ts.filter fun t => !d.deniesText t) = ts ↔ ∀ t ∈ ts, d.deniesText t = false := by
  rw [List.filter_eq_self]
  exact forall₂_congr fun t _ => Bool.not_eq_true' _ ▸ Iff.rfl

/-- **Identity**: the triage file that is assembled has the identity of its inputs exactly when
nothing of it is denied. -/
theorem identity_kept_iff {c : CaseFileTriageV1}
    (h : assembleCasefileTriageStage scope outputs policies gateInput actionDecision
      triageTimestamp caseId = .ok c) :
    c.identity = inputIdentity scope outputs gateInput actionDecision ↔
      IdentityAllowed policies.denylist scope outputs gateInput actionDecision := by
  rw [identity_of_assembled h, CaseIdentity.sanitized, inputIdentity]
  simp only [CaseIdentity.mk.injEq, true_and, filter_eq_self_iff, Dict.keys_filterEntries]
  have hgroup : gateInput.consumerGroup.filter (fun s =>
      !policies.denylist.deniesName "consumer_group" && !policies.denylist.deniesText s) =
        gateInput.consumerGroup ↔
      ∀ group, gateInput.consumerGroup = some group →
        policies.denylist.deniesName "consumer_group" = false ∧
          policies.denylist.deniesText group = false := by
    cases gateInput.consumerGroup with
    | none => simp
    | some group => simp
  rw [hgroup]
  constructor
  · rintro ⟨hscope, hgroup, hgate, hsnapshot, hids⟩
    exact ⟨hscope, hgroup, hgate, hsnapshot, hids⟩
  · rintro ⟨hscope, hgroup, hgate, hsnapshot, hids⟩
    exact ⟨hscope, hgroup, hgate, hsnapshot, hids⟩

end Identity

/-- The policies of the orders topic, under a denylist. -/
def ordersPoliciesUnder (denylist : DenylistV1) : TriagePolicies :=
  { ordersConfig.policies with denylist }

/-- The drop of the orders topic, as one consumer group sees it. -/
def billingInput : GateInputV1 :=
  { pageInput with consumerGroup := some "billing" }

/-- A denylist that denies the id of the gate that suppresses duplicates. -/
def denylistAg5 : DenylistV1 where
  denylistVersion := "v1"
  deniedFieldNames := []
  deniedValuePatterns := ["AG5"]
  version_ne := v1_ne

/-- A denylist that denies the reason a drop is found for. -/
def denylistReason : DenylistV1 where
  denylistVersion := "v1"
  deniedFieldNames := []
  deniedValuePatterns := ["VS_BASELINE"]
  version_ne := v1_ne

/-- The draft of the triage file of the orders topic, under a denylist. -/
def ordersDraft (denylist : DenylistV1) (gateInput : GateInputV1) :
    Except Failure CaseFileTriageV1 :=
  @draftCasefile (asciiPlatform []) ordersScope ⟨ordersEvidence, ordersPeak, ordersTopology⟩
    (ordersPoliciesUnder denylist) gateInput ordersDecision (.aware newYear2026) none

/-- The triage file of the orders topic, under a denylist. -/
def ordersAssembled (denylist : DenylistV1) (gateInput : GateInputV1) :
    Except Failure CaseFileTriageV1 :=
  @assembleCasefileTriageStage (asciiPlatform []) ordersScope
    ⟨ordersEvidence, ordersPeak, ordersTopology⟩ (ordersPoliciesUnder denylist) gateInput
    ordersDecision (.aware newYear2026) none

/-- A casefile whose decision does not name that gate. -/
def withoutAg5 (c : CaseFileTriageV1) : CaseFileTriageV1 :=
  { c with actionDecision := { c.actionDecision with
      gateRuleIds := c.actionDecision.gateRuleIds.filter (· ≠ "AG5") } }

/-- A casefile whose findings have no reasons. -/
def withoutReasons (c : CaseFileTriageV1) : CaseFileTriageV1 :=
  { c with gateInput := { c.gateInput with
      findings := c.gateInput.findings.map fun f => { f with reasonCodes := [] } } }

/-- A draft of which the denylist leaves a casefile is assembled, with the findings that are left. -/
theorem ordersAssembled_of {denylist : DenylistV1} {gateInput : GateInputV1}
    {left : CaseFileTriageV1 → CaseFileTriageV1}
    (h : (ordersDraft denylist gateInput).toOption.any (fun draft =>
      let := asciiPlatform []
      decide (applyDenylist denylist draft.fields = (left draft).fields) &&
        (left draft).evidenceSnapshot.finite) = true) :
    ∃ draft c, ordersDraft denylist gateInput = .ok draft ∧
      ordersAssembled denylist gateInput = .ok c ∧
      c.gateInput.findings = (left draft).gateInput.findings := by
  let := asciiPlatform []
  cases hdraft : ordersDraft denylist gateInput with
  | error e =>
    rw [hdraft] at h
    cases h
  | ok draft =>
    rw [hdraft] at h
    obtain ⟨hleft, hfinite⟩ := (Bool.and_eq_true _ _).mp h
    refine ⟨draft, triageModel.wired (triageModel.finalize (left draft)), rfl,
      assemble_eq_ok.mpr ⟨draft, left draft, hdraft, ?_, hfinite, rfl⟩, finalized_findings _⟩
    rw [sanitizeCasefile, show (ordersPoliciesUnder denylist).denylist = denylist from rfl,
      of_decide_eq_true hleft, CaseFileTriageV1.validate_fields]

/-- The reasons of the findings are removed, and the casefile keeps its identity, its consumer
group included. -/
theorem identity_kept_iff_orders : ∃ c, ordersAssembled denylistReason billingInput = .ok c ∧
    c.gateInput.findings.map Finding.reasonCodes = [[]] ∧
    @IdentityAllowed (asciiPlatform []) denylistReason ordersScope
      ⟨ordersEvidence, ordersPeak, ordersTopology⟩ billingInput ordersDecision ∧
    c.identity = inputIdentity ordersScope ⟨ordersEvidence, ordersPeak, ordersTopology⟩ billingInput
      ordersDecision := by
  obtain ⟨draft, c, hdraft, hc, hfindings⟩ :=
    @ordersAssembled_of denylistReason billingInput withoutReasons (by decide +kernel)
  have hallowed : @IdentityAllowed (asciiPlatform []) denylistReason ordersScope
      ⟨ordersEvidence, ordersPeak, ordersTopology⟩ billingInput ordersDecision :=
    @IdentityAllowed.mk (asciiPlatform []) _ _ _ _ _ (by decide +kernel)
      (fun group hgroup => by cases hgroup; decide +kernel) (by decide +kernel)
      (by decide +kernel) (by decide +kernel)
  refine ⟨c, hc, ?_, hallowed, ?_⟩
  · have hkept : draft.gateInput = billingInput :=
      (@draftCasefile_ok (asciiPlatform []) _ _ _ _ _ _ _ _ hdraft).2.2.1
    rw [hfindings, withoutReasons, hkept]
    rfl
  · rw [ordersAssembled] at hc
    exact (@identity_kept_iff (asciiPlatform []) ordersScope
      ⟨ordersEvidence, ordersPeak, ordersTopology⟩ (ordersPoliciesUnder denylistReason) billingInput
      ordersDecision (.aware newYear2026) none c hc).mpr hallowed

/-- The decision of the casefile has lost a gate without an error. -/
theorem orders_gate_lost : ∃ c, ordersAssembled denylistAg5 pageInput = .ok c ∧
    c.identity ≠ inputIdentity ordersScope ⟨ordersEvidence, ordersPeak, ordersTopology⟩ pageInput
      ordersDecision := by
  obtain ⟨-, c, -, hc, -⟩ :=
    @ordersAssembled_of denylistAg5 pageInput withoutAg5 (by decide +kernel)
  refine ⟨c, hc, fun hsame => ?_⟩
  rw [ordersAssembled] at hc
  have hgates := congrArg CaseIdentity.gateRuleIds
    ((@identity_of_assembled (asciiPlatform []) _ _ _ _ _ _ _ c hc).symm.trans hsame)
  revert hgates
  decide +kernel

end AiopsTriage
