import AiopsTriage.Linkage.Concurrent

/-!
# Linkage records through the database

A transition is a `model_copy`, so nothing looks at what it sets before the record is
written. The columns have their sizes, and the record that is read back in the same
transaction goes through all its validators. A record **survives** when both go well and
it comes back as it was, up to the whitespace around its optional texts (`LinkageSurvives`).

A move to `SEARCHING` sets nothing but the time. An outcome sets what ServiceNow
answered: it survives exactly when what it sets is storable (`MoveStorable`), so a run of
the state machine goes through records that survive exactly when all its moves are
(`linkage_records_survive_iff`). A record that does not survive is rolled back, and the
row stays as it was (`persistTransition_returns_iff`).
-/

namespace AiopsTriage

/-! ## What can be stored -/

/-- A text that its column holds and that its validator lets through. -/
def storableText (size : Nat) (s : String) : Bool := !PyText.isBlank s && fitsVarchar size s

/-- The same for the text of an error, whose column is unbounded. -/
def storableMessage (s : String) : Bool := !PyText.isBlank s && !s.toList.contains '\x00'

/-- A wait that its column holds and that its validator lets through. -/
def storableWait (n : Int) : Bool := 1 ≤ n && fitsInteger n

/-- `_record_to_db_dict` into the columns of the table, and `_row_to_record` out of them. -/
def storeAndRead (r : LinkageRetryRecord) : Except Failure LinkageRetryRecord := do
  raiseIf (linkageColumnsFit r = false) (.databaseError "sn_linkage_retry")
  r.validate

/-- `r'` is `r` up to the whitespace around its optional texts. -/
structure SameUpToSpace (r r' : LinkageRetryRecord) : Prop where
  /-- the case and the incident -/
  identifiers : r'.caseId = r.caseId ∧ r'.pdIncidentId = r.pdIncidentId
  /-- the state -/
  state : r'.state = r.state
  /-- the counters -/
  counters : r'.attemptCount = r.attemptCount ∧ r'.retryWindowMinutes = r.retryWindowMinutes ∧
    r'.lastRetryAfterSeconds = r.lastRetryAfterSeconds
  /-- the timestamps -/
  timestamps : r'.firstAttemptAt = r.firstAttemptAt ∧ r'.updatedAt = r.updatedAt ∧
    r'.deadlineAt = r.deadlineAt ∧ r'.nextAttemptAt = r.nextAttemptAt
  /-- the optional texts -/
  texts : r'.incidentSysId = r.incidentSysId.map PyText.strip ∧
    r'.requestId = r.requestId.map PyText.strip ∧
    r'.lastErrorCode = r.lastErrorCode.map PyText.strip ∧
    r'.lastErrorMessage = r.lastErrorMessage.map PyText.strip
  /-- the metadata -/
  metadata : r'.lastReasonMetadata = r.lastReasonMetadata

/-- The record can be stored, and is read back as it was. -/
def LinkageSurvives (r : LinkageRetryRecord) : Prop :=
  ∃ r', storeAndRead r = .ok r' ∧ SameUpToSpace r r'

/-- Everything the columns and the validators ask of a record. -/
structure LinkageStorable (r : LinkageRetryRecord) : Prop where
  /-- of what no transition changes -/
  identity : (PyText.isBlank r.caseId = false ∧ fitsVarchar 255 r.caseId = true) ∧
    (PyText.isBlank r.pdIncidentId = false ∧ fitsVarchar 255 r.pdIncidentId = true) ∧
    (1 ≤ r.retryWindowMinutes ∧ fitsInteger r.retryWindowMinutes = true) ∧
    r.firstAttemptAt ≤ r.deadlineAt
  /-- of the time of the last change -/
  updated : r.firstAttemptAt ≤ r.updatedAt
  /-- of the number of outcomes -/
  attempts : fitsInteger r.attemptCount = true
  /-- of the ServiceNow incident -/
  incident : r.incidentSysId.all (storableText 255) = true
  /-- of the last request -/
  request : r.requestId.all (storableText 64) = true
  /-- of the code of the last error -/
  code : r.lastErrorCode.all (storableText 255) = true
  /-- of its text -/
  message : r.lastErrorMessage.all storableMessage = true
  /-- of the wait -/
  wait : r.lastRetryAfterSeconds.all storableWait = true

/-- A text passes its validator exactly when it is not blank, and is stripped. -/
theorem optionalNonEmpty_eq_ok {error : Failure} {value value' : Option String} :
    optionalNonEmpty error value = .ok value' ↔
      value.all (fun s => !PyText.isBlank s) = true ∧ value' = value.map PyText.strip := by
  constructor
  · intro h
    obtain ⟨hblank, rfl⟩ := optionalNonEmpty_ok h
    refine ⟨?_, rfl⟩
    cases value with
    | none => rfl
    | some s => simp [hblank s rfl]
  · rintro ⟨hblank, rfl⟩
    cases value with
    | none => rfl
    | some s =>
      rw [Option.all_some, Bool.not_eq_true'] at hblank
      rw [optionalNonEmpty, if_neg (Bool.eq_false_iff.mp hblank)]
      rfl

/-- A check with two parts on what may be absent. -/
theorem all_and {p q : String → Bool} {value : Option String} :
    value.all (fun s => p s && q s) = true ↔ value.all p = true ∧ value.all q = true := by
  cases value with
  | none => simp
  | some s => simp

/-- The optional texts of a record without the whitespace around them. -/
def LinkageRetryRecord.stripped (r : LinkageRetryRecord) : LinkageRetryRecord :=
  { r with
    incidentSysId := r.incidentSysId.map PyText.strip
    requestId := r.requestId.map PyText.strip
    lastErrorCode := r.lastErrorCode.map PyText.strip
    lastErrorMessage := r.lastErrorMessage.map PyText.strip }

/-- **Round trip**: a record is written and read back exactly when it is storable, and then it
comes back stripped. -/
theorem storeAndRead_eq_ok {r r' : LinkageRetryRecord} :
    storeAndRead r = .ok r' ↔ LinkageStorable r ∧ r' = r.stripped := by
  unfold storeAndRead LinkageRetryRecord.validate
  simp only [Except.bind_eq_ok, raiseIf_eq_ok, optionalNonEmpty_eq_ok, Except.pure_eq_ok,
    Bool.not_eq_false, Bool.not_eq_true, not_lt]
  constructor
  · rintro ⟨-, hfits, -, hcase, -, hincident, _, ⟨hsys, rfl⟩, -, hwindow, -, hupdated, -, hdeadline,
      _, ⟨hrequest, rfl⟩, _, ⟨hcode, rfl⟩, _, ⟨hmessage, rfl⟩, -, hwait, rfl⟩
    simp only [linkageColumnsFit, Bool.and_eq_true] at hfits
    obtain ⟨⟨⟨⟨⟨⟨⟨⟨fcase, fincident⟩, fsys⟩, fattempts⟩, fwindow⟩, frequest⟩, fcode⟩, fmessage⟩,
      fwait⟩ := hfits
    refine ⟨⟨⟨⟨hcase, fcase⟩, ⟨hincident, fincident⟩, ⟨hwindow, fwindow⟩, hdeadline⟩, hupdated,
      fattempts, all_and.mpr ⟨hsys, fsys⟩, all_and.mpr ⟨hrequest, frequest⟩,
      all_and.mpr ⟨hcode, fcode⟩, all_and.mpr ⟨hmessage, fmessage⟩, ?_⟩, rfl⟩
    cases hafter : r.lastRetryAfterSeconds with
    | none => rfl
    | some n =>
      rw [hafter] at hwait fwait
      rw [Option.all_some] at fwait ⊢
      rw [Option.any_some, decide_eq_false_iff_not, not_lt] at hwait
      rw [storableWait, fwait, Bool.and_true]
      exact decide_eq_true hwait
  · rintro ⟨⟨⟨⟨hcase, fcase⟩, ⟨hincident, fincident⟩, ⟨hwindow, fwindow⟩, hdeadline⟩, hupdated,
      fattempts, hsys, hrequest, hcode, hmessage, hwait⟩, rfl⟩
    obtain ⟨hsys, fsys⟩ := all_and.mp hsys
    obtain ⟨hrequest, frequest⟩ := all_and.mp hrequest
    obtain ⟨hcode, fcode⟩ := all_and.mp hcode
    obtain ⟨hmessage, fmessage⟩ := all_and.mp hmessage
    have hafter : r.lastRetryAfterSeconds.any (fun n => decide (n < 1)) = false ∧
        r.lastRetryAfterSeconds.all fitsInteger = true := by
      cases hafter : r.lastRetryAfterSeconds with
      | none => exact ⟨rfl, rfl⟩
      | some n =>
        rw [hafter, Option.all_some, storableWait, Bool.and_eq_true, decide_eq_true_eq] at hwait
        exact ⟨decide_eq_false (not_lt.mpr hwait.1), hwait.2⟩
    have hfits : linkageColumnsFit r = true := by
      simp only [linkageColumnsFit, Bool.and_eq_true]
      exact ⟨⟨⟨⟨⟨⟨⟨⟨fcase, fincident⟩, fsys⟩, fattempts⟩, fwindow⟩, frequest⟩, fcode⟩, fmessage⟩,
        hafter.2⟩
    exact ⟨(), hfits, (), hcase, (), hincident, _, ⟨hsys, rfl⟩, (), hwindow, (), hupdated, (),
      hdeadline, _, ⟨hrequest, rfl⟩, _, ⟨hcode, rfl⟩, _, ⟨hmessage, rfl⟩, (), hafter.1, rfl⟩

/-- **Survival**: a record survives exactly when the columns and the validators take it. -/
theorem survives_iff {r : LinkageRetryRecord} : LinkageSurvives r ↔ LinkageStorable r := by
  constructor
  · rintro ⟨r', h, -⟩
    exact (storeAndRead_eq_ok.mp h).1
  · intro h
    exact ⟨r.stripped, storeAndRead_eq_ok.mpr ⟨h, rfl⟩, ⟨rfl, rfl⟩, rfl, ⟨rfl, rfl, rfl⟩,
      ⟨rfl, rfl, rfl, rfl⟩, ⟨rfl, rfl, rfl, rfl⟩, rfl⟩

/-- A record that was read from a row of the table. -/
def LinkageStored (r : LinkageRetryRecord) : Prop :=
  ∃ row, linkageColumnsFit row = true ∧ row.validate = .ok r

/-- Stripping takes characters away. -/
theorem strip_sublist (s : String) : (PyText.strip s).toList.Sublist s.toList := by
  rw [PyText.strip, String.toList_ofList, PyText.stripChars]
  have hend := (List.dropWhile_sublist PyText.isSpace
    (l := (s.toList.dropWhile PyText.isSpace).reverse)).reverse
  rw [List.reverse_reverse] at hend
  exact hend.trans (List.dropWhile_sublist PyText.isSpace)

theorem storableText_strip {n : Nat} {s : String} (h : storableText n s = true) :
    storableText n (PyText.strip s) = true := by
  simp only [storableText, fitsVarchar, PyText.isBlank_strip, Bool.and_eq_true, decide_eq_true_eq,
    Bool.not_eq_true', List.contains_eq_mem, decide_eq_false_iff_not] at h ⊢
  obtain ⟨hblank, hlength, hnul⟩ := h
  exact ⟨hblank, (strip_sublist s).length_le.trans hlength,
    fun hmem => hnul ((strip_sublist s).subset hmem)⟩

theorem storableMessage_strip {s : String} (h : storableMessage s = true) :
    storableMessage (PyText.strip s) = true := by
  simp only [storableMessage, PyText.isBlank_strip, Bool.and_eq_true, Bool.not_eq_true',
    List.contains_eq_mem, decide_eq_false_iff_not] at h ⊢
  exact ⟨h.1, fun hmem => h.2 ((strip_sublist s).subset hmem)⟩

/-- A check that stripping keeps, on what may be absent. -/
theorem all_map_strip {p : String → Bool} {value : Option String} (h : value.all p = true)
    (hp : ∀ s, p s = true → p (PyText.strip s) = true) :
    (value.map PyText.strip).all p = true := by
  cases value with
  | none => rfl
  | some s =>
    rw [Option.all_some] at h
    rw [Option.map_some, Option.all_some]
    exact hp s h

/-- What is read from a row can be stored again. -/
theorem LinkageStored.storable {r : LinkageRetryRecord} (h : LinkageStored r) :
    LinkageStorable r := by
  obtain ⟨row, hfits, hvalid⟩ := h
  have hguard : raiseIf (linkageColumnsFit row = false) (Failure.databaseError "sn_linkage_retry") =
      .ok () := by
    simp [hfits]
  have hread : storeAndRead row = .ok r := by
    rw [storeAndRead, hguard, Except.ok_bind, hvalid]
  obtain ⟨hrow, rfl⟩ := storeAndRead_eq_ok.mp hread
  have hincident := all_map_strip hrow.incident fun _ => storableText_strip
  have hrequest := all_map_strip hrow.request fun _ => storableText_strip
  have hcode := all_map_strip hrow.code fun _ => storableText_strip
  have hmessage := all_map_strip hrow.message fun _ => storableMessage_strip
  exact ⟨hrow.identity, hrow.updated, hrow.attempts, hincident, hrequest, hcode, hmessage,
    hrow.wait⟩

/-! ## What a result says -/

namespace ServiceNowLinkageWriteResult

variable [Platform] (result : ServiceNowLinkageWriteResult)

/-- The text of the error. -/
def errorText : String :=
  match (result.reasonMetadata.get? "error").filter pyTruthy with
  | some error => pyStr error
  | none => result.linkageReason

/-- The code of the error. -/
def errorName : String :=
  ((asNonEmptyString (result.reasonMetadata.get? "error_code")).or
    (inferErrorCode result.errorText)).getD result.linkageReason

/-- The wait ServiceNow asks for, as far as it is a number. -/
def retryAfter : Option Int :=
  ((asPositiveInt (result.reasonMetadata.get? "retry_after_seconds")).toOption.getD none).or
    (inferRetryAfterSeconds result.errorText)

end ServiceNowLinkageWriteResult

/-! ## Moves -/

/-- A move of the state machine, as the linkage stage makes it. -/
inductive LinkageMove where
  /-- an attempt begins -/
  | search (now : DateTime)
  /-- the attempt ended with a result -/
  | outcome (incidentSysId : Option String) (result : ServiceNowLinkageWriteResult) (now : DateTime)
  deriving Repr

section Moves

variable [Platform] (policy : LinkageRetryPolicy)

/-- The record after a move, if the state machine makes it. -/
def linkageMove (r : LinkageRetryRecord) : LinkageMove → Option LinkageRetryRecord
  | .search now => (markLinkageSearching r now).toOption
  | .outcome incidentSysId result now =>
    (outcomeTransition policy r incidentSysId result now).toOption

/-- The time a transition gets. -/
def transitionTime (r : LinkageRetryRecord) : DateTime → Instant
  | .aware t => max t r.updatedAt
  | .naive t => max t r.updatedAt

/-- The wait ServiceNow asks for, as far as the policy goes along. -/
def boundedWait (retryAfter : Option Int) : Option Int :=
  (retryAfter.filter (0 < ·)).map (min · (policy.retryMaxSeconds : Int))

/-- When the next attempt would be due. -/
def nextDue (r : LinkageRetryRecord) (retryAfter : Option Int) (now : DateTime) : Instant :=
  let computed : Int := ((computeRetryDelaySeconds r.caseId (r.attemptCount + 1)
    policy.retryBaseSeconds policy.retryMaxSeconds policy.retryJitterRatio).toOption.getD 0 : Nat)
  transitionTime r now + 1000000 * (boundedWait policy retryAfter).elim computed (max computed)

/-- A failed attempt is worth another one. -/
def isTransient (result : ServiceNowLinkageWriteResult) : Prop :=
  result.errorName ∈ policy.transientErrorClassifications

/-- What an outcome sets is storable. -/
@[mk_iff] structure OutcomeStorable (r : LinkageRetryRecord) (incidentSysId : Option String)
    (result : ServiceNowLinkageWriteResult) (now : DateTime) : Prop where
  /-- the number of outcomes -/
  attempts : fitsInteger (r.attemptCount + 1 : Nat) = true
  /-- the request -/
  request : storableText 64 result.requestId = true
  /-- the incident of a linked case, if one is named -/
  incident : result.isLinked = true →
    ((orText result.incidentSysId incidentSysId).filter (· ≠ "")).all (storableText 255) = true
  /-- the error of a failed attempt, unless the window leaves no time for another one, when fixed
  texts are set instead -/
  error : result.isLinked = false →
    (isTransient policy result ∧
      (r.deadlineAt ≤ transitionTime r now ∨ r.deadlineAt < nextDue policy r result.retryAfter now)) ∨
      storableText 255 result.errorName = true ∧ storableMessage result.errorText = true
  /-- the wait, unless the policy bounds it -/
  wait : result.isLinked = false →
    (isTransient policy result ∧ transitionTime r now < r.deadlineAt) ∨
      result.retryAfter.all fitsInteger = true

/-- What a move sets is storable. -/
def MoveStorable (r : LinkageRetryRecord) : LinkageMove → Prop
  | .search _ => True
  | .outcome incidentSysId result now => OutcomeStorable policy r incidentSysId result now

instance (result : ServiceNowLinkageWriteResult) : Decidable (isTransient policy result) :=
  inferInstanceAs (Decidable (_ ∈ _))

instance (r : LinkageRetryRecord) (incidentSysId : Option String)
    (result : ServiceNowLinkageWriteResult) (now : DateTime) :
    Decidable (OutcomeStorable policy r incidentSysId result now) :=
  decidable_of_iff _ (outcomeStorable_iff policy r incidentSysId result now).symm

instance (r : LinkageRetryRecord) : (move : LinkageMove) → Decidable (MoveStorable policy r move)
  | .search _ => .isTrue trivial
  | .outcome incidentSysId result now =>
    inferInstanceAs (Decidable (OutcomeStorable policy r incidentSysId result now))

/-! ## What a move sets -/

variable {policy}

omit [Platform] in
theorem resolveLinkageTransitionNow_ok {r : LinkageRetryRecord} {now : DateTime} {t : Instant}
    (h : resolveLinkageTransitionNow r now = .ok t) :
    t = transitionTime r now ∧ r.updatedAt ≤ t := by
  cases now with
  | naive n => cases h
  | aware n =>
    obtain ⟨n', hn, h⟩ := Except.bind_eq_ok.mp h
    cases hn
    rw [Except.pure_eq_ok] at h
    subst h
    constructor
    · rw [transitionTime]
      split
      · next hlt => exact (max_eq_right hlt.le).symm
      · next hge => exact (max_eq_left (not_lt.mp hge)).symm
    · split
      · exact le_rfl
      · next hge => exact not_lt.mp hge

omit [Platform] in
/-- A record at the start of an attempt. -/
theorem storable_searching {r : LinkageRetryRecord} {t : Instant} (h : LinkageStorable r)
    (ht : r.updatedAt ≤ t) : LinkageStorable (searchingRecord r t) :=
  ⟨h.identity, h.updated.trans ht, h.attempts, h.incident, h.request, h.code, h.message, h.wait⟩

omit [Platform] in
/-- The incident of a linked case is the one that is named, or that of the record. -/
theorem all_orText {named known : Option String} {p : String → Bool} (h : known.all p = true) :
    (orText named known).all p = true ↔ (named.filter (· ≠ "")).all p = true := by
  rw [orText]
  cases named.filter (· ≠ "") with
  | none => simp [h]
  | some s => rfl

omit [Platform] in
/-- A linked record. -/
theorem storable_linked {r : LinkageRetryRecord} {requestId : String} {named : Option String}
    {metadata : Dict String Json} {t : Instant} (h : LinkageStorable r) (ht : r.updatedAt ≤ t) :
    LinkageStorable (linkedRecord r (some requestId) named metadata t) ↔
      fitsInteger (r.attemptCount + 1 : Nat) = true ∧ storableText 64 requestId = true ∧
        (named.filter (· ≠ "")).all (storableText 255) = true := by
  constructor
  · intro hnext
    exact ⟨hnext.attempts, hnext.request, (all_orText h.incident).mp hnext.incident⟩
  · rintro ⟨hattempts, hrequest, hincident⟩
    exact ⟨h.identity, h.updated.trans ht, hattempts, (all_orText h.incident).mpr hincident,
      hrequest, rfl, rfl, rfl⟩

omit [Platform] in
/-- A record with a failed outcome. -/
theorem storable_failed {r : LinkageRetryRecord} {failure : LinkageFailure}
    {state : LinkageRetryState} {t : Instant} {due : Option Instant} {code message : String}
    {wait : Option Int} {metadata : Dict String Json} (h : LinkageStorable r)
    (ht : r.updatedAt ≤ t) :
    LinkageStorable (failedRecord r failure state t due code message wait metadata) ↔
      fitsInteger (r.attemptCount + 1 : Nat) = true ∧
        failure.requestId.all (storableText 64) = true ∧
        (storableText 255 code = true ∧ storableMessage message = true) ∧
        wait.all storableWait = true := by
  constructor
  · intro hnext
    exact ⟨hnext.attempts, hnext.request, ⟨hnext.code, hnext.message⟩, hnext.wait⟩
  · rintro ⟨hattempts, hrequest, ⟨hcode, hmessage⟩, hwait⟩
    exact ⟨h.identity, h.updated.trans ht, hattempts, h.incident, hrequest, hcode, hmessage, hwait⟩

omit [Platform] in
/-- The fixed texts of an attempt that is out of time are storable. -/
theorem storable_exhausted {r : LinkageRetryRecord} {failure : LinkageFailure} {t : Instant}
    {wait : Option Int} {metadata : Dict String Json} (h : LinkageStorable r)
    (ht : r.updatedAt ≤ t) :
    LinkageStorable (exhaustedRecord r failure t wait metadata) ↔
      fitsInteger (r.attemptCount + 1 : Nat) = true ∧
        failure.requestId.all (storableText 64) = true ∧ wait.all storableWait = true := by
  have htexts : storableText 255 "retry_window_exhausted" = true ∧
      storableMessage "retry window exhausted before scheduling next attempt" = true := by
    decide +kernel
  rw [exhaustedRecord, storable_failed h ht]
  exact ⟨fun ⟨hattempts, hrequest, _, hwait⟩ => ⟨hattempts, hrequest, hwait⟩,
    fun ⟨hattempts, hrequest, hwait⟩ => ⟨hattempts, hrequest, htexts, hwait⟩⟩

omit [Platform] in
/-- A wait that the policy bounds is storable. -/
theorem storableWait_bounded {retryAfter : Option Int} :
    (boundedWait policy retryAfter).all storableWait = true := by
  cases retryAfter with
  | none => rfl
  | some n =>
    rw [boundedWait, Option.filter_some]
    by_cases hn : 0 < n
    · have hmax := policy.max_ok
      rw [if_pos (decide_eq_true hn), Option.map_some, Option.all_some, storableWait, fitsInteger]
      simp only [Bool.and_eq_true, decide_eq_true_eq]
      omega
    · rw [if_neg (by simpa using hn)]
      rfl

/-- **Failure lemma**: everything a failed attempt can lead to. -/
theorem markLinkageFailure_cases {r next : LinkageRetryRecord} {failure : LinkageFailure}
    {now : DateTime} (h : markLinkageFailure policy r failure now = .ok next) :
    let t := transitionTime r now
    let due := nextDue policy r failure.retryAfterSeconds now
    r.updatedAt ≤ t ∧
      (failure.transient = false ∧ next = failedRecord r failure .failedFinal t none
          failure.errorCode failure.errorMessage failure.retryAfterSeconds failure.reasonMetadata ∨
        (failure.transient = true ∧ r.deadlineAt ≤ t) ∧
          (∃ metadata, next = exhaustedRecord r failure t failure.retryAfterSeconds metadata) ∨
        (failure.transient = true ∧ t < r.deadlineAt ∧ r.deadlineAt < due) ∧
          (∃ metadata, next =
            exhaustedRecord r failure t (boundedWait policy failure.retryAfterSeconds) metadata) ∨
        (failure.transient = true ∧ t < r.deadlineAt ∧ due ≤ r.deadlineAt) ∧
          next = failedRecord r failure .failedTemp t (some due) failure.errorCode
            failure.errorMessage (boundedWait policy failure.retryAfterSeconds)
            failure.reasonMetadata) := by
  intro t due
  obtain ⟨_, -, h⟩ := Except.bind_eq_ok.mp h
  obtain ⟨t', ht, h⟩ := Except.bind_eq_ok.mp h
  obtain ⟨rfl, hle⟩ := resolveLinkageTransitionNow_ok ht
  refine ⟨hle, ?_⟩
  split at h
  · next htransient =>
    rw [Except.pure_eq_ok] at h
    exact .inl ⟨htransient, h.symm⟩
  next htransient =>
  rw [Bool.not_eq_false] at htransient
  split at h
  · next hpast =>
    rw [Except.pure_eq_ok] at h
    exact .inr (.inl ⟨⟨htransient, hpast⟩, _, h.symm⟩)
  next hleft =>
  rw [not_le] at hleft
  obtain ⟨computed, hcomputed, h⟩ := Except.bind_eq_ok.mp h
  obtain ⟨due', hdue, h⟩ := Except.bind_eq_ok.mp h
  have hnext : due' = due := by
    unfold addDelta at hdue
    split at hdue
    · cases hdue
      show _ = nextDue policy r failure.retryAfterSeconds now
      rw [nextDue, hcomputed]
      rfl
    · cases hdue
  subst hnext
  split at h
  · next hlate =>
    rw [Except.pure_eq_ok] at h
    exact .inr (.inr (.inl ⟨⟨htransient, hleft, hlate⟩, _, h.symm⟩))
  · next hintime =>
    rw [Except.pure_eq_ok] at h
    exact .inr (.inr (.inr ⟨⟨htransient, hleft, not_lt.mp hintime⟩, h.symm⟩))

/-- What the state machine is told of a failed attempt is what its result says. -/
theorem classified {result : ServiceNowLinkageWriteResult} {failure : LinkageFailure}
    {classifications : List String}
    (h : classifyFailureFromLinkageResult result classifications = .ok failure) :
    (failure.transient = true ↔ result.errorName ∈ classifications) ∧
      failure.errorCode = result.errorName ∧ failure.errorMessage = result.errorText ∧
      failure.requestId = some result.requestId ∧
      failure.retryAfterSeconds = result.retryAfter := by
  obtain ⟨retryAfter, hretry, h⟩ := Except.bind_eq_ok.mp h
  rw [Except.pure_eq_ok] at h
  subst h
  refine ⟨decide_eq_true_iff, rfl, rfl, rfl, ?_⟩
  rw [ServiceNowLinkageWriteResult.retryAfter, hretry]
  rfl

/-- A wait that is read from a result is positive. -/
theorem retryAfter_pos {result : ServiceNowLinkageWriteResult} {n : Int}
    (h : result.retryAfter = some n) : 0 < n := by
  rw [ServiceNowLinkageWriteResult.retryAfter] at h
  rcases Option.or_eq_some_iff.mp h with hnamed | ⟨-, hinferred⟩
  · cases hread : asPositiveInt (result.reasonMetadata.get? "retry_after_seconds") with
    | error e =>
      rw [hread] at hnamed
      cases hnamed
    | ok value =>
      rw [hread] at hnamed
      obtain rfl : value = some n := hnamed
      cases hmeta : result.reasonMetadata.get? "retry_after_seconds" with
      | none =>
        rw [hmeta] at hread
        cases hread
      | some j =>
        rw [hmeta] at hread
        obtain ⟨m, -, hm⟩ := Except.bind_eq_ok.mp hread
        exact of_decide_eq_true (Option.filter_eq_some_iff.mp (Except.ok.inj hm)).2
  · rw [inferRetryAfterSeconds] at hinferred
    obtain ⟨rest, -, hinferred⟩ := Option.bind_eq_some_iff.mp hinferred
    obtain ⟨parsed, -, hinferred⟩ := Option.bind_eq_some_iff.mp hinferred
    split at hinferred
    · next hpos =>
      cases hinferred
      exact hpos
    · cases hinferred

/-- So only its size decides whether it is storable. -/
theorem storableWait_retryAfter {result : ServiceNowLinkageWriteResult} :
    result.retryAfter.all storableWait = true ↔ result.retryAfter.all fitsInteger = true := by
  cases h : result.retryAfter with
  | none => rfl
  | some n =>
    have hpos := retryAfter_pos h
    rw [Option.all_some, Option.all_some, storableWait, Bool.and_eq_true, decide_eq_true_eq]
    exact ⟨fun h => h.2, fun h => ⟨hpos, h⟩⟩

/-- **Step lemma**: the record of an outcome is storable exactly when what the outcome sets is. -/
theorem storable_outcome {r next : LinkageRetryRecord} {incidentSysId : Option String}
    {result : ServiceNowLinkageWriteResult} {now : DateTime} (hr : LinkageStorable r)
    (h : outcomeTransition policy r incidentSysId result now = .ok next) :
    LinkageStorable next ↔ OutcomeStorable policy r incidentSysId result now := by
  unfold outcomeTransition at h
  split at h
  · next hlinked =>
    obtain ⟨_, -, h⟩ := Except.bind_eq_ok.mp h
    obtain ⟨t, ht, h⟩ := Except.bind_eq_ok.mp h
    rw [Except.pure_eq_ok] at h
    subst h
    rw [storable_linked hr (resolveLinkageTransitionNow_ok ht).2]
    constructor
    · rintro ⟨hattempts, hrequest, hincident⟩
      exact ⟨hattempts, hrequest, fun _ => hincident,
        fun hfailed => absurd hlinked (Bool.eq_false_iff.mp hfailed),
        fun hfailed => absurd hlinked (Bool.eq_false_iff.mp hfailed)⟩
    · intro hout
      exact ⟨hout.attempts, hout.request, hout.incident hlinked⟩
  next hfailed =>
  rw [Bool.not_eq_true] at hfailed
  obtain ⟨failure, hfailure, h⟩ := Except.bind_eq_ok.mp h
  obtain ⟨htransient, hcode, hmessage, hrequest, hretry⟩ := classified hfailure
  obtain ⟨hle, hcases⟩ := markLinkageFailure_cases h
  rw [hcode, hmessage, hretry] at hcases
  have hrequest_iff : failure.requestId.all (storableText 64) = true ↔
      storableText 64 result.requestId = true := by
    rw [hrequest, Option.all_some]
  have hnot_linked : ∀ {p : Prop}, result.isLinked = true → p := fun hlinked =>
    absurd hlinked (Bool.eq_false_iff.mp hfailed)
  rcases hcases with ⟨hpermanent, rfl⟩ | ⟨⟨hretried, hpast⟩, metadata, rfl⟩ |
    ⟨⟨hretried, hleft, hlate⟩, metadata, rfl⟩ | ⟨⟨hretried, hleft, hintime⟩, rfl⟩
  · -- not worth another attempt: the texts and the wait are set as they are
    have hnot : ¬ isTransient policy result := fun hin => by
      rw [htransient.mpr hin] at hpermanent
      cases hpermanent
    rw [storable_failed hr hle, hrequest_iff, storableWait_retryAfter]
    constructor
    · rintro ⟨hattempts, hreq, htexts, hwait⟩
      exact ⟨hattempts, hreq, hnot_linked, fun _ => .inr htexts, fun _ => .inr hwait⟩
    · intro hout
      exact ⟨hout.attempts, hout.request,
        (hout.error hfailed).resolve_left fun hcase => hnot hcase.1,
        (hout.wait hfailed).resolve_left fun hcase => hnot hcase.1⟩
  · -- after the deadline: fixed texts, and the wait as it is
    rw [storable_exhausted hr hle, hrequest_iff, storableWait_retryAfter]
    constructor
    · rintro ⟨hattempts, hreq, hwait⟩
      exact ⟨hattempts, hreq, hnot_linked, fun _ => .inl ⟨htransient.mp hretried, .inl hpast⟩,
        fun _ => .inr hwait⟩
    · intro hout
      exact ⟨hout.attempts, hout.request,
        (hout.wait hfailed).resolve_left fun hcase => absurd hpast (not_le.mpr hcase.2)⟩
  · -- no time for another attempt: fixed texts, and a bounded wait
    rw [storable_exhausted hr hle, hrequest_iff]
    constructor
    · rintro ⟨hattempts, hreq, -⟩
      exact ⟨hattempts, hreq, hnot_linked, fun _ => .inl ⟨htransient.mp hretried, .inr hlate⟩,
        fun _ => .inl ⟨htransient.mp hretried, hleft⟩⟩
    · intro hout
      exact ⟨hout.attempts, hout.request, storableWait_bounded⟩
  · -- another attempt: the texts as they are, and a bounded wait
    rw [storable_failed hr hle, hrequest_iff]
    constructor
    · rintro ⟨hattempts, hreq, htexts, -⟩
      exact ⟨hattempts, hreq, hnot_linked, fun _ => .inr htexts,
        fun _ => .inl ⟨htransient.mp hretried, hleft⟩⟩
    · intro hout
      refine ⟨hout.attempts, hout.request, (hout.error hfailed).resolve_left ?_,
        storableWait_bounded⟩
      rintro ⟨-, hpast | hlate⟩
      · exact absurd hpast (not_le.mpr hleft)
      · exact absurd hlate (not_lt.mpr hintime)

/-- **Linkage records survive**: a run of the state machine from a record that was read from the
table goes through records that survive exactly when what its moves set is storable. -/
theorem linkage_records_survive_iff {start last : LinkageRetryRecord} {moves : List LinkageMove}
    (hstored : LinkageStored start) (hrun : Runs.run (linkageMove policy) start moves = some last) :
    Runs.Always (linkageMove policy) LinkageSurvives start moves ↔
      Runs.Along (linkageMove policy) (MoveStorable policy) start moves := by
  refine Runs.always_iff_along (J := fun _ => True) (fun _ _ _ _ _ => trivial) ?_ hrun trivial
    (survives_iff.mpr hstored.storable)
  intro r move next _ hr hmove
  rw [survives_iff] at hr ⊢
  cases move with
  | search now =>
    have hnext : markLinkageSearching r now = .ok next := Except.toOption_eq_some.mp hmove
    obtain ⟨_, -, hnext⟩ := Except.bind_eq_ok.mp hnext
    obtain ⟨t, ht, hnext⟩ := Except.bind_eq_ok.mp hnext
    rw [Except.pure_eq_ok] at hnext
    subst hnext
    exact iff_of_true (storable_searching hr (resolveLinkageTransitionNow_ok ht).2) trivial
  | outcome incidentSysId result now =>
    exact storable_outcome hr (Except.toOption_eq_some.mp hmove)

end Moves

/-- **Rollback**: a transition of a row in an expected state is committed exactly when its record
survives, and otherwise the row stays as it was. -/
theorem persistTransition_returns_iff {table : LinkageTable} {caseId : String}
    {row next : LinkageRetryRecord} {expected : List LinkageRetryState}
    (hget : table.get? caseId = some row) (hexpected : row.state ∈ expected) :
    ((persistTransition table caseId next expected).1.Returns ↔ LinkageSurvives next) ∧
      (¬ LinkageSurvives next → (persistTransition table caseId next expected).2 = table) := by
  have hupdate : updateGuarded table caseId next expected =
      (storeAndRead next).map fun record => some (record, table.set caseId next) := by
    rw [updateGuarded, hget, Option.filter_some, if_pos (decide_eq_true hexpected)]
    simp only [storeAndRead]
    cases raiseIf (linkageColumnsFit next = false) (Failure.databaseError "sn_linkage_retry") with
    | error e => rfl
    | ok _ => cases next.validate <;> rfl
  rw [survives_iff]
  unfold persistTransition
  rw [hupdate]
  cases hread : storeAndRead next with
  | error e =>
    have hnot : ¬ LinkageStorable next := fun h => by
      cases hread.symm.trans (storeAndRead_eq_ok.mpr ⟨h, rfl⟩)
    exact ⟨iff_of_false (fun ⟨_, h⟩ => by cases h) hnot, fun _ => rfl⟩
  | ok record =>
    have hstorable := (storeAndRead_eq_ok.mp hread).1
    exact ⟨iff_of_true ⟨record, rfl⟩ hstorable, fun h => absurd hstorable h⟩

/-! ## An error without a text -/

/-- A failed write whose exception has a text of one space. -/
def blankErrorResult : ServiceNowLinkageWriteResult where
  linkageStatus := .failed
  linkageReason := "update_error"
  requestId := "req-1"
  reasonMetadata := .ofPairs [("error", .str " ")]

/-- The attempt of `case-1` that ends so. -/
def blankErrorMoves : List LinkageMove :=
  [.search (.aware newYear2026), .outcome none blankErrorResult (.aware newYear2026)]

theorem pendingCase1_stored : LinkageStored pendingCase1 :=
  ⟨pendingCase1, by decide +kernel, by decide +kernel⟩

/-- The moves are made, and the message of the error is set as it is. -/
theorem blankErrorMoves_run :
    ∃ last, Runs.run (@linkageMove (asciiPlatform []) {}) pendingCase1 blankErrorMoves = some last ∧
      last.lastErrorMessage = some " " := by
  have hmessage : (Runs.run (@linkageMove (asciiPlatform []) {}) pendingCase1
      blankErrorMoves).bind (·.lastErrorMessage) = some " " := by
    decide +kernel
  exact Option.bind_eq_some_iff.mp hmessage

/-- An attempt that links the case. -/
def linkedResult : ServiceNowLinkageWriteResult where
  linkageStatus := .linked
  linkageReason := "linked"
  requestId := "req-2"
  incidentSysId := some "inc-1"
  problemSysId := some "prb-1"

/-- The first attempt times out, and the second, an hour later, links the case. -/
def retriedMoves : List LinkageMove :=
  [.search (.aware newYear2026), .outcome (some "inc-1") timedOut (.aware newYear2026),
    .search (.aware (newYear2026 + 3600000000)),
    .outcome (some "inc-1") linkedResult (.aware (newYear2026 + 3600000000))]

/-- What both attempts set is storable, and every record of the two survives. -/
theorem linkage_records_survive_iff_case1 :
    ∃ last, Runs.run (@linkageMove (asciiPlatform []) {}) pendingCase1 retriedMoves = some last ∧
      last.state = .linked ∧ last.attemptCount = 2 ∧
      Runs.Along (@linkageMove (asciiPlatform []) {}) (@MoveStorable (asciiPlatform []) {})
        pendingCase1 retriedMoves ∧
      Runs.Always (@linkageMove (asciiPlatform []) {}) LinkageSurvives pendingCase1 retriedMoves := by
  have hlast : (Runs.run (@linkageMove (asciiPlatform []) {}) pendingCase1 retriedMoves).map
      (fun last => (last.state, last.attemptCount)) = some (.linked, 2) := by
    decide +kernel
  have hstorable : Runs.Along (@linkageMove (asciiPlatform []) {})
      (@MoveStorable (asciiPlatform []) {}) pendingCase1 retriedMoves := by
    decide +kernel
  obtain ⟨last, hrun, hstate⟩ := Option.map_eq_some_iff.mp hlast
  obtain ⟨hlinked, hcount⟩ := Prod.mk.inj hstate
  exact ⟨last, hrun, hlinked, hcount, hstorable,
    (@linkage_records_survive_iff (asciiPlatform []) {} _ _ _ pendingCase1_stored hrun).mpr hstorable⟩

/-- The record of that attempt is reached from a stored one and does not survive. -/
theorem blank_error_lost :
    LinkageStored pendingCase1 ∧ ∃ last, Runs.run (@linkageMove (asciiPlatform []) {}) pendingCase1
      blankErrorMoves = some last ∧ ¬ LinkageSurvives last := by
  obtain ⟨last, hrun, hmessage⟩ := blankErrorMoves_run
  refine ⟨pendingCase1_stored, last, hrun, fun hsurvives => ?_⟩
  have hstorable := (survives_iff.mp hsurvives).message
  rw [hmessage] at hstorable
  revert hstorable
  decide +kernel

end AiopsTriage
