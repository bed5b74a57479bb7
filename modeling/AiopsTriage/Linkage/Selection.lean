import AiopsTriage.Linkage.Concurrent
import Mathlib.Data.List.Sort

/-!
# Selection of retry candidates

After a restart, unfinished linkage work is found again by `select_retry_candidates`: the
rows that are `FAILED_TEMP` and due. A row that is `PENDING` or `SEARCHING` counts as due for
`is_retry_due`, but the selection never offers it (`offered_iff`).

While an invocation is under way on such a row, this does not matter, for it will persist an
outcome. It does when the invocation is stopped, or raises, and is the last one: then the
case is stranded. Exactly the runs in which this never happens leave no case stranded
(`never_stranded_iff`).
-/

namespace AiopsTriage

/-! ## The query -/

/-- The `where` of the query. -/
def isRetryCandidate (now : Instant) (row : LinkageRetryRecord) : Bool :=
  row.state = .failedTemp && row.nextAttemptAt.all (· ≤ now)

/-- Its `order_by`: by the next attempt, rows without one last, and then by the last update. -/
def candidateBefore (a b : LinkageRetryRecord) : Bool :=
  match a.nextAttemptAt, b.nextAttemptAt with
  | none, none => a.updatedAt ≤ b.updatedAt
  | none, some _ => false
  | some _, none => true
  | some s, some t => s < t || (s = t && a.updatedAt ≤ b.updatedAt)

/-- `select_retry_candidates`. -/
def selectRetryCandidates (table : LinkageTable) (now : DateTime) (limit : Nat) :
    Except Failure (List LinkageRetryRecord) := do
  let resolvedNow ← resolveNow now
  let due := (table.entries.map Prod.snd).filter (isRetryCandidate resolvedNow)
  let selected := (due.insertionSort fun a b => candidateBefore a b = true).take limit
  match selected.mapM LinkageRetryRecord.validate with
  | .ok records => return records
  | .error e => throw (wrapLinkageRepo e)

variable {table : LinkageTable} {caseId : String} {row : LinkageRetryRecord}

/-- Every row of the table reads back. -/
def ReadsBack (table : LinkageTable) : Prop :=
  ∀ key row, table.get? key = some row → Except.Returns row.validate

theorem ReadsBack.set (h : ReadsBack table) {next : LinkageRetryRecord}
    (hnext : Except.Returns next.validate) : ReadsBack (table.set caseId next) := by
  intro key row hrow
  rw [Dict.get?_set] at hrow
  split at hrow
  · cases hrow
    exact hnext
  · exact h key row hrow

/-- What is selected is due, and everything due is selected when the limit allows for it. -/
theorem mem_selectRetryCandidates {t : Instant} {limit : Nat} {records : List LinkageRetryRecord}
    (h : selectRetryCandidates table (.aware t) limit = .ok records) :
    (∀ r ∈ records, ∃ row, isRetryCandidate t row = true ∧ row.validate = .ok r) ∧
      (table.entries.length ≤ limit → ∀ key row r, table.get? key = some row →
        isRetryCandidate t row = true → row.validate = .ok r → r ∈ records) := by
  obtain ⟨now, hnow, h⟩ := Except.bind_eq_ok.mp h
  cases hnow
  simp only at h
  split at h
  · next validated hvalidated =>
    rw [Except.pure_eq_ok] at h
    subst h
    have hall := Except.mapM_eq_ok.mp hvalidated
    constructor
    · intro r hr
      obtain ⟨row, hrow, hr⟩ := hall.exists_of_mem_right hr
      have hdue := (List.mem_insertionSort _).mp (List.mem_of_mem_take hrow)
      exact ⟨row, (List.mem_filter.mp hdue).2, hr⟩
    · intro hlimit key row r hget hdue hr
      -- nothing is cut off
      rw [List.take_of_length_le] at hall
      · have hentry : row ∈ table.entries.map Prod.snd :=
          List.mem_map.mpr ⟨(key, row), Dict.get?_eq_some.mp hget, rfl⟩
        obtain ⟨r', hr', hvalid⟩ := hall.exists_of_mem_left
          ((List.mem_insertionSort _).mpr (List.mem_filter.mpr ⟨hentry, hdue⟩))
        cases hr.symm.trans hvalid
        exact hr'
      · rw [List.length_insertionSort]
        refine le_trans (List.length_filter_le _ _) ?_
        rwa [List.length_map]
  · cases h

/-- On a table that reads back the selection always answers. -/
theorem selectRetryCandidates_returns (h : ReadsBack table) (t : Instant) (limit : Nat) :
    Except.Returns (selectRetryCandidates table (.aware t) limit) := by
  have hrows : ∀ rows : List LinkageRetryRecord,
      (∀ row ∈ rows, Except.Returns row.validate) →
        Except.Returns (rows.mapM LinkageRetryRecord.validate) := by
    intro rows hrows
    induction rows with
    | nil => exact ⟨[], rfl⟩
    | cons row rows ih =>
      obtain ⟨r, hr⟩ := hrows row List.mem_cons_self
      obtain ⟨rs, hrs⟩ := ih fun row' hrow' => hrows row' (List.mem_cons_of_mem row hrow')
      refine ⟨r :: rs, Except.mapM_eq_ok.mpr (.cons hr (Except.mapM_eq_ok.mp hrs))⟩
  obtain ⟨records, hrecords⟩ := hrows
    ((((table.entries.map Prod.snd).filter (isRetryCandidate t)).insertionSort
      fun a b => candidateBefore a b = true).take limit) (by
    intro row hrow
    have hdue := (List.mem_insertionSort _).mp (List.mem_of_mem_take hrow)
    obtain ⟨⟨key, _⟩, hentry, rfl⟩ := List.mem_map.mp (List.mem_filter.mp hdue).1
    exact h key _ (Dict.get?_eq_some.mpr hentry))
  refine ⟨records, ?_⟩
  simp only [selectRetryCandidates, resolveNow, Except.ok_bind, hrecords]
  rfl

/-- From some time on, the selection returns the row, when its limit allows for it. -/
def Offered (table : LinkageTable) (row : LinkageRetryRecord) : Prop :=
  ∃ since : Instant, ∀ now, since ≤ now → ∀ limit, table.entries.length ≤ limit →
    ∃ candidates r, selectRetryCandidates table (.aware now) limit = .ok candidates ∧
      row.validate = .ok r ∧ r ∈ candidates

/-- **What is offered**: exactly the rows that are `FAILED_TEMP`. -/
theorem offered_iff (hvalid : ReadsBack table) (hrow : table.get? caseId = some row) :
    Offered table row ↔ row.state = .failedTemp := by
  constructor
  · rintro ⟨since, h⟩
    obtain ⟨candidates, r, hselect, hr, hmem⟩ := h since le_rfl _ le_rfl
    obtain ⟨row', hdue, hr'⟩ := (mem_selectRetryCandidates hselect).1 r hmem
    rw [isRetryCandidate, Bool.and_eq_true, decide_eq_true_eq] at hdue
    obtain ⟨-, hstate, -⟩ := LinkageRetryRecord.validate_state hr
    obtain ⟨-, hstate', -⟩ := LinkageRetryRecord.validate_state hr'
    rw [← hstate, hstate', hdue.1]
  · intro hstate
    refine ⟨row.nextAttemptAt.getD 0, fun now hnow limit hlimit => ?_⟩
    obtain ⟨candidates, hselect⟩ := selectRetryCandidates_returns hvalid now limit
    obtain ⟨r, hr⟩ := hvalid caseId row hrow
    refine ⟨candidates, r, hselect, hr,
      (mem_selectRetryCandidates hselect).2 hlimit caseId row r hrow ?_ hr⟩
    rw [isRetryCandidate, hstate]
    cases hnext : row.nextAttemptAt with
    | none => rfl
    | some next =>
      rw [hnext] at hnow
      simpa using hnow

/-! ## Runs of invocations -/

/-- An invocation that has read the record, and has not ended. -/
def LinkagePhase.underWay : LinkagePhase → Bool
  | .idle => false
  | .ended => false
  | _ => true

namespace LinkageRun

variable {ι : Type} [DecidableEq ι] [Platform] (policy : LinkageRetryPolicy) (caseId : String)

/-- No invocation is under way. -/
def Quiet (s : LinkageRun ι) : Prop := ∀ i, (s.phase i).underWay = false

/-- The record is between two outcomes. -/
def InProgress (s : LinkageRun ι) : Prop :=
  ∃ row, s.table.get? caseId = some row ∧ (row.state = .pending ∨ row.state = .searching)

/-- No work is stranded: when no invocation is under way any more, a record that is not
terminal is offered from some time on. -/
def NotStranded (s : LinkageRun ι) : Prop :=
  s.Quiet → ∀ row, s.table.get? caseId = some row → row.state.isTerminal = false →
    Offered s.table row

/-- An invocation may end now: the record is not in progress, or another invocation is under
way. -/
def MayEnd (s : LinkageRun ι) (i : ι) : Prop :=
  s.InProgress caseId → ∃ j, j ≠ i ∧ (s.phase j).underWay = true

/-- A step that ends an invocation before it has persisted an outcome, because it is stopped or
raises, takes place only when the invocation may end. -/
def EndsRelieved (s : LinkageRun ι) : LinkageStep ι → Prop
  | .read _ _ _ _ => True
  | .search i now => ∀ record e, s.phase i = .due record →
      (markLinkageSearching record now >>= fun next =>
        updateGuarded s.table caseId next [record.state]) = .error e → s.MayEnd caseId i
  | .acceptSearch i => ∀ source next e, s.phase i = .searchMissed source next →
      acceptLatest s.table caseId next [source] = .error e → s.MayEnd caseId i
  | .outcome i incidentSysId result now => ∀ record e, s.phase i = .searching record →
      (outcomeTransition policy record incidentSysId result now >>= fun next =>
        updateGuarded s.table caseId next [.searching]) = .error e → s.MayEnd caseId i
  | .acceptOutcome i => ∀ next, s.phase i = .outcomeMissed next → s.MayEnd caseId i
  | .stop i => (s.phase i).underWay = true → s.MayEnd caseId i

instance [Fintype ι] (s : LinkageRun ι) : Decidable s.Quiet :=
  inferInstanceAs (Decidable (∀ i, (s.phase i).underWay = false))

instance (s : LinkageRun ι) : Decidable (s.InProgress caseId) :=
  inferInstanceAs (Decidable (∃ row ∈ s.table.get? caseId, row.state = .pending ∨
    row.state = .searching))

instance [Fintype ι] (s : LinkageRun ι) (i : ι) : Decidable (s.MayEnd caseId i) :=
  inferInstanceAs (Decidable (s.InProgress caseId → ∃ j, j ≠ i ∧ (s.phase j).underWay = true))

/-- A phase has at most one record, so whether the call on it raises can be looked at. -/
def decidableOnError {α : Type} {mk : LinkageRetryRecord → LinkagePhase}
    {f : LinkageRetryRecord → Except Failure α} {p : Prop} [Decidable p]
    (hmk : ∀ record, (mk record).record? = some record) (phase : LinkagePhase) :
    Decidable (∀ record e, phase = mk record → f record = .error e → p) :=
  decidable_of_iff (∀ record ∈ phase.record?, phase = mk record → ¬ (f record).Returns → p)
    ⟨fun h record e hphase he =>
        Except.forall_error_imp.mpr (h record (hphase ▸ hmk record) hphase) e he,
      fun h record _ hphase => Except.forall_error_imp.mp fun e => h record e hphase⟩

instance [Fintype ι] (s : LinkageRun ι) :
    (l : LinkageStep ι) → Decidable (s.EndsRelieved policy caseId l)
  | .read .. => .isTrue trivial
  | .search i _ => decidableOnError (fun _ => rfl) (s.phase i)
  | .acceptSearch i =>
    match hphase : s.phase i with
    | .searchMissed source next =>
      decidable_of_iff (¬ (acceptLatest s.table caseId next [source]).Returns → s.MayEnd caseId i)
        ⟨fun h source' next' e hmissed he => by
            cases hphase.symm.trans hmissed
            exact Except.forall_error_imp.mpr h e he,
          fun h => Except.forall_error_imp.mp fun e => h source next e hphase⟩
    | .idle | .due _ | .searching _ | .outcomeMissed _ | .ended =>
      .isTrue fun _ _ _ hmissed => by cases hphase.symm.trans hmissed
  | .outcome i _ _ _ => decidableOnError (fun _ => rfl) (s.phase i)
  | .acceptOutcome i =>
    decidable_of_iff (∀ next ∈ (s.phase i).record?, s.phase i = .outcomeMissed next →
        s.MayEnd caseId i)
      ⟨fun h next hmissed => h next (hmissed ▸ rfl) hmissed, fun h next _ hmissed => h next hmissed⟩
  | .stop i => inferInstanceAs (Decidable ((s.phase i).underWay = true → s.MayEnd caseId i))

variable {policy caseId} {s s' : LinkageRun ι} {i : ι} {l : LinkageStep ι}

omit [DecidableEq ι] [Platform] in
/-- Not stranded means: in progress only while an invocation is under way. -/
theorem notStranded_iff (hvalid : ReadsBack s.table) :
    s.NotStranded caseId ↔ (s.Quiet → ¬ s.InProgress caseId) := by
  refine forall_congr' fun _ => ?_
  constructor
  · rintro h ⟨row, hrow, hstate⟩
    have hoffered := h row hrow (by rcases hstate with h | h <;> rw [h] <;> rfl)
    rw [offered_iff hvalid hrow] at hoffered
    rcases hstate with hstate | hstate <;> cases hstate.symm.trans hoffered
  · intro h row hrow hterminal
    rw [offered_iff hvalid hrow]
    cases hstate : row.state with
    | failedTemp => rfl
    | pending => exact absurd ⟨row, hrow, .inl hstate⟩ h
    | searching => exact absurd ⟨row, hrow, .inr hstate⟩ h
    | linked =>
      rw [hstate] at hterminal
      cases hterminal
    | failedFinal =>
      rw [hstate] at hterminal
      cases hterminal

omit [Platform] in
/-- With one invocation ended, all is quiet exactly when no other is under way. -/
theorem quiet_moved_ended :
    ((s.moved i .ended).Quiet → ¬ s.InProgress caseId) ↔ s.MayEnd caseId i := by
  have hquiet : (s.moved i .ended).Quiet ↔ ∀ j, j ≠ i → (s.phase j).underWay = false := by
    refine forall_congr' fun j => ?_
    rw [phase_moved]
    by_cases hj : j = i
    · rw [if_pos hj]
      exact iff_of_true rfl fun hne => absurd hj hne
    · rw [if_neg hj]
      exact ⟨fun h _ => h, fun h => h hj⟩
  rw [hquiet, MayEnd]
  constructor
  · intro h hprogress
    by_contra hnone
    refine h (fun j hj => ?_) hprogress
    by_contra hway
    exact hnone ⟨j, hj, Bool.not_eq_false _ ▸ hway⟩
  · intro h hquiet hprogress
    obtain ⟨j, hj, hway⟩ := h hprogress
    rw [hquiet j hj] at hway
    cases hway

omit [Platform] in
/-- With one invocation under way, it is not quiet. -/
theorem not_quiet_moved {p : LinkagePhase} (hp : p.underWay = true) {t : LinkageRun ι}
    (hphase : t.phase = (s.moved i p).phase) : ¬ t.Quiet := by
  intro h
  have hi := h i
  rw [hphase, phase_moved, if_pos rfl, hp] at hi
  cases hi

omit [DecidableEq ι] [Platform] in
/-- A new record is pending, and an attempt is due for it. -/
theorem phaseOfRead_created {pdIncidentId : String} {incidentSysId : Option String} {window : Int}
    {now : DateTime} {pending r : LinkageRetryRecord}
    (hcreate : createPendingLinkageRetryRecord caseId pdIncidentId incidentSysId window now =
      .ok pending) (hr : pending.validate = .ok r) : phaseOfRead r now = .due r := by
  obtain ⟨t, -, hcreate⟩ := Except.bind_eq_ok.mp hcreate
  obtain ⟨deadline, -, hcreate⟩ := Except.bind_eq_ok.mp hcreate
  have hstate : r.state = .pending :=
    (LinkageRetryRecord.validate_state hr).2.1.trans (LinkageRetryRecord.validate_state hcreate).2.1
  simp [phaseOfRead, hstate, LinkageRetryState.isTerminal]

/-- A read ends the invocation and leaves the table alone, or finds an attempt due. -/
theorem read_cases {pdIncidentId : String} {incidentSysId : Option String} {now : DateTime}
    (h : step policy caseId s (.read i pdIncidentId incidentSysId now) = some s') :
    s.phase i = .idle ∧ (s' = s.moved i .ended ∨
      ∃ record, (s'.table = s.table ∨
          ∃ next, Except.Returns next.validate ∧ s'.table = s.table.set caseId next) ∧
        s'.phase = (s.moved i (.due record)).phase) := by
  simp only [step] at h
  split at h
  · next hidle =>
    refine ⟨hidle, ?_⟩
    rcases getOrCreatePending_cases s.table caseId pdIncidentId incidentSysId
      policy.retryWindowMinutes now with
      ⟨e, hcall⟩ | ⟨row, r, -, -, -, hcall⟩ | ⟨pending, r, hnone, hpending, hr, hcall⟩
    · rw [hcall] at h
      exact .inl (Option.some.inj h).symm
    · rw [hcall] at h
      cases h
      rcases phaseOfRead_cases r now with hended | hdue
      · rw [hended]
        exact .inl rfl
      · rw [hdue]
        exact .inr ⟨r, .inl rfl, rfl⟩
    · rw [hcall] at h
      cases h
      rw [phaseOfRead_created hpending hr]
      exact .inr ⟨r, .inr ⟨pending, ⟨r, hr⟩, rfl⟩, rfl⟩
  · cases h

/-- A search whose statements raise ends the invocation; else it has persisted `SEARCHING` or
missed the row. -/
theorem searchWrite_cases {record : LinkageRetryRecord} {now : DateTime}
    (hdue : s.phase i = .due record) (h : step policy caseId s (.search i now) = some s') :
    (∃ e, (markLinkageSearching record now >>= fun next =>
        updateGuarded s.table caseId next [record.state]) = .error e ∧ s' = s.moved i .ended) ∨
      (∃ answer, (markLinkageSearching record now >>= fun next =>
        updateGuarded s.table caseId next [record.state]) = .ok answer ∧
        ((∃ next r, Except.Returns next.validate ∧
          s' = (s.stored (s.table.set caseId next)).moved i (.searching r)) ∨
        ∃ next, s' = s.moved i (.searchMissed record.state next))) := by
  simp only [step, hdue] at h
  cases hmark : markLinkageSearching record now with
  | error e =>
    simp only [hmark] at h
    exact .inl ⟨e, rfl, (Option.some.inj h).symm⟩
  | ok next =>
    simp only [hmark] at h
    rw [Except.ok_bind]
    rcases hupdate : updateGuarded s.table caseId next [record.state] with e | _ | ⟨persisted, table⟩
    · simp only [hupdate] at h
      exact .inl ⟨e, rfl, (Option.some.inj h).symm⟩
    · simp only [hupdate] at h
      exact .inr ⟨_, rfl, .inr ⟨next, (Option.some.inj h).symm⟩⟩
    · simp only [hupdate] at h
      rcases updateGuarded_ok hupdate with ⟨row, r, -, -, hr, hsome⟩ | ⟨-, hsome⟩
      · cases hsome
        exact .inr ⟨_, rfl, .inl ⟨next, _, ⟨_, hr⟩, (Option.some.inj h).symm⟩⟩
      · cases hsome

/-- An outcome whose statements raise ends the invocation; else it has been persisted or missed
the row. -/
theorem outcomeWrite_cases {record : LinkageRetryRecord} {incidentSysId : Option String}
    {result : ServiceNowLinkageWriteResult} {now : DateTime}
    (hsearching : s.phase i = .searching record)
    (h : step policy caseId s (.outcome i incidentSysId result now) = some s') :
    (∃ e, (outcomeTransition policy record incidentSysId result now >>= fun next =>
        updateGuarded s.table caseId next [.searching]) = .error e ∧ s' = s.moved i .ended) ∨
      (∃ answer, (outcomeTransition policy record incidentSysId result now >>= fun next =>
        updateGuarded s.table caseId next [.searching]) = .ok answer ∧
        ((∃ next, Except.Returns next.validate ∧
          (next.state = .linked ∨ next.state = .failedTemp ∨ next.state = .failedFinal) ∧
          s' = ((s.stored (s.table.set caseId next)).moved i .ended).report) ∨
        ∃ next, s' = s.moved i (.outcomeMissed next))) := by
  simp only [step, hsearching] at h
  cases hnext : outcomeTransition policy record incidentSysId result now with
  | error e =>
    simp only [hnext] at h
    exact .inl ⟨e, rfl, (Option.some.inj h).symm⟩
  | ok next =>
    simp only [hnext] at h
    rw [Except.ok_bind]
    rcases hupdate : updateGuarded s.table caseId next [.searching] with e | _ | ⟨persisted, table⟩
    · simp only [hupdate] at h
      exact .inl ⟨e, rfl, (Option.some.inj h).symm⟩
    · simp only [hupdate] at h
      exact .inr ⟨_, rfl, .inr ⟨next, (Option.some.inj h).symm⟩⟩
    · simp only [hupdate] at h
      rcases updateGuarded_ok hupdate with ⟨row, r, -, -, hr, hsome⟩ | ⟨-, hsome⟩
      · cases hsome
        exact .inr ⟨_, rfl, .inl ⟨next, ⟨_, hr⟩, (outcomeTransition_ok hnext).2.2,
          (Option.some.inj h).symm⟩⟩
      · cases hsome

/-- **Kinds of steps**: a step ends an invocation and leaves the table alone; or it has an
invocation under way, with at most a row written; or it persists an outcome. The first kind is
what `EndsRelieved` is about. -/
theorem step_kinds (h : step policy caseId s l = some s') :
    (∃ i, s'.phase = (s.moved i .ended).phase ∧ s'.table = s.table ∧
        (s.EndsRelieved policy caseId l ↔
          ((s.phase i).underWay = true → s.MayEnd caseId i))) ∨
      (∃ i p, p.underWay = true ∧ s'.phase = (s.moved i p).phase ∧
        s.EndsRelieved policy caseId l ∧ (s'.table = s.table ∨
          ∃ next, Except.Returns next.validate ∧ s'.table = s.table.set caseId next)) ∨
      ∃ next, Except.Returns next.validate ∧ next.state ≠ .pending ∧ next.state ≠ .searching ∧
        s'.table = s.table.set caseId next ∧ s.EndsRelieved policy caseId l := by
  cases l with
  | read i pdIncidentId incidentSysId now =>
    obtain ⟨hidle, hread⟩ := read_cases h
    rcases hread with rfl | ⟨record, htable, hphase⟩
    · refine .inl ⟨i, rfl, rfl, iff_of_true trivial fun hway => ?_⟩
      rw [hidle] at hway
      cases hway
    · exact .inr (.inl ⟨i, .due record, rfl, hphase, trivial, htable⟩)
  | search i now =>
    obtain ⟨record, hdue, -⟩ := step_search h
    rcases searchWrite_cases hdue h with ⟨e, he, rfl⟩ | ⟨answer, hanswer, hwritten⟩
    · refine .inl ⟨i, rfl, rfl, ⟨fun hends _ => hends record e hdue he, fun hmay _ _ _ _ => hmay ?_⟩⟩
      rw [hdue]
      rfl
    · have hrelieved : s.EndsRelieved policy caseId (.search i now) := by
        intro record' e hdue' he
        cases hdue.symm.trans hdue'
        cases hanswer.symm.trans he
      rcases hwritten with ⟨next, r, hvalid, rfl⟩ | ⟨next, rfl⟩
      · exact .inr (.inl ⟨i, .searching r, rfl, rfl, hrelieved, .inr ⟨next, hvalid, rfl⟩⟩)
      · exact .inr (.inl ⟨i, .searchMissed record.state next, rfl, rfl, hrelieved, .inl rfl⟩)
  | acceptSearch i =>
    simp only [step] at h
    split at h
    · next source next hmissed =>
      cases haccept : acceptLatest s.table caseId next [source] with
      | ok latest =>
        simp only [haccept] at h
        cases h
        refine .inr (.inl ⟨i, .searching latest, rfl, rfl, fun source' next' e hmissed' he => ?_,
          .inl rfl⟩)
        cases hmissed.symm.trans hmissed'
        cases haccept.symm.trans he
      | error e =>
        simp only [haccept] at h
        cases h
        refine .inl ⟨i, rfl, rfl, ⟨fun hends _ => hends source next e hmissed haccept,
          fun hmay _ _ _ _ _ => hmay ?_⟩⟩
        rw [hmissed]
        rfl
    · cases h
  | outcome i incidentSysId result now =>
    obtain ⟨record, hsearching, -⟩ := step_outcome h
    rcases outcomeWrite_cases hsearching h with ⟨e, he, rfl⟩ | ⟨answer, hanswer, hwritten⟩
    · refine .inl ⟨i, rfl, rfl, ⟨fun hends _ => hends record e hsearching he,
        fun hmay _ _ _ _ => hmay ?_⟩⟩
      rw [hsearching]
      rfl
    · have hrelieved : s.EndsRelieved policy caseId (.outcome i incidentSysId result now) := by
        intro record' e hsearching' he
        cases hsearching.symm.trans hsearching'
        cases hanswer.symm.trans he
      rcases hwritten with ⟨next, hvalid, hstate, rfl⟩ | ⟨next, rfl⟩
      · refine .inr (.inr ⟨next, hvalid, ?_, ?_, rfl, hrelieved⟩)
        · rcases hstate with h | h | h <;> rw [h] <;> decide
        · rcases hstate with h | h | h <;> rw [h] <;> decide
      · exact .inr (.inl ⟨i, .outcomeMissed next, rfl, rfl, hrelieved, .inl rfl⟩)
  | acceptOutcome i =>
    obtain ⟨next, hmissed⟩ := step_acceptOutcome h
    simp only [step, hmissed] at h
    have hkind : s'.phase = (s.moved i .ended).phase ∧ s'.table = s.table := by
      split at h <;> cases h <;> exact ⟨rfl, rfl⟩
    refine .inl ⟨i, hkind.1, hkind.2, ⟨fun hends _ => hends next hmissed, fun hmay _ _ => hmay ?_⟩⟩
    rw [hmissed]
    rfl
  | stop i =>
    cases h
    exact .inl ⟨i, rfl, rfl, Iff.rfl⟩

/-- Every step keeps the table readable. -/
theorem readsBack_step (h : step policy caseId s l = some s') (hs : ReadsBack s.table) :
    ReadsBack s'.table := by
  rcases step_kinds h with ⟨i, -, htable, -⟩ | ⟨i, p, -, -, -, htable | ⟨next, hnext, htable⟩⟩ |
    ⟨next, hnext, -, -, htable, -⟩
  · exact htable ▸ hs
  · exact htable ▸ hs
  · exact htable ▸ hs.set hnext
  · exact htable ▸ hs.set hnext

/-- **Step lemma**: from a state where nothing is stranded, a step leads to one exactly when it
ends no invocation that may not end. -/
theorem notStranded_step (hs : ReadsBack s.table) (hnot : s.NotStranded caseId)
    (h : step policy caseId s l = some s') :
    s'.NotStranded caseId ↔ s.EndsRelieved policy caseId l := by
  rw [notStranded_iff hs] at hnot
  rw [notStranded_iff (readsBack_step h hs)]
  rcases step_kinds h with ⟨i, hphase, htable, hends⟩ | ⟨i, p, hp, hphase, hends, -⟩ |
    ⟨next, -, hpending, hsearching, htable, hends⟩
  · -- the record is as it was, so what counts is who else is under way
    have hsame : (s'.Quiet → ¬ s'.InProgress caseId) ↔
        ((s.moved i .ended).Quiet → ¬ s.InProgress caseId) := by
      unfold Quiet InProgress
      rw [hphase, htable]
    rw [hsame, hends]
    by_cases hway : (s.phase i).underWay = true
    · rw [quiet_moved_ended, forall_prop_of_true hway]
    · refine iff_of_true (fun hquiet => hnot fun j => ?_) fun hway' => absurd hway' hway
      have hj := hquiet j
      rw [phase_moved] at hj
      by_cases hji : j = i
      · exact hji ▸ Bool.not_eq_true _ ▸ hway
      · rwa [if_neg hji] at hj
  · exact iff_of_true (fun hquiet => absurd hquiet (not_quiet_moved hp hphase)) hends
  · refine iff_of_true (fun _ => ?_) hends
    rintro ⟨row, hrow, hstate⟩
    rw [htable, Dict.get?_set, if_pos rfl] at hrow
    cases hrow
    exact hstate.elim hpending hsearching

/-- **No stranded work**: a run of invocations, from a table that reads back and has no record
of the case, leaves nothing stranded on its way exactly when every invocation that is stopped
or raises before it has persisted an outcome leaves a record that is not in progress, or
another invocation under way. -/
theorem never_stranded_iff {table : LinkageTable} (hvalid : ReadsBack table)
    (hnew : table.get? caseId = none) {steps : List (LinkageStep ι)}
    (hrun : Runs.run (step policy caseId) (start table) steps = some s) :
    Runs.Always (step policy caseId) (NotStranded caseId) (start table) steps ↔
      Runs.Along (step policy caseId) (EndsRelieved policy caseId) (start table) steps := by
  refine Runs.always_iff_along (J := fun s => ReadsBack s.table) (fun _ _ _ hs h => readsBack_step h hs)
    (fun _ _ _ => notStranded_step) hrun hvalid ?_
  intro _ row hrow
  cases hnew.symm.trans hrow

/-! ## One invocation -/

omit [Platform] in
theorem readsBack_empty : ReadsBack Dict.empty := by
  intro key row hrow
  cases hrow

/-- An invocation reads the record of a new case and enters `SEARCHING`. -/
def entersSearching : List (LinkageStep Unit) :=
  [.read () "pd-1" (some "inc-1") (.aware newYear2026), .search () (.aware newYear2026)]

omit [Platform] in
/-- Stopped while ServiceNow is being asked, it leaves the record `SEARCHING`: an attempt is due,
and the selection never offers the record. -/
theorem stopped_while_searching :
    let := asciiPlatform []
    ∃ s row, Runs.run (step {} "case-1") (start Dict.empty)
        (entersSearching ++ [.stop ()]) = some s ∧
      s.Quiet ∧ s.table.get? "case-1" = some row ∧ row.state = .searching ∧
      (∀ t, isRetryDue row (.aware t) = .ok true) ∧ ¬ Offered s.table row ∧
      ¬ s.NotStranded "case-1" := by
  intro _
  have hsearch : (Runs.run (step {} "case-1") (start Dict.empty) entersSearching).map
      LinkageRun.table = some (Dict.empty.set "case-1" (searchingRecord pendingCase1 newYear2026)) := by
    decide +kernel
  obtain ⟨t, ht, htable⟩ := Option.map_eq_some_iff.mp hsearch
  have hrun : Runs.run (step {} "case-1") (start Dict.empty) (entersSearching ++ [.stop ()]) =
      some (t.moved () .ended) := by
    rw [Runs.run_append, ht]
    rfl
  have hrow : (t.moved () .ended).table.get? "case-1" =
      some (searchingRecord pendingCase1 newYear2026) := by
    change t.table.get? "case-1" = _
    rw [htable, Dict.get?_set, if_pos rfl]
  have hvalid := Runs.run_inv (I := fun s => ReadsBack s.table) (fun _ _ _ hs h => readsBack_step h hs)
    hrun readsBack_empty
  have hquiet : (t.moved () .ended).Quiet := fun _ => rfl
  have hstranded : ¬ Offered (t.moved () .ended).table
      (searchingRecord pendingCase1 newYear2026) := by
    rw [offered_iff hvalid hrow]
    exact LinkageRetryState.noConfusion
  exact ⟨_, _, hrun, hquiet, hrow, rfl, fun _ => rfl, hstranded,
    fun h => hstranded (h hquiet _ hrow rfl)⟩

omit [Platform] in
/-- The first invocation stops while a second is under way, and what the others report is
persisted: nothing is stranded on the way. -/
theorem never_stranded_timed_out :
    let := asciiPlatform []
    ∃ s row, Runs.run (step {} "case-1") (start Dict.empty)
        (stoppedWhileSearching ++ reenteredAndRetried) = some s ∧
      s.Quiet ∧ s.table.get? "case-1" = some row ∧ row.state = .failedTemp ∧
      Runs.Always (step {} "case-1") (NotStranded "case-1") (start Dict.empty)
        (stoppedWhileSearching ++ reenteredAndRetried) := by
  have hrelieved : Runs.Along (@step (Fin 3) _ (asciiPlatform []) {} "case-1")
      (@EndsRelieved (Fin 3) (asciiPlatform []) {} "case-1") (start Dict.empty)
      (stoppedWhileSearching ++ reenteredAndRetried) := by
    decide +kernel
  intro _
  have hlast : (Runs.run (step {} "case-1") (start Dict.empty)
      (stoppedWhileSearching ++ reenteredAndRetried)).map (fun s =>
        ((s.table.get? "case-1").map (·.state), decide s.Quiet)) = some (some .failedTemp, true) := by
    decide +kernel
  obtain ⟨s, hrun, hlast⟩ := Option.map_eq_some_iff.mp hlast
  obtain ⟨hstate, hquiet⟩ := Prod.mk.inj hlast
  obtain ⟨row, hrow, hfailed⟩ := Option.map_eq_some_iff.mp hstate
  exact ⟨s, row, hrun, of_decide_eq_true hquiet, hrow, hfailed,
    (never_stranded_iff readsBack_empty rfl hrun).mpr hrelieved⟩

end LinkageRun

end AiopsTriage
