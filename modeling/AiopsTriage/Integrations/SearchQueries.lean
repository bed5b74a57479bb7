import AiopsTriage.Integrations.ServiceNow
import AiopsTriage.Lib.Clauses
import AiopsTriage.Retention.Cutoff

/-!
# Searches for an incident

The query of each tier is one text: conditions joined by `^` to clauses, and clauses joined by
`^NQ`. The values in it come from a case, from PagerDuty and from people, so the client takes the
separator out of each of them.

That is enough: whatever the values are, ServiceNow reads the clauses that were meant, with the
values inside the conditions they were put in (`queries_read_back`). It rests on the fields of the
contract, which are not escaped: one that holds the separator, or begins with `NQ`, breaks the
query.
-/

namespace AiopsTriage

/-! ## The contract -/

/-- `_SNTextField`. -/
inductive SnTextField where
  /-- the short description -/
  | shortDescription
  /-- the description -/
  | description
  /-- the work notes -/
  | workNotes
  deriving DecidableEq, Repr

/-- The name of a text field. -/
def SnTextField.value : SnTextField → String
  | shortDescription => "short_description"
  | description => "description"
  | workNotes => "work_notes"

/-- A tier that a correlation may search. -/
inductive CorrelationTier where
  /-- by the id of the incident -/
  | tier1
  /-- by texts -/
  | tier2
  /-- by time and routing key -/
  | tier3
  deriving DecidableEq, Repr

/-- The name of a tier. -/
def CorrelationTier.value : CorrelationTier → String
  | tier1 => "tier1"
  | tier2 => "tier2"
  | tier3 => "tier3"

/-- What the validator asks of `correlation_strategy`. -/
structure ValidStrategy (strategy : List CorrelationTier) : Prop where
  /-- `correlation_strategy must include tier1` -/
  tier1 : .tier1 ∈ strategy
  /-- `correlation_strategy cannot contain duplicate tiers` -/
  nodup : strategy.Nodup
  /-- `correlation_strategy must evaluate tier1 before tier2` -/
  tier1_tier2 : .tier2 ∈ strategy → strategy.idxOf .tier1 < strategy.idxOf .tier2
  /-- `correlation_strategy must evaluate tier2 before tier3` -/
  tier2_tier3 : .tier2 ∈ strategy → .tier3 ∈ strategy →
    strategy.idxOf .tier2 < strategy.idxOf .tier3

/-- The part of `ServiceNowLinkageContractV1` that a correlation depends on, with its validator. -/
structure CorrelationContract where
  /-- where incidents are -/
  incidentTable : String := "incident"
  /-- the fields that may hold the id of the PagerDuty incident -/
  tier1CorrelationFields : List String :=
    ["u_pagerduty_incident_id", "correlation_id", "u_correlation_id"]
  /-- the fields that are searched for texts -/
  tier2TextFields : List SnTextField := [.shortDescription, .description]
  /-- whether work notes are searched too -/
  tier2IncludeWorkNotes : Bool := false
  /-- how far back the third tier looks -/
  tier3WindowMinutes : ℕ := 120
  /-- the groups the third tier asks for -/
  tier3AssignmentGroups : List String := []
  /-- how many records a search asks for -/
  maxResultsPerTier : ℕ := 25
  /-- the tiers, in the order they are searched -/
  correlationStrategy : List CorrelationTier := [.tier1, .tier2, .tier3]
  /-- `incident_table must be non-empty` -/
  incidentTable_ok : PyText.isBlank incidentTable = false
  /-- `tier1_correlation_fields must contain at least one field` -/
  tier1_ne : tier1CorrelationFields ≠ []
  /-- `tier1_correlation_fields cannot contain empty values` -/
  tier1_ok : ∀ field ∈ tier1CorrelationFields, PyText.isBlank field = false
  /-- `tier2_include_work_notes=true requires 'work_notes' in tier2_text_fields` -/
  workNotes_ok : tier2IncludeWorkNotes = true → .workNotes ∈ tier2TextFields
  /-- `ge=1, le=720` -/
  window_ok : 1 ≤ tier3WindowMinutes ∧ tier3WindowMinutes ≤ 720
  /-- `ge=1, le=100` -/
  results_ok : 1 ≤ maxResultsPerTier ∧ maxResultsPerTier ≤ 100
  /-- the strategy is one the validator accepts -/
  strategy_ok : ValidStrategy correlationStrategy

/-! ## Texts -/

/-- `_dedupe_preserve_order`. -/
def dedupePreserveOrder (items : List String) : List String :=
  items.foldl (fun deduped item => if item = "" ∨ item ∈ deduped then deduped else deduped ++ [item])
    []

/-- A number below a hundred with two digits. -/
def twoDigits (n : ℕ) : String := String.ofList [Nat.digitChar (n / 10 % 10), Nat.digitChar (n % 10)]

/-- `strftime("%Y-%m-%d %H:%M:%S")` of a time in UTC. -/
def strftimeSeconds (t : Instant) : String :=
  let (year, month, day) := fromOrdinal (t / microsOfDay + epochOrdinal)
  let seconds := (t % microsOfDay / 1000000).toNat
  s!"{twoDigits (year.toNat / 100)}{twoDigits (year.toNat % 100)}-{twoDigits month.toNat}-" ++
    s!"{twoDigits day.toNat} {twoDigits (seconds / 3600)}:{twoDigits (seconds / 60 % 60)}:" ++
    twoDigits (seconds % 60)

namespace CorrelationContract

variable (contract : CorrelationContract)

/-- `_build_sysparm_fields`. -/
def buildSysparmFields : String :=
  PyText.join "," (["sys_id", "number", "short_description", "description", "sys_created_on"] ++
    if contract.tier2IncludeWorkNotes then ["work_notes"] else [])

/-! ## Queries -/

/-- `_build_tier1_query`. -/
def buildTier1Query (pdIncidentId : String) : String :=
  let escapedPdIncidentId := escapeQueryValue pdIncidentId
  PyText.join "^NQ" (contract.tier1CorrelationFields.map fun field =>
    s!"{field}={escapedPdIncidentId}")

/-- The fields that the second tier searches. -/
def textFields : List SnTextField :=
  if contract.tier2IncludeWorkNotes ∧ .workNotes ∉ contract.tier2TextFields then
    contract.tier2TextFields ++ [.workNotes]
  else contract.tier2TextFields

/-- The texts that the second tier searches for. -/
def searchTokens (pdIncidentId caseId routingKey : String) (keywords : List String) : List String :=
  dedupePreserveOrder (pdIncidentId :: caseId :: routingKey :: keywords)

/-- `_build_tier2_query`. -/
def buildTier2Query (pdIncidentId caseId routingKey : String) (keywords : List String) : String :=
  PyText.join "^NQ" ((searchTokens pdIncidentId caseId routingKey keywords).flatMap fun token =>
    contract.textFields.map fun field => s!"{field.value}LIKE{escapeQueryValue token}")

/-- `_build_tier3_query`. A window that begins before the year 1 is out of range. -/
def buildTier3Query (routingKey : String) (caseTimestamp : Instant) : Except Failure String := do
  let windowStart : Instant := caseTimestamp - contract.tier3WindowMinutes * 60000000
  raiseIf (windowStart < minInstant) .overflowError
  let window := s!"sys_created_on>={strftimeSeconds windowStart}^" ++
    s!"sys_created_on<={strftimeSeconds caseTimestamp}"
  let escapedRoutingKey := escapeQueryValue routingKey
  let routingClauses :=
    [s!"{window}^short_descriptionLIKE{escapedRoutingKey}",
      s!"{window}^descriptionLIKE{escapedRoutingKey}"] ++
    (if contract.tier2IncludeWorkNotes then [s!"{window}^work_notesLIKE{escapedRoutingKey}"]
      else []) ++
    contract.tier3AssignmentGroups.map fun group =>
      s!"{window}^assignment_group={escapeQueryValue group}^" ++
        s!"short_descriptionLIKE{escapedRoutingKey}"
  return PyText.join "^NQ" routingClauses

/-! ## The clauses that are meant -/

/-- A condition: a field, a comparison and a value. -/
def condition (field operator value : String) : String := field ++ operator ++ value

/-- One clause for each field that may hold the id. -/
def tier1Clauses (pdIncidentId : String) : List (List String) :=
  contract.tier1CorrelationFields.map fun field =>
    [condition field "=" (escapeQueryValue pdIncidentId)]

/-- One clause for each text and each field. -/
def tier2Clauses (pdIncidentId caseId routingKey : String) (keywords : List String) :
    List (List String) :=
  (searchTokens pdIncidentId caseId routingKey keywords).flatMap fun token =>
    contract.textFields.map fun field => [condition field.value "LIKE" (escapeQueryValue token)]

/-- The clauses of the routing key in a time window. -/
def tier3Clauses (routingKey : String) (caseTimestamp : Instant) : List (List String) :=
  let windowStart : Instant := caseTimestamp - contract.tier3WindowMinutes * 60000000
  let inWindow (conditions : List String) : List String :=
    condition "sys_created_on" ">=" (strftimeSeconds windowStart) ::
      condition "sys_created_on" "<=" (strftimeSeconds caseTimestamp) :: conditions
  let mentions (field : SnTextField) := condition field.value "LIKE" (escapeQueryValue routingKey)
  [inWindow [mentions .shortDescription], inWindow [mentions .description]] ++
    (if contract.tier2IncludeWorkNotes then [inWindow [mentions .workNotes]] else []) ++
    contract.tier3AssignmentGroups.map fun group =>
      inWindow [condition "assignment_group" "=" (escapeQueryValue group),
        mentions .shortDescription]

/-! ## Texts without the separator -/

/-- An escaped value does not hold the separator. -/
theorem caret_notMem_escape (value : String) : '^' ∉ (escapeQueryValue value).toList := by
  rw [escapeQueryValue, String.toList_ofList]
  intro hmem
  exact absurd (List.mem_filter.mp hmem).2 (by decide)

theorem caret_notMem_twoDigits (n : ℕ) : '^' ∉ (twoDigits n).toList := by
  have hdigit : ∀ k < 10, Nat.digitChar k ≠ '^' := by decide
  rw [twoDigits, String.toList_ofList]
  simp only [List.mem_cons, List.not_mem_nil, or_false, not_or]
  exact ⟨(hdigit _ (Nat.mod_lt _ (by decide))).symm, (hdigit _ (Nat.mod_lt _ (by decide))).symm⟩

/-- A written time does not hold the separator. -/
theorem caret_notMem_strftimeSeconds (t : Instant) : '^' ∉ (strftimeSeconds t).toList := by
  have htext : ∀ s : String, toString s = s := fun _ => rfl
  unfold strftimeSeconds
  simp [htext, caret_notMem_twoDigits]

/-- The tokens of a text that is not empty. -/
theorem searchTokens_ne_nil {pdIncidentId : String} (h : pdIncidentId ≠ "") (caseId routingKey : String)
    (keywords : List String) : searchTokens pdIncidentId caseId routingKey keywords ≠ [] := by
  -- a list that is not empty stays so, and the first text makes it so
  have hkeeps : ∀ (items deduped : List String), deduped ≠ [] →
      items.foldl (fun deduped item =>
        if item = "" ∨ item ∈ deduped then deduped else deduped ++ [item]) deduped ≠ [] := by
    intro items
    induction items with
    | nil => exact fun _ h => h
    | cons item items ih =>
      intro deduped hne
      rw [List.foldl_cons]
      refine ih _ ?_
      split
      · exact hne
      · exact List.append_ne_nil_of_left_ne_nil hne _
  rw [searchTokens, dedupePreserveOrder, List.foldl_cons]
  refine hkeeps _ _ ?_
  rw [if_neg (by simpa using h)]
  exact List.cons_ne_nil _ _

/-! ## Readable clauses -/

/-- A field that does not break a query: the separator is not in it, nor the mark at its start. -/
def PlainField (field : String) : Prop :=
  field ≠ "" ∧ '^' ∉ field.toList ∧ ¬ "NQ".toList <+: field.toList

instance : DecidablePred PlainField := fun field =>
  inferInstanceAs (Decidable (field ≠ "" ∧ '^' ∉ field.toList ∧ ¬ "NQ".toList <+: field.toList))

/-- The comparisons of the queries. -/
def operators : List String := ["=", "LIKE", ">=", "<="]

/-- An operator is not empty, does not hold the separator and does not end the mark. -/
theorem plain_operator : ∀ operator ∈ operators,
    '^' ∉ operator.toList ∧ operator.toList ≠ [] ∧ operator.toList.head? ≠ some 'Q' := by decide

/-- A condition of a plain field, with a value that does not hold the separator, can be read
back. -/
theorem readable_condition {field operator value : String} (hfield : PlainField field)
    (hoperator : operator ∈ operators) (hvalue : '^' ∉ value.toList) :
    '^' ∉ (condition field operator value).toList ∧
      ¬ "NQ".toList <+: (condition field operator value).toList := by
  obtain ⟨hne, hcaret, hmark⟩ := hfield
  obtain ⟨hplain, hop, hq⟩ := plain_operator operator hoperator
  refine ⟨by simp [condition, hcaret, hplain, hvalue], fun hprefix => hmark ?_⟩
  rw [condition, String.toList_append, String.toList_append, List.append_assoc] at hprefix
  obtain ⟨c, cs, hfield⟩ := List.exists_cons_of_ne_nil fun h => hne (String.toList_eq_nil_iff.mp h)
  rw [hfield] at hprefix ⊢
  obtain ⟨hc, hrest⟩ : 'N' = c ∧ ['Q'] <+: cs ++ (operator.toList ++ value.toList) :=
    List.cons_prefix_cons.mp hprefix
  cases cs with
  | nil =>
    -- then the second letter of the mark is the first of the operator
    obtain ⟨d, ds, hds⟩ := List.exists_cons_of_ne_nil hop
    rw [hds] at hrest hq
    exact absurd (congrArg some (List.cons_prefix_cons.mp hrest).1.symm) hq
  | cons d ds =>
    obtain ⟨hd, -⟩ := List.cons_prefix_cons.mp hrest
    rw [← hc, ← hd]
    exact List.prefix_append ['N', 'Q'] ds

/-- The fields that the client names itself are plain. -/
theorem plain_value (field : SnTextField) : PlainField field.value := by
  cases field <;> decide

variable {contract}

/-- The query of some clauses. -/
theorem join_eq_render (clauses : List (List String)) :
    PyText.join "^NQ" (clauses.map (PyText.join "^")) = Clauses.render '^' "NQ" clauses := rfl

theorem buildTier1Query_eq (pdIncidentId : String) : contract.buildTier1Query pdIncidentId =
    Clauses.render '^' "NQ" (contract.tier1Clauses pdIncidentId) := by
  rw [← join_eq_render, tier1Clauses, List.map_map]
  rfl

theorem buildTier2Query_eq (pdIncidentId caseId routingKey : String) (keywords : List String) :
    contract.buildTier2Query pdIncidentId caseId routingKey keywords = Clauses.render '^' "NQ"
      (contract.tier2Clauses pdIncidentId caseId routingKey keywords) := by
  rw [← join_eq_render, tier2Clauses, List.map_flatMap]
  simp only [List.map_map]
  rfl

/-- The query of the third tier, when its window begins in range. -/
theorem buildTier3Query_eq {routingKey : String} {caseTimestamp : Instant} {query : String}
    (h : contract.buildTier3Query routingKey caseTimestamp = .ok query) :
    query = Clauses.render '^' "NQ" (contract.tier3Clauses routingKey caseTimestamp) := by
  obtain ⟨_, -, h⟩ := Except.bind_eq_ok.mp h
  cases h
  rw [← join_eq_render, tier3Clauses]
  refine congrArg _ ?_
  have htext : ∀ s : String, toString s = s := fun _ => rfl
  -- the texts of the source, cut behind the separator
  have hcut : ∀ text tail : String, text = "^" ++ tail → ∀ s, text ++ s = "^" ++ (tail ++ s) := by
    rintro text tail rfl s
    exact String.append_assoc
  have hshort : ∀ s, "^short_descriptionLIKE" ++ s = "^" ++ ("short_descriptionLIKE" ++ s) :=
    hcut _ _ rfl
  have hlong : ∀ s, "^descriptionLIKE" ++ s = "^" ++ ("descriptionLIKE" ++ s) :=
    hcut _ _ rfl
  have hnotes : ∀ s, "^work_notesLIKE" ++ s = "^" ++ ("work_notesLIKE" ++ s) :=
    hcut _ _ rfl
  have hgroup : ∀ s, "^assignment_group=" ++ s = "^" ++ ("assignment_group=" ++ s) :=
    hcut _ _ rfl
  cases contract.tier2IncludeWorkNotes
  all_goals
    simp [htext, hshort, hlong, hnotes, hgroup, condition, PyText.join, SnTextField.value,
      String.append_assoc, Function.comp_def]

/-- A clause of one condition can be read back. -/
theorem readable_singleton {field operator value : String} (hfield : PlainField field)
    (hoperator : operator ∈ operators) (hvalue : '^' ∉ value.toList) :
    Clauses.Readable '^' "NQ" [condition field operator value] :=
  ⟨List.cons_ne_nil _ _, by simpa using readable_condition hfield hoperator hvalue⟩

/-- A clause of the third tier can be read back. -/
theorem readable_tier3Clauses {routingKey : String} {caseTimestamp : Instant}
    {clause : List String} (h : clause ∈ contract.tier3Clauses routingKey caseTimestamp) :
    Clauses.Readable '^' "NQ" clause := by
  have htime : PlainField "sys_created_on" := by decide
  have hgroup : PlainField "assignment_group" := by decide
  -- the window comes first, whatever the conditions are
  have hwindow : ∀ {conditions : List String} {start stop : Instant},
      (∀ s ∈ conditions, '^' ∉ s.toList ∧ ¬ "NQ".toList <+: s.toList) →
      Clauses.Readable '^' "NQ" (condition "sys_created_on" ">=" (strftimeSeconds start) ::
        condition "sys_created_on" "<=" (strftimeSeconds stop) :: conditions) := by
    intro conditions start stop hconditions
    refine ⟨List.cons_ne_nil _ _, fun s hs => ?_⟩
    rcases List.mem_cons.mp hs with rfl | hs
    · exact readable_condition htime (by decide) (caret_notMem_strftimeSeconds _)
    rcases List.mem_cons.mp hs with rfl | hs
    · exact readable_condition htime (by decide) (caret_notMem_strftimeSeconds _)
    · exact hconditions s hs
  have hmention : ∀ field : SnTextField,
      '^' ∉ (condition field.value "LIKE" (escapeQueryValue routingKey)).toList ∧
        ¬ "NQ".toList <+: (condition field.value "LIKE" (escapeQueryValue routingKey)).toList :=
    fun field => readable_condition (plain_value field) (by decide) (caret_notMem_escape _)
  rw [tier3Clauses, List.mem_append, List.mem_append] at h
  rcases h with (h | h) | h
  · rcases List.mem_cons.mp h with rfl | h
    · exact hwindow (by simpa using hmention .shortDescription)
    · obtain rfl := List.mem_singleton.mp h
      exact hwindow (by simpa using hmention .description)
  · split at h
    · obtain rfl := List.mem_singleton.mp h
      exact hwindow (by simpa using hmention .workNotes)
    · cases h
  · obtain ⟨group, -, rfl⟩ := List.mem_map.mp h
    refine hwindow fun s hs => ?_
    rcases List.mem_cons.mp hs with rfl | hs
    · exact readable_condition hgroup (by decide) (caret_notMem_escape _)
    · obtain rfl := List.mem_singleton.mp hs
      exact hmention .shortDescription

variable (contract) in
/-- **Queries**: whatever the values are, ServiceNow reads the clauses that were meant, as long as
the fields of the contract are plain. -/
theorem queries_read_back
    (hplain : ∀ field ∈ contract.tier1CorrelationFields, PlainField field)
    (hfields : contract.textFields ≠ []) (pdIncidentId : String) (hid : pdIncidentId ≠ "")
    (caseId routingKey : String) (keywords : List String) (caseTimestamp : Instant) :
    Clauses.read '^' "NQ" (contract.buildTier1Query pdIncidentId) =
        contract.tier1Clauses pdIncidentId ∧
      Clauses.read '^' "NQ" (contract.buildTier2Query pdIncidentId caseId routingKey keywords) =
        contract.tier2Clauses pdIncidentId caseId routingKey keywords ∧
      ∀ query, contract.buildTier3Query routingKey caseTimestamp = .ok query →
        Clauses.read '^' "NQ" query = contract.tier3Clauses routingKey caseTimestamp := by
  have hmark : '^' ∉ "NQ".toList := by decide
  have htokens := searchTokens_ne_nil hid caseId routingKey keywords
  refine ⟨?_, ?_, fun query hquery => ?_⟩
  · rw [buildTier1Query_eq, Clauses.read_render hmark]
    · exact fun h => contract.tier1_ne (List.map_eq_nil_iff.mp h)
    · intro clause hclause
      obtain ⟨field, hfield, rfl⟩ := List.mem_map.mp hclause
      exact readable_singleton (hplain field hfield) (by decide) (caret_notMem_escape _)
  · rw [buildTier2Query_eq, Clauses.read_render hmark]
    · obtain ⟨token, htoken⟩ := List.exists_mem_of_ne_nil _ htokens
      obtain ⟨field, hfield⟩ := List.exists_mem_of_ne_nil _ hfields
      exact List.ne_nil_of_mem (List.mem_flatMap.mpr
        ⟨token, htoken, List.mem_map_of_mem hfield⟩)
    · intro clause hclause
      obtain ⟨token, -, hclause⟩ := List.mem_flatMap.mp hclause
      obtain ⟨field, -, rfl⟩ := List.mem_map.mp hclause
      exact readable_singleton (plain_value field) (by decide) (caret_notMem_escape _)
  · rw [buildTier3Query_eq hquery, Clauses.read_render hmark]
    · exact List.cons_ne_nil _ _
    · exact fun clause hclause => readable_tier3Clauses hclause

/-! ## A hostile incident id -/

/-- The default strategy is accepted. -/
theorem validStrategy_default : ValidStrategy [.tier1, .tier2, .tier3] where
  tier1 := by decide
  nodup := by decide
  tier1_tier2 _ := by decide
  tier2_tier3 _ _ := by decide

/-- The default fields are accepted, and plain. -/
theorem defaultFields_ok :
    ∀ field ∈ ["u_pagerduty_incident_id", "correlation_id", "u_correlation_id"],
      PyText.isBlank field = false ∧ PlainField field := by decide

/-- The default contract. -/
def default : CorrelationContract where
  incidentTable_ok := rfl
  tier1_ne := List.cons_ne_nil _ _
  tier1_ok field hfield := (defaultFields_ok field hfield).1
  workNotes_ok h := Bool.noConfusion h
  window_ok := ⟨Nat.le_add_left 1 119, Nat.le_add_right 120 600⟩
  results_ok := ⟨Nat.le_add_left 1 24, Nat.le_add_right 25 75⟩
  strategy_ok := validStrategy_default

/-- An id that would add a clause stays inside its conditions. -/
theorem queries_read_back_hostile :
    Clauses.read '^' "NQ" (default.buildTier1Query "pd-1^NQactive=true") =
      [["u_pagerduty_incident_id=pd-1NQactive=true"], ["correlation_id=pd-1NQactive=true"],
        ["u_correlation_id=pd-1NQactive=true"]] := by
  have hread := queries_read_back default (fun field hfield => (defaultFields_ok field hfield).2)
    (List.cons_ne_nil _ _) "pd-1^NQactive=true" (by decide) "case-1" "routing-1" [] newYear2026
  exact hread.1.trans (by decide)

end CorrelationContract

end AiopsTriage
