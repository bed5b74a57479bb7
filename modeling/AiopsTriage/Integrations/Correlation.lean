import AiopsTriage.HotPath.Dispatch
import AiopsTriage.Integrations.SearchQueries
import AiopsTriage.Lib.Ranks
import Mathlib.Data.Prod.Lex

/-!
# Correlating an incident

A correlation looks for the ServiceNow incident of a case in the tiers of the strategy, one
request for each, and stops at the first tier that has an answer. Of an answer it takes the record
that was created last, and of those the one with the greatest `sys_id`.

* `correlate_live_exact` — which tiers are asked, which record is taken, and what is said when no
  tier has an answer.
* `correlate_live_any_order` — the order in which ServiceNow lists its records does not matter.

A time in an answer that has no place in UTC ends the correlation with an exception
(`rankIncidents_cases`); nothing in the client catches it.
-/

namespace AiopsTriage

/-! ## Answers -/

/-- A record of an answer. -/
abbrev SnRecord := Dict String Json

/-- What `_request_records` returns: records, or an error. -/
abbrev SearchAnswer := Except String (List SnRecord)

/-- The parameters of a search. -/
structure SearchRequest where
  /-- the table -/
  table : String
  /-- the query -/
  sysparmQuery : String
  /-- how many records -/
  sysparmLimit : String
  /-- which fields -/
  sysparmFields : String
  deriving DecidableEq, Repr

/-- A `datetime` that was read from a text. -/
structure ReadDatetime where
  /-- the time on the clock -/
  clock : Instant
  /-- the offset of its zone, if it has one -/
  utcoffset : Option Int
  deriving DecidableEq, Repr

/-- The readers of `datetime`; `none` is a `ValueError`. -/
structure DatetimeReader where
  /-- `datetime.fromisoformat` -/
  fromisoformat : String → Option ReadDatetime
  /-- `datetime.strptime(value, "%Y-%m-%d %H:%M:%S")` -/
  strptime : String → Option Instant

/-- `value.replace("Z", "+00:00")`. -/
def replaceZulu (value : String) : String :=
  String.ofList (value.toList.flatMap fun c => if c = 'Z' then "+00:00".toList else [c])

/-- `_parse_created_on`. -/
def parseCreatedOn (reader : DatetimeReader) (value : Option String) : Except Failure Instant :=
  match value.filter (· ≠ "") with
  | none => .ok minInstant
  | some text =>
    match reader.fromisoformat (replaceZulu text) with
    | some ⟨clock, none⟩ => .ok clock
    | some ⟨clock, some utcoffset⟩ =>
      let utc := clock - utcoffset
      if utc < minInstant ∨ maxInstant < utc then .error .overflowError else .ok utc
    | none => .ok ((reader.strptime text).getD minInstant)

/-- `_log_tier_attempt`. -/
structure TierAttempt where
  /-- the tier -/
  tier : CorrelationTier
  /-- what came of it -/
  outcome : String
  /-- the error, when the search failed with one -/
  error : Option String
  deriving DecidableEq, Repr

/-- `ServiceNowCorrelationResult`; no tier is `"none"`. -/
structure ServiceNowCorrelationResult where
  /-- whether an incident was found -/
  matched : Bool
  /-- where -/
  matchedTier : Option CorrelationTier
  /-- which -/
  incidentSysId : Option String
  /-- why -/
  reason : String
  /-- what else is said -/
  reasonMetadata : Dict String Json
  deriving DecidableEq, Repr

/-- A result without an incident. -/
def unmatched (reason : String) (metadata : List (String × Json)) : ServiceNowCorrelationResult where
  matched := false
  matchedTier := none
  incidentSysId := none
  reason := reason
  reasonMetadata := Dict.ofPairs metadata

/-- A call of `correlate_incident`, and what ServiceNow answers to the search of each tier. -/
structure CorrelationCall where
  /-- the id that is drawn for the call -/
  requestId : String
  /-- the case -/
  caseId : String
  /-- the incident in PagerDuty -/
  pdIncidentId : String
  /-- the routing key -/
  routingKey : String
  /-- more texts to search for -/
  keywords : List String
  /-- when the case was -/
  caseTimestamp : Option Instant
  /-- when the call is -/
  now : Instant
  /-- the answers -/
  ask : CorrelationTier → SearchRequest → SearchAnswer

/-- The part of `ServiceNowClient` that correlates. -/
structure CorrelationClient where
  /-- the mode -/
  mode : IntegrationMode := .off
  /-- where ServiceNow is, without slashes at its end -/
  baseUrl : Option String := none
  /-- the contract -/
  contract : CorrelationContract
  /-- the tier that matches in `MOCK` mode -/
  mockMatchTier : Option CorrelationTier := none

/-- `_missing_required_values`. -/
def missingRequiredValues (caseId pdIncidentId routingKey : String) : List String :=
  (if PyText.isBlank caseId then ["case_id"] else []) ++
    (if PyText.isBlank pdIncidentId then ["pd_incident_id"] else []) ++
    if PyText.isBlank routingKey then ["routing_key"] else []

/-- `_query_incidents`: an error without a text counts as an empty answer. -/
def queryIncidents (answer : SearchAnswer) : List SnRecord × String × Option String :=
  match answer with
  | .error error => if error = "" then ([], "not_found", none) else ([], "error", some error)
  | .ok records => (records, if records = [] then "not_found" else "success", none)

section Client

variable [Platform] (reader : DatetimeReader)

/-- `_coerce_to_string`. -/
def coerceToString : Option Json → Option String
  | none => none
  | some .null => none
  | some value => some (pyStr value)

/-- The key by which incidents are ranked. -/
def incidentKey (incident : SnRecord) : Except Failure (Instant ×ₗ String) := do
  let createdOn ← parseCreatedOn reader (coerceToString (incident.get? "sys_created_on"))
  return toLex (createdOn, (coerceToString (incident.get? "sys_id")).getD "")

/-- The key of an incident that has one. -/
def keyOf (incident : SnRecord) : Instant ×ₗ String :=
  (incidentKey reader incident).toOption.getD (toLex (minInstant, ""))

/-- `_rank_incidents`. All keys are made before anything is sorted. -/
def rankIncidents (incidents : List SnRecord) : Except Failure (List SnRecord) := do
  let _ ← incidents.mapM (incidentKey reader)
  return incidents.sortByKeyReverse (keyOf reader)

/-- The result when a tier has an answer. -/
def matchFound (requestId : String) (tier : CorrelationTier) (incident : SnRecord) :
    ServiceNowCorrelationResult where
  matched := true
  matchedTier := some tier
  incidentSysId := coerceToString (incident.get? "sys_id")
  reason := "match_found"
  reasonMetadata := Dict.ofPairs [("request_id", .str requestId),
    ("incident_number", (coerceToString (incident.get? "number")).elim .null .str)]

/-- The result of a tier with an answer. -/
def bestMatch (requestId : String) (tier : CorrelationTier)
    (incidents : List SnRecord) : Except Failure ServiceNowCorrelationResult := do
  let ranked ← rankIncidents reader incidents
  match ranked with
  | [] => .error (.indexError "list index out of range")
  | incident :: _ => return matchFound requestId tier incident

/-- The result when no tier has one. -/
def nothingFound (requestId : String) (errors : List String) : ServiceNowCorrelationResult :=
  unmatched (if errors = [] then "not_found" else "search_error")
    [("request_id", .str requestId), ("errors", .arr (errors.map .str))]

/-- The loop of `_correlate_live`, with the errors so far. -/
def searchTiers (requestId : String) (answerOf : CorrelationTier → SearchAnswer) :
    List CorrelationTier → List String →
      List TierAttempt × Except Failure ServiceNowCorrelationResult
  | [], errors => ([], .ok (nothingFound requestId errors))
  | tier :: tiers, errors =>
    let (incidents, outcome, error) := queryIncidents (answerOf tier)
    let attempt := ⟨tier, outcome, error⟩
    if incidents ≠ [] then
      ([attempt], bestMatch reader requestId tier incidents)
    else
      let (attempts, result) := searchTiers requestId answerOf tiers (errors ++ error.toList)
      (attempt :: attempts, result)

namespace CorrelationClient

variable (client : CorrelationClient) (call : CorrelationCall)

/-- The request of a search. -/
def request (sysparmQuery : String) : SearchRequest where
  table := client.contract.incidentTable
  sysparmQuery := sysparmQuery
  sysparmLimit := toString client.contract.maxResultsPerTier
  sysparmFields := client.contract.buildSysparmFields

/-- `query_by_tier_map`, with the query of the third tier. -/
def queryByTier (tier3Query : String) : CorrelationTier → String
  | .tier1 => client.contract.buildTier1Query call.pdIncidentId
  | .tier2 =>
    client.contract.buildTier2Query call.pdIncidentId call.caseId call.routingKey call.keywords
  | .tier3 => tier3Query

/-- `_correlate_live`. All queries are built before the first is asked. -/
def correlateLive (caseTimestamp : Instant) :
    List TierAttempt × Except Failure ServiceNowCorrelationResult :=
  if client.baseUrl.getD "" = "" then
    ([], .ok (unmatched "missing_base_url" [("request_id", .str call.requestId)]))
  else
    match client.contract.buildTier3Query call.routingKey caseTimestamp with
    | .error e => ([], .error e)
    | .ok tier3Query =>
      searchTiers reader call.requestId
        (fun tier => call.ask tier (client.request (client.queryByTier call tier3Query tier)))
        client.contract.correlationStrategy []

/-- `_correlate_mock`. -/
def correlateMock (requestId : String) :
    List CorrelationTier → List TierAttempt × ServiceNowCorrelationResult
  | [] => ([], unmatched "not_found" [("request_id", .str requestId)])
  | tier :: tiers =>
    if client.mockMatchTier = some tier then
      ([⟨tier, "mock_match", none⟩], {
        matched := true
        matchedTier := some tier
        incidentSysId := some s!"mock-{tier.value}-sys-id"
        reason := "mock_match"
        reasonMetadata := Dict.ofPairs [("request_id", .str requestId)] })
    else
      let (attempts, result) := correlateMock requestId tiers
      (⟨tier, "not_found", none⟩ :: attempts, result)

/-- `correlate_incident`, without what it reports to the metrics. -/
def correlateIncident : List TierAttempt × Except Failure ServiceNowCorrelationResult :=
  let effectiveTimestamp := call.caseTimestamp.getD call.now
  let missingFields := missingRequiredValues call.caseId call.pdIncidentId call.routingKey
  if missingFields ≠ [] then
    ([], .ok (unmatched "invalid_input" [("request_id", .str call.requestId),
      ("missing_fields", .arr (missingFields.map .str))]))
  else
    match client.mode with
    | .off => ([], .ok (unmatched "mode_off" [("request_id", .str call.requestId)]))
    | .log => (client.contract.correlationStrategy.map fun tier => ⟨tier, "planned", none⟩,
        .ok (unmatched "mode_log_noop" [("request_id", .str call.requestId)]))
    | .mock =>
      let (attempts, result) :=
        client.correlateMock call.requestId client.contract.correlationStrategy
      (attempts, .ok result)
    | .live => client.correlateLive reader call effectiveTimestamp

end CorrelationClient

/-! ## Ranking -/

variable {reader}

/-- The only exception of a key is a time that is out of range. -/
theorem incidentKey_error {incident : SnRecord} {e : Failure}
    (h : incidentKey reader incident = .error e) : e = .overflowError := by
  unfold incidentKey at h
  cases hcreated : parseCreatedOn reader (coerceToString (incident.get? "sys_created_on")) with
  | ok t =>
    rw [hcreated] at h
    cases h
  | error e' =>
    rw [hcreated] at h
    cases h
    unfold parseCreatedOn at hcreated
    split at hcreated
    · cases hcreated
    · split at hcreated
      · cases hcreated
      · dsimp only at hcreated
        split at hcreated
        · cases hcreated
          rfl
        · cases hcreated
      · cases hcreated

variable (reader) in
/-- A list of incidents has a key for each, or one of them has a time that is out of range. -/
theorem mapM_incidentKey (incidents : List SnRecord) :
    ((∃ incident ∈ incidents, incidentKey reader incident = .error .overflowError) ∧
        incidents.mapM (incidentKey reader) = .error .overflowError) ∨
      (∀ incident ∈ incidents, (incidentKey reader incident).Returns) ∧
        (incidents.mapM (incidentKey reader)).Returns := by
  induction incidents with
  | nil => exact .inr ⟨nofun, [], rfl⟩
  | cons incident incidents ih =>
    rw [List.mapM_cons]
    cases hkey : incidentKey reader incident with
    | error e =>
      obtain rfl := incidentKey_error hkey
      exact .inl ⟨⟨incident, List.mem_cons_self, hkey⟩, rfl⟩
    | ok key =>
      rcases ih with ⟨⟨bad, hbad, hraised⟩, hrest⟩ | ⟨hall, keys, hrest⟩
      · rw [hrest]
        exact .inl ⟨⟨bad, List.mem_cons_of_mem _ hbad, hraised⟩, rfl⟩
      · rw [hrest]
        refine .inr ⟨fun i hi => ?_, key :: keys, rfl⟩
        rcases List.mem_cons.mp hi with rfl | hi
        · exact ⟨key, hkey⟩
        · exact hall i hi

variable (reader) in
/-- **Ranking** raises when a time is out of range, and else begins with the first of the greatest
records. -/
theorem rankIncidents_cases (incidents : List SnRecord) :
    ((∃ incident ∈ incidents, incidentKey reader incident = .error .overflowError) ∧
        rankIncidents reader incidents = .error .overflowError) ∨
      (∀ incident ∈ incidents, (incidentKey reader incident).Returns) ∧
        rankIncidents reader incidents = .ok (incidents.sortByKeyReverse (keyOf reader)) := by
  rcases mapM_incidentKey reader incidents with ⟨hbad, hrest⟩ | ⟨hall, keys, hrest⟩
  · exact .inl ⟨hbad, by rw [rankIncidents, hrest]; rfl⟩
  · exact .inr ⟨hall, by rw [rankIncidents, hrest]; rfl⟩

variable (reader) in
/-- A tier with an answer gives its greatest record, or raises over a time out of range. -/
theorem bestMatch_cases (requestId : String) (tier : CorrelationTier) {incidents : List SnRecord}
    (hne : incidents ≠ []) :
    ((∃ incident ∈ incidents, incidentKey reader incident = .error .overflowError) ∧
        bestMatch reader requestId tier incidents = .error .overflowError) ∨
      (∀ incident ∈ incidents, (incidentKey reader incident).Returns) ∧
        ∃ best, List.FirstGreatest (keyOf reader) incidents best ∧
          bestMatch reader requestId tier incidents = .ok (matchFound requestId tier best) := by
  rcases rankIncidents_cases reader incidents with ⟨hbad, hrank⟩ | ⟨hall, hrank⟩
  · exact .inl ⟨hbad, by rw [bestMatch, hrank]; rfl⟩
  · refine .inr ⟨hall, ?_⟩
    cases hsorted : incidents.sortByKeyReverse (keyOf reader) with
    | nil =>
      have hlength := congrArg List.length hsorted
      rw [List.sortByKeyReverse, List.length_reverse, List.length_insertionSort,
        List.length_reverse] at hlength
      exact absurd (List.length_eq_zero_iff.mp hlength) hne
    | cons best rest =>
      refine ⟨best, List.head?_sortByKeyReverse (by rw [hsorted]; rfl), ?_⟩
      rw [bestMatch, hrank, hsorted]
      rfl

/-- The same records in another order give the same, when no two have the same key. -/
theorem bestMatch_perm {requestId : String} {tier : CorrelationTier}
    {incidents incidents' : List SnRecord} (h : incidents.Perm incidents')
    (hnodup : (incidents.map (keyOf reader)).Nodup) :
    bestMatch reader requestId tier incidents = bestMatch reader requestId tier incidents' := by
  by_cases hne : incidents = []
  · subst hne
    rw [List.nil_perm.mp h]
  have hne' : incidents' ≠ [] := fun h' => hne (List.perm_nil.mp (h' ▸ h))
  rcases bestMatch_cases reader requestId tier hne with
    ⟨⟨bad, hbad, hraised⟩, hfirst⟩ | ⟨hall, best, hbest, hfirst⟩
  · rcases bestMatch_cases reader requestId tier hne' with
      ⟨-, hsecond⟩ | ⟨hall', -⟩
    · rw [hfirst, hsecond]
    · obtain ⟨key, hkey⟩ := hall' bad (h.mem_iff.mp hbad)
      rw [hraised] at hkey
      cases hkey
  · rcases bestMatch_cases reader requestId tier hne' with
      ⟨⟨bad, hbad, hraised⟩, -⟩ | ⟨-, best', hbest', hsecond⟩
    · obtain ⟨key, hkey⟩ := hall bad (h.mem_iff.mpr hbad)
      rw [hraised] at hkey
      cases hkey
    · rw [hfirst, hsecond, hbest.eq_of_perm hbest' hnodup h]

/-! ## Searching -/

/-- The records of an answer. -/
def SearchAnswer.found : SearchAnswer → List SnRecord
  | .ok records => records
  | .error _ => []

/-- The error of an answer that counts as one. -/
def SearchAnswer.failure : SearchAnswer → Option String
  | .ok _ => none
  | .error error => if error = "" then none else some error

omit [Platform] in
theorem queryIncidents_fst (answer : SearchAnswer) :
    (queryIncidents answer).1 = SearchAnswer.found answer := by
  cases answer with
  | ok records => rfl
  | error error =>
    unfold queryIncidents
    split
    · next h => cases h; split <;> rfl
    · next h => cases h

omit [Platform] in
theorem queryIncidents_error (answer : SearchAnswer) :
    (queryIncidents answer).2.2 = SearchAnswer.failure answer := by
  cases answer with
  | ok records => rfl
  | error error =>
    simp only [queryIncidents, SearchAnswer.failure]
    split <;> rfl

variable (reader) in
/-- **The search** stops at the first tier with an answer, and else says what went wrong. -/
theorem searchTiers_cases (requestId : String) (answerOf : CorrelationTier → SearchAnswer)
    (tiers : List CorrelationTier) (errors : List String) :
    (∃ before tier after, tiers = before ++ tier :: after ∧
        (∀ t ∈ before, SearchAnswer.found (answerOf t) = []) ∧
        SearchAnswer.found (answerOf tier) ≠ [] ∧
        (searchTiers reader requestId answerOf tiers errors).1.map TierAttempt.tier =
          before ++ [tier] ∧
        (searchTiers reader requestId answerOf tiers errors).2 =
          bestMatch reader requestId tier (SearchAnswer.found (answerOf tier))) ∨
      (∀ t ∈ tiers, SearchAnswer.found (answerOf t) = []) ∧
        (searchTiers reader requestId answerOf tiers errors).1.map TierAttempt.tier = tiers ∧
        (searchTiers reader requestId answerOf tiers errors).2 =
          .ok (nothingFound requestId
            (errors ++ tiers.filterMap fun t => SearchAnswer.failure (answerOf t))) := by
  induction tiers generalizing errors with
  | nil => exact .inr ⟨nofun, rfl, by rw [List.filterMap_nil, List.append_nil]; rfl⟩
  | cons tier tiers ih =>
    simp only [searchTiers, queryIncidents_fst, queryIncidents_error]
    by_cases hfound : SearchAnswer.found (answerOf tier) = []
    · rw [if_neg (not_not.mpr hfound)]
      rcases ih (errors ++ (SearchAnswer.failure (answerOf tier)).toList) with
        ⟨before, tier', after, rfl, hbefore, htier', hattempts, hresult⟩ |
          ⟨hnone, hattempts, hresult⟩
      · refine .inl ⟨tier :: before, tier', after, rfl, fun t ht => ?_, htier', ?_, hresult⟩
        · rcases List.mem_cons.mp ht with rfl | ht
          · exact hfound
          · exact hbefore t ht
        · rw [List.map_cons, hattempts, List.cons_append]
      · refine .inr ⟨fun t ht => ?_, by rw [List.map_cons, hattempts], ?_⟩
        · rcases List.mem_cons.mp ht with rfl | ht
          · exact hfound
          · exact hnone t ht
        · rw [hresult, List.append_assoc]
          cases h : SearchAnswer.failure (answerOf tier) with
          | none => simp [h]
          | some error => simp [h]
    · rw [if_pos hfound]
      exact .inl ⟨[], tier, tiers, rfl, nofun, hfound, rfl, rfl⟩

/-- Answers that say the same: the same error, or the same records in some order, no two of them
with the same key. -/
def SameAnswer (reader : DatetimeReader) (answer answer' : SearchAnswer) : Prop :=
  answer = answer' ∨ ∃ records records', answer = .ok records ∧ answer' = .ok records' ∧
    records.Perm records' ∧ (records.map (keyOf reader)).Nodup

/-- A search does not depend on the order of the records in the answers. -/
theorem searchTiers_congr {requestId : String} {answerOf answerOf' : CorrelationTier → SearchAnswer}
    (h : ∀ tier, SameAnswer reader (answerOf tier) (answerOf' tier)) (tiers : List CorrelationTier)
    (errors : List String) : searchTiers reader requestId answerOf tiers errors =
      searchTiers reader requestId answerOf' tiers errors := by
  induction tiers generalizing errors with
  | nil => rfl
  | cons tier tiers ih =>
    rw [searchTiers, searchTiers]
    rcases h tier with heq | ⟨records, records', heq, heq', hperm, hnodup⟩
    · rw [heq]
      simp only [ih]
    · have hnil : records = [] ↔ records' = [] :=
        ⟨fun h => List.nil_perm.mp (h ▸ hperm), fun h => List.perm_nil.mp (h ▸ hperm)⟩
      rw [heq, heq']
      by_cases hempty : records' = []
      · simp [queryIncidents, hempty, hnil.mpr hempty, ih]
      · have hfull : records ≠ [] := fun hnone => hempty (hnil.mp hnone)
        simp [queryIncidents, hempty, hfull, bestMatch_perm hperm hnodup]

/-! ## Live correlations -/

namespace CorrelationClient

variable {client : CorrelationClient} {call : CorrelationCall}

/-- A client that sends requests, and a call it can make. -/
structure Searches (client : CorrelationClient) (call : CorrelationCall) : Prop where
  /-- it sends them -/
  live : client.mode = .live
  /-- it knows where to -/
  baseUrl : client.baseUrl.getD "" ≠ ""
  /-- nothing is missing -/
  inputs : missingRequiredValues call.caseId call.pdIncidentId call.routingKey = []
  /-- the window of the third tier begins in range -/
  window : minInstant ≤
    call.caseTimestamp.getD call.now - client.contract.tier3WindowMinutes * 60000000

/-- What ServiceNow answers to the search of a tier. -/
def answerOf (client : CorrelationClient) (call : CorrelationCall) (tier : CorrelationTier) :
    SearchAnswer :=
  call.ask tier (client.request (client.queryByTier call
    ((client.contract.buildTier3Query call.routingKey
      (call.caseTimestamp.getD call.now)).toOption.getD "") tier))

theorem correlateIncident_live (h : Searches client call) :
    client.correlateIncident reader call = searchTiers reader call.requestId
      (client.answerOf call) client.contract.correlationStrategy [] := by
  have hquery : (client.contract.buildTier3Query call.routingKey
      (call.caseTimestamp.getD call.now)).Returns := by
    rw [CorrelationContract.buildTier3Query, raiseIf, if_neg (not_lt.mpr h.window)]
    exact ⟨_, rfl⟩
  obtain ⟨query, hquery⟩ := hquery
  simp only [correlateIncident, h.inputs, h.live, correlateLive, if_neg h.baseUrl, hquery]
  unfold answerOf
  rw [hquery]
  rfl

/-- **Live correlation** asks the tiers of the strategy one after the other, up to the first one
with an answer. The result is of that tier and of its record that was created last, and of those the
one with the greatest `sys_id`. Without an answer, all tiers are asked, and the errors are said. -/
theorem correlate_live_exact (h : Searches client call)
    (hreads : ∀ tier, ∀ incident ∈ SearchAnswer.found (client.answerOf call tier),
      (incidentKey reader incident).Returns) :
    ∃ attempts result, client.correlateIncident reader call = (attempts, .ok result) ∧
      ((∃ before tier after, client.contract.correlationStrategy = before ++ tier :: after ∧
          (∀ t ∈ before, SearchAnswer.found (client.answerOf call t) = []) ∧
          attempts.map TierAttempt.tier = before ++ [tier] ∧
          ∃ best, List.FirstGreatest (keyOf reader)
              (SearchAnswer.found (client.answerOf call tier)) best ∧
            result = matchFound call.requestId tier best) ∨
        (∀ t ∈ client.contract.correlationStrategy,
            SearchAnswer.found (client.answerOf call t) = []) ∧
          attempts.map TierAttempt.tier = client.contract.correlationStrategy ∧
          result = nothingFound call.requestId (client.contract.correlationStrategy.filterMap
            fun t => SearchAnswer.failure (client.answerOf call t))) := by
  rw [correlateIncident_live h]
  rcases searchTiers_cases reader call.requestId (client.answerOf call)
      client.contract.correlationStrategy [] with
    ⟨before, tier, after, hstrategy, hbefore, hfound, hattempts, hresult⟩ |
      ⟨hnone, hattempts, hresult⟩
  · rcases bestMatch_cases reader call.requestId tier hfound
      with ⟨⟨bad, hbad, hraised⟩, -⟩ | ⟨-, best, hbest, hmatch⟩
    · obtain ⟨key, hkey⟩ := hreads tier bad hbad
      rw [hraised] at hkey
      cases hkey
    · exact ⟨_, _, Prod.ext rfl (hresult.trans hmatch), .inl ⟨before, tier, after, hstrategy,
        hbefore, hattempts, best, hbest, rfl⟩⟩
  · exact ⟨_, _, Prod.ext rfl hresult, .inr ⟨hnone, hattempts, rfl⟩⟩

/-- **Any order**: a correlation does not depend on the order in which ServiceNow lists the records
of its answers, whatever the mode is and whether it raises or not. -/
theorem correlate_live_any_order (client : CorrelationClient) (call : CorrelationCall)
    (ask' : CorrelationTier → SearchRequest → SearchAnswer)
    (h : ∀ tier request, SameAnswer reader (call.ask tier request) (ask' tier request)) :
    client.correlateIncident reader { call with ask := ask' } =
      client.correlateIncident reader call := by
  have hqueries : ∀ query, client.queryByTier { call with ask := ask' } query =
      client.queryByTier call query := by
    intro query
    funext tier
    cases tier <;> rfl
  have hsearch : ∀ query, searchTiers reader call.requestId
      (fun tier => ask' tier (client.request (client.queryByTier call query tier)))
        client.contract.correlationStrategy [] =
      searchTiers reader call.requestId
        (fun tier => call.ask tier (client.request (client.queryByTier call query tier)))
          client.contract.correlationStrategy [] :=
    fun query => (searchTiers_congr (fun tier => h tier _) _ _).symm
  unfold correlateIncident correlateLive
  simp only [hqueries, hsearch]

end CorrelationClient

end Client

/-! ## A correlation by texts -/

namespace CorrelationClient

/-- A reader of the times below. -/
def minuteReader : DatetimeReader where
  fromisoformat text :=
    if text = "2026-01-01 00:00:00" then some ⟨newYear2026, none⟩
    else if text = "2026-01-01 00:01:00" then some ⟨newYear2026 + 60000000, none⟩
    else none
  strptime _ := none

/-- A record of an incident. -/
def incidentRecord (sysId createdOn : String) : SnRecord :=
  Dict.ofPairs [("sys_id", .str sysId), ("sys_created_on", .str createdOn)]

/-- A client that sends requests. -/
def liveClient : CorrelationClient where
  mode := .live
  baseUrl := some "https://sn.example"
  contract := CorrelationContract.default

/-- A call for a case that the first tier does not find and the second finds twice, with the records
in either order. -/
def case1Correlation (records : List SnRecord) : CorrelationCall where
  requestId := "req-1"
  caseId := "case-1"
  pdIncidentId := "pd-1"
  routingKey := "routing-1"
  keywords := []
  caseTimestamp := some newYear2026
  now := newYear2026
  ask tier _ := if tier = .tier2 then .ok records else .error "timed out"

/-- The two records of the second tier. -/
def twoIncidents : List SnRecord :=
  [incidentRecord "a1" "2026-01-01 00:00:00", incidentRecord "b2" "2026-01-01 00:01:00"]

theorem twoIncidents_read :
    let := asciiPlatform []
    ∀ incident ∈ twoIncidents, (incidentKey minuteReader incident).Returns := by
  intro _ incident hincident
  rcases List.mem_cons.mp hincident with rfl | hincident
  · exact ⟨toLex (newYear2026, "a1"), by decide +kernel⟩
  · obtain rfl := List.mem_singleton.mp hincident
    exact ⟨toLex (newYear2026 + 60000000, "b2"), by decide +kernel⟩

theorem case1Correlation_searches (records : List SnRecord) :
    Searches liveClient (case1Correlation records) where
  live := rfl
  baseUrl := by decide
  inputs := by
    change missingRequiredValues "case-1" "pd-1" "routing-1" = []
    decide
  window := by
    change minInstant ≤ newYear2026 - 120 * 60000000
    decide

/-- No more than three searches are made. -/
theorem correlate_live_exact_case1 :
    let := asciiPlatform []
    ∃ attempts result, liveClient.correlateIncident minuteReader (case1Correlation twoIncidents) =
      (attempts, .ok result) ∧ attempts.length ≤ 3 := by
  intro _
  have hreads : ∀ tier, ∀ incident ∈ SearchAnswer.found
      (liveClient.answerOf (case1Correlation twoIncidents) tier),
        (incidentKey minuteReader incident).Returns := by
    intro tier incident hincident
    cases tier with
    | tier1 => cases hincident
    | tier2 => exact twoIncidents_read incident hincident
    | tier3 => cases hincident
  obtain ⟨attempts, result, hresult, hcases⟩ :=
    correlate_live_exact (case1Correlation_searches twoIncidents) hreads
  refine ⟨attempts, result, hresult, ?_⟩
  rcases hcases with ⟨before, tier, after, hstrategy, -, hattempts, -⟩ | ⟨-, hattempts, -⟩
  · have hlength := congrArg List.length hstrategy
    have hcount := congrArg List.length hattempts
    rw [List.length_append, List.length_cons] at hlength
    rw [List.length_map, List.length_append, List.length_singleton] at hcount
    have hthree : liveClient.contract.correlationStrategy.length = 3 := rfl
    omega
  · exact (List.length_map (f := TierAttempt.tier)).symm.le.trans (congrArg List.length hattempts).le

/-- Both orders of the records give the same. -/
theorem correlate_live_any_order_case1 :
    let := asciiPlatform []
    liveClient.correlateIncident minuteReader (case1Correlation twoIncidents.reverse) =
      liveClient.correlateIncident minuteReader (case1Correlation twoIncidents) := by
  intro _
  refine correlate_live_any_order liveClient (case1Correlation twoIncidents)
    (case1Correlation twoIncidents.reverse).ask fun tier request => ?_
  by_cases htier : tier = .tier2
  · refine .inr ⟨twoIncidents, twoIncidents.reverse, if_pos htier, if_pos htier,
      (List.reverse_perm _).symm, ?_⟩
    decide +kernel
  · exact .inl ((if_neg htier).trans (if_neg htier).symm)

end CorrelationClient

end AiopsTriage
