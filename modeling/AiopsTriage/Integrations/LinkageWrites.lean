import AiopsTriage.Integrations.Correlation
import AiopsTriage.Integrations.Payload
import AiopsTriage.Integrations.Upsert

/-!
# Writing the Problem and the PIR tasks of a case

One linkage attempt upserts the Problem of a case and then a task of each type, and stops at the
first upsert that fails. Nothing is rolled back: an attempt that is made again finds what the last
one wrote.

So attempts that are made one after the other converge, whatever becomes of their requests, for any
number of cases in any order: no record loses its id, no id is on two records, and what an attempt
says it has linked is what every later one links (`linkage_writes_agree`). Two things it rests on
are not checked in the code: ids without the separator of queries, and errors with a text. A lookup
whose error has none counts as one that found nothing.
-/

namespace AiopsTriage

/-! ## The world of an attempt -/

/-- What becomes of the write of an upsert. -/
inductive NetworkFate where
  /-- it did not take effect, and the client sees this error -/
  | refused (error : String)
  /-- it took effect, but the client sees this error -/
  | lost (error : String)
  /-- it took effect, and the answer has the record -/
  | answered
  deriving DecidableEq, Repr

/-- The fate of a write to a record. -/
def NetworkFate.writeFate (sysId : String) : NetworkFate → WriteFate
  | .refused error => .refused error
  | .lost error => .lost error
  | .answered => .answered (some sysId)

/-- What becomes of the requests of an upsert. -/
structure UpsertEnv where
  /-- the error of the lookup, when it fails -/
  lookupError : Option String
  /-- the fate of the write -/
  fate : NetworkFate
  deriving DecidableEq, Repr

/-- What attempts change: the tables of ServiceNow, and the records a client in `MOCK` mode made
up. -/
structure SnWorld where
  /-- the tables -/
  tables : String → SnTable
  /-- `_mock_upsert_sys_ids` -/
  mockUpsertSysIds : Dict (String × String) String

/-- The part of `ServiceNowClient` that writes. -/
structure LinkageClient where
  /-- the mode -/
  mode : IntegrationMode := .off
  /-- where ServiceNow is, without slashes at its end -/
  baseUrl : Option String := none
  /-- the contract -/
  contract : WriteContract
  /-- the denylist -/
  denylist : DenylistV1

/-- An attempt: the arguments of `upsert_problem_and_pir_tasks`, and what becomes of the requests
for each key. -/
structure LinkageWrite where
  /-- the id that is drawn for the attempt -/
  requestId : String
  /-- the case -/
  caseId : String
  /-- the incident in PagerDuty -/
  pdIncidentId : String
  /-- the incident in ServiceNow -/
  incidentSysId : Option String
  /-- the summary -/
  summary : String
  /-- the types of the PIR tasks -/
  pirTaskTypes : List String
  /-- what else is described -/
  context : List (PyScalar × PyValue)
  /-- the requests -/
  env : UpsertKey → UpsertEnv

/-- What an upsert returns. In modes that do not write it is skipped. -/
inductive UpsertReport where
  /-- nothing was written -/
  | skipped (externalId reason : String)
  /-- the result -/
  | done (result : ServiceNowUpsertResult)
  deriving DecidableEq, Repr

namespace UpsertReport

/-- `external_id`. -/
def externalId : UpsertReport → String
  | skipped externalId _ => externalId
  | done result => result.externalId

end UpsertReport

/-- `str(exc)`. -/
def exceptionText : PyException → String
  | .attributeError message => message
  | .typeError message => message
  | .valueError message => message
  | .overflowError message => message

/-- The record that the answer to a write has. -/
def SysIdSource.written (server : SysIdSource) (existing : Except String (Option SysId))
    (table : SnTable) : String :=
  match existing with
  | .ok (some sysId) => sysId.val
  | _ => (server.next table).val

section Writes

variable [Platform] (dumps : PyValue → Except PyException String) (server : SysIdSource)

/-- The requests of `_upsert_record`. -/
def upsertLive (contract : UpsertContract) (key : UpsertKey) (requestId : String)
    (env : UpsertEnv) (table : SnTable) : ServiceNowUpsertResult × SnTable :=
  let lookup : UpsertCall := ⟨requestId, env.lookupError, .refused ""⟩
  let existing := (upsertGet contract key.externalId lookup table).bind extractExistingSysId
  let call := { lookup with fate := env.fate.writeFate (server.written existing table) }
  (upsertAnswer contract key call existing,
    upsertTable server key.externalId call.fate existing table)

/-- The `sys_id` that a client in `MOCK` mode makes up. -/
def mockSysId (table externalId : String) : String :=
  "mock-" ++ String.ofList ((sha256Hex (.utf8 (PyText.join "|" [table, externalId]))).val.toList.take 12)

namespace LinkageClient

variable (client : LinkageClient)

/-- `_upsert_record`. -/
def upsertRecord (key : UpsertKey) (requestId : String) (env : UpsertEnv) (world : SnWorld) :
    Except PyException UpsertReport × SnWorld :=
  let contract := client.contract.toUpsertContract
  let table := key.table contract
  match assertWriteScope client.contract table with
  | .error e => (.error e, world)
  | .ok _ =>
    match client.mode with
    | .off => (.ok (.skipped key.externalId "mode_off"), world)
    | .log => (.ok (.skipped key.externalId "mode_log_noop"), world)
    | .mock =>
      let result (outcome : UpsertOutcome) (sysId : String) : ServiceNowUpsertResult :=
        ⟨table, key.externalId, outcome, "mock_upsert", requestId, some sysId, Dict.empty⟩
      match world.mockUpsertSysIds.get? (table, key.externalId) with
      | some existing => (.ok (.done (result .updated existing)), world)
      | none =>
        let sysId := mockSysId table key.externalId
        (.ok (.done (result .created sysId)),
          { world with
            mockUpsertSysIds := world.mockUpsertSysIds.set (table, key.externalId) sysId })
    | .live =>
      if client.baseUrl.getD "" = "" then
        (.ok (.done ⟨table, key.externalId, .failed, "missing_base_url", requestId, none,
          Dict.empty⟩), world)
      else
        let (result, written) := upsertLive server contract key requestId env (world.tables table)
        (.ok (.done result), { world with tables := Function.update world.tables table written })

/-- An upsert that is refused for its arguments. -/
def invalidInput (key : UpsertKey) (requestId : String) (missing : List String) :
    ServiceNowUpsertResult where
  table := key.table client.contract.toUpsertContract
  externalId := ""
  outcome := .failed
  reason := "invalid_input"
  requestId := requestId
  sysId := none
  reasonMetadata := Dict.ofPairs [("missing_fields", .arr (missing.map .str))]

/-- What `upsert_problem` and `upsert_pir_task` have in common: the checks of the arguments, the
body, and the upsert. -/
def upsertKeyed (write : LinkageWrite) (key : UpsertKey) (parentSysId : String)
    (missing : List String) (world : SnWorld) : Except PyException UpsertReport × SnWorld :=
  if missing ≠ [] then (.ok (.done (client.invalidInput key write.requestId missing)), world)
  else
    match key.payload dumps client.contract client.denylist parentSysId write.summary
      write.context with
    | .error e => (.error e, world)
    | .ok _ => client.upsertRecord server key write.requestId (write.env key) world

/-- `upsert_problem`. A blank incident is called a missing routing key. -/
def upsertProblem (write : LinkageWrite) (incidentSysId : String) (world : SnWorld) :
    Except PyException UpsertReport × SnWorld :=
  client.upsertKeyed dumps server write (.problem write.caseId write.pdIncidentId) incidentSysId
    (missingRequiredValues write.caseId write.pdIncidentId incidentSysId) world

/-- `upsert_pir_task`. So is a blank type. -/
def upsertPirTask (write : LinkageWrite) (problemSysId taskType : String) (world : SnWorld) :
    Except PyException UpsertReport × SnWorld :=
  client.upsertKeyed dumps server write (.pirTask write.caseId write.pdIncidentId taskType)
    problemSysId
    (if PyText.isBlank problemSysId then ["problem_sys_id"]
      else missingRequiredValues write.caseId write.pdIncidentId taskType) world

/-! ## One attempt -/

/-- The metadata of an attempt that an upsert failed. -/
def upsertMetadata (name : String) (result : ServiceNowUpsertResult) : Dict String Json :=
  Dict.ofPairs ((name, .str result.reason) :: result.reasonMetadata.entries)

/-- The result of an attempt that raised. -/
def raised (write : LinkageWrite) (e : PyException) : ServiceNowLinkageWriteResult where
  linkageStatus := .failed
  linkageReason := "upsert_error"
  requestId := write.requestId
  incidentSysId := write.incidentSysId
  reasonMetadata := buildErrorMetadata (exceptionText e)

/-- The loop over the types of the tasks, with the tasks so far. -/
def upsertPirTasks (write : LinkageWrite) (problemSysId problemExternalId : String) :
    List String → List String → List String → SnWorld → ServiceNowLinkageWriteResult × SnWorld
  | [], sysIds, externalIds, world =>
    ({ linkageStatus := .linked
       linkageReason := "linked"
       requestId := write.requestId
       incidentSysId := write.incidentSysId
       problemSysId := some problemSysId
       problemExternalId := some problemExternalId
       pirTaskSysIds := sysIds
       pirTaskExternalIds := externalIds }, world)
  | taskType :: taskTypes, sysIds, externalIds, world =>
    match client.upsertPirTask dumps server write problemSysId taskType world with
    | (.error e, world) => (raised write e, world)
    | (.ok (.skipped externalId reason), world) =>
      ({ linkageStatus := .skipped
         linkageReason := reason
         requestId := write.requestId
         incidentSysId := write.incidentSysId
         problemSysId := some problemSysId
         problemExternalId := some problemExternalId
         pirTaskExternalIds := externalIds ++ [externalId] }, world)
    | (.ok (.done result), world) =>
      if result.outcome = .failed then
        ({ linkageStatus := .failed
           linkageReason := "upsert_error"
           requestId := write.requestId
           incidentSysId := write.incidentSysId
           problemSysId := some problemSysId
           problemExternalId := some problemExternalId
           pirTaskSysIds := sysIds
           pirTaskExternalIds := externalIds ++ [result.externalId]
           reasonMetadata := upsertMetadata "pir_task_reason" result }, world)
      else
        upsertPirTasks write problemSysId problemExternalId taskTypes
          (sysIds ++ result.sysId.toList) (externalIds ++ [result.externalId]) world

/-- `upsert_problem_and_pir_tasks`. -/
def upsertProblemAndPirTasks (write : LinkageWrite) (world : SnWorld) :
    ServiceNowLinkageWriteResult × SnWorld :=
  match write.incidentSysId.filter fun sysId => !PyText.isBlank sysId with
  | none =>
    ({ linkageStatus := .notLinked
       linkageReason := "missing_incident_sys_id"
       requestId := write.requestId
       incidentSysId := write.incidentSysId }, world)
  | some incidentSysId =>
    let taskTypes := dedupePreserveOrder write.pirTaskTypes
    if taskTypes = [] then
      ({ linkageStatus := .failed
         linkageReason := "invalid_input"
         requestId := write.requestId
         incidentSysId := write.incidentSysId
         reasonMetadata := Dict.ofPairs [("missing_fields", .arr [.str "pir_task_types"])] }, world)
    else
      let failed (externalId : String) (metadata : Dict String Json) :
          ServiceNowLinkageWriteResult := {
        linkageStatus := .failed
        linkageReason := "upsert_error"
        requestId := write.requestId
        incidentSysId := write.incidentSysId
        problemExternalId := some externalId
        reasonMetadata := metadata }
      match client.upsertProblem dumps server write incidentSysId world with
      | (.error e, world) => (raised write e, world)
      | (.ok (.skipped externalId reason), world) =>
        ({ linkageStatus := .skipped
           linkageReason := reason
           requestId := write.requestId
           incidentSysId := write.incidentSysId
           problemExternalId := some externalId }, world)
      | (.ok (.done problem), world) =>
        if problem.outcome = .failed then
          (failed problem.externalId (upsertMetadata "problem_reason" problem), world)
        else
          match problem.sysId with
          | none => (failed problem.externalId
              (Dict.ofPairs [("problem_reason", .str "missing_problem_sys_id")]), world)
          | some problemSysId =>
            client.upsertPirTasks dumps server write problemSysId problem.externalId taskTypes
              [] [] world

/-- What attempts return that are made one after the other, and the world after them. -/
def attempts (world : SnWorld) (writes : List LinkageWrite) :
    List ServiceNowLinkageWriteResult × SnWorld :=
  Runs.trace (fun world write => client.upsertProblemAndPirTasks dumps server write world) world
    writes

end LinkageClient

/-! ## One upsert -/

/-- At most one record has the id. -/
def OneRecord (id : String) (table : SnTable) : Prop :=
  ∀ k k', table.get? k = some id → table.get? k' = some id → k = k'

/-- What a write may do to the table of its id. -/
structure IdStep (id : String) (table table' : SnTable) : Prop where
  /-- every record keeps its id -/
  kept : ∀ k v, table.get? k = some v → table'.get? k = some v
  /-- a new one has this id -/
  added : ∀ k v, table'.get? k = some v → table.get? k = some v ∨ v = id
  /-- and is the only one that has -/
  one : OneRecord id table'

omit [Platform] in
theorem idStep_refl {id : String} {table : SnTable} (h : OneRecord id table) :
    IdStep id table table := ⟨fun _ _ hk => hk, fun _ _ hk => .inl hk, h⟩

omit [Platform] in
/-- The records that carry an id which at most one record has. -/
theorem OneRecord.carriers_cases {id : String} {table : SnTable} (h : OneRecord id table) :
    (carriers id table = [] ∧ ∀ k, table.get? k ≠ some id) ∨
      ∃ k, carriers id table = [k] ∧ table.get? k = some id := by
  cases hcarriers : carriers id table with
  | nil =>
    refine .inl ⟨rfl, fun k hk => ?_⟩
    have hmem := Dict.mem_keysOf.mpr hk
    rw [carriers] at hcarriers
    rw [hcarriers] at hmem
    cases hmem
  | cons k ks =>
    have hget : ∀ k' ∈ carriers id table, table.get? k' = some id := fun k' hk' =>
      Dict.mem_keysOf.mp hk'
    rw [hcarriers] at hget
    have hk := hget k List.mem_cons_self
    cases ks with
    | nil => exact .inr ⟨k, rfl, hk⟩
    | cons k' ks =>
      -- the same record would be there twice
      have hk' := hget k' (List.mem_cons_of_mem k List.mem_cons_self)
      have hnodup : (carriers id table).Nodup :=
        (List.filter_sublist.map Prod.fst).nodup table.nodup
      rw [hcarriers, h k k' hk hk'] at hnodup
      exact absurd List.mem_cons_self (List.nodup_cons.mp hnodup).1

variable {server} {contract : UpsertContract} {key : UpsertKey} {env : UpsertEnv}

/-- An id that lookups find as it was posted, and errors that count as such. -/
structure Converges (key : UpsertKey) (env : UpsertEnv) : Prop where
  /-- the separator is not in the id -/
  plain : '^' ∉ key.externalId.toList
  /-- a lookup that fails has a text -/
  worded : env.lookupError ≠ some ""

variable (contract) in
/-- What an upsert finds: an error, nothing, or the record. -/
theorem existing_cases (h : Converges key env) (requestId : String) {table : SnTable}
    (hone : OneRecord key.externalId table) :
    let existing := (upsertGet contract key.externalId ⟨requestId, env.lookupError, .refused ""⟩
      table).bind extractExistingSysId
    (∃ e, existing = .error e) ∨
      (existing = .ok none ∧ ∀ k, table.get? k ≠ some key.externalId) ∨
      ∃ k, existing = .ok (some k) ∧ table.get? k = some key.externalId := by
  intro existing
  simp only [existing, upsertGet]
  cases herror : env.lookupError with
  | some error =>
    have hne : error ≠ "" := fun heq => h.worded (herror.trans (congrArg some heq))
    simp only [if_neg hne]
    exact .inl ⟨error, rfl⟩
  | none =>
    simp only [upsertLookup_plain h.plain]
    obtain ⟨n, hn⟩ := Nat.exists_eq_add_of_le contract.lookup_ok.1
    rcases hone.carriers_cases with ⟨hnil, hnone⟩ | ⟨k, hk, hget⟩
    · rw [hnil, List.take_nil]
      exact .inr (.inl ⟨rfl, hnone⟩)
    · rw [hk, hn, Nat.add_comm, List.take_succ_cons, List.take_nil]
      exact .inr (.inr ⟨k, rfl, hget⟩)

omit [Platform] in
/-- A new record with the id, where no record has it. -/
theorem idStep_post {id : String} {table : SnTable} (hnone : ∀ k, table.get? k ≠ some id) :
    IdStep id table (table.set (server.next table) id) := by
  have hfresh := server.fresh table
  refine ⟨fun k v hk => ?_, fun k v hk => ?_, fun k k' hk hk' => ?_⟩
  · rw [Dict.get?_set, if_neg, hk]
    rintro rfl
    rw [hfresh] at hk
    cases hk
  · rw [Dict.get?_set] at hk
    split at hk
    · exact .inr (Option.some.inj hk).symm
    · exact .inl hk
  · rw [Dict.get?_set] at hk hk'
    split at hk
    · next heq =>
      split at hk'
      · next heq' => exact heq.symm.trans heq'
      · exact absurd hk' (hnone k')
    · exact absurd hk (hnone k)

variable (server contract) in
/-- **One upsert** keeps all records, gives its id to one at most, and says which one has it unless
it fails. -/
theorem upsertLive_spec (h : Converges key env) (requestId : String) {table : SnTable}
    (hone : OneRecord key.externalId table) :
    IdStep key.externalId table (upsertLive server contract key requestId env table).2 ∧
      ((upsertLive server contract key requestId env table).1.outcome ≠ .failed →
        ∃ sysId : SysId,
          (upsertLive server contract key requestId env table).1.sysId = some sysId.val ∧
          (upsertLive server contract key requestId env table).2.get? sysId =
            some key.externalId) := by
  simp only [upsertLive]
  have hcases := existing_cases contract h requestId hone
  generalize (upsertGet contract key.externalId ⟨requestId, env.lookupError, .refused ""⟩
    table).bind extractExistingSysId = existing at hcases
  rcases hcases with ⟨e, rfl⟩ | ⟨rfl, hnone⟩ | ⟨k, rfl, hk⟩
  · exact ⟨idStep_refl hone, fun hfailed => absurd rfl hfailed⟩
  · -- nothing was found: a record is created, or nothing happens
    have hpost := @idStep_post server _ _ hnone
    cases hfate : env.fate with
    | refused error =>
      refine ⟨idStep_refl hone, fun hwrote => absurd ?_ hwrote⟩
      by_cases hempty : error = ""
      · simp [upsertAnswer, NetworkFate.writeFate, WriteFate.error, WriteFate.sysId, hempty,
          failedUpsert]
      · simp [upsertAnswer, NetworkFate.writeFate, WriteFate.error, hempty, failedUpsert]
    | lost error =>
      refine ⟨hpost, fun hwrote => absurd ?_ hwrote⟩
      by_cases hempty : error = ""
      · simp [upsertAnswer, NetworkFate.writeFate, WriteFate.error, WriteFate.sysId, hempty,
          failedUpsert]
      · simp [upsertAnswer, NetworkFate.writeFate, WriteFate.error, hempty, failedUpsert]
    | answered =>
      refine ⟨hpost, fun _ => ⟨server.next table, rfl, ?_⟩⟩
      simp [upsertTable, NetworkFate.writeFate, WriteFate.apply, WriteFate.tookEffect, Dict.get?_set]
  · -- the record was found, and written again with the same id
    have hsame : upsertTable server key.externalId
        (env.fate.writeFate (server.written (.ok (some k)) table)) (.ok (some k)) table = table := by
      simp only [upsertTable, hk, Option.isSome_some, Dict.set_eq_self hk, WriteFate.apply, ite_self]
    rw [hsame]
    refine ⟨idStep_refl hone, fun hwrote => ⟨k, ?_, hk⟩⟩
    by_cases herror : (env.fate.writeFate (server.written (.ok (some k)) table)).error = ""
    · have hsysId : ((env.fate.writeFate (server.written (.ok (some k)) table)).sysId.filter
          (· ≠ "")).getD k.val = k.val := by
        cases env.fate with
        | refused error => rfl
        | lost error => rfl
        | answered =>
          have hne : k.val ≠ "" := k.property
          simp [NetworkFate.writeFate, WriteFate.sysId, SysIdSource.written, Option.filter, hne]
      simp only [upsertAnswer, if_neg (not_not.mpr herror), writtenUpsert, hsysId]
    · rw [upsertAnswer, if_pos herror] at hwrote
      exact absurd rfl hwrote

/-! ## Worlds -/

/-- Every record keeps its id. -/
def KeepsIds (world world' : SnWorld) : Prop :=
  ∀ table k v, (world.tables table).get? k = some v → (world'.tables table).get? k = some v

/-- No id without the separator is on two records. -/
def KeepsOne (contract : UpsertContract) (world : SnWorld) : Prop :=
  ∀ key : UpsertKey, '^' ∉ key.externalId.toList →
    OneRecord key.externalId (world.tables (key.table contract))

/-- The record has the id of a key. -/
def Names (contract : UpsertContract) (world : SnWorld) (key : UpsertKey) (sysId : SysId) : Prop :=
  (world.tables (key.table contract)).get? sysId = some key.externalId

omit [Platform] in
theorem KeepsIds.refl (world : SnWorld) : KeepsIds world world := fun _ _ _ h => h

omit [Platform] in
theorem KeepsIds.trans {world world' world'' : SnWorld} (h : KeepsIds world world')
    (h' : KeepsIds world' world'') : KeepsIds world world'' :=
  fun table k v hk => h' table k v (h table k v hk)

theorem Names.mono {world world' : SnWorld} {sysId : SysId} (h : Names contract world key sysId)
    (hfollows : KeepsIds world world') : Names contract world' key sysId := hfollows _ _ _ h

omit [Platform] in
/-- A write to the table of a key. -/
theorem keepsIds_update {world : SnWorld} {table : String} {written : SnTable} {id : String}
    (h : IdStep id (world.tables table) written) :
    KeepsIds world { world with tables := Function.update world.tables table written } := by
  intro name k v hk
  simp only [Function.update_apply]
  split
  · next heq =>
    subst heq
    exact h.kept k v hk
  · exact hk

theorem keepsOne_update {world : SnWorld} {written : SnTable} (hone : KeepsOne contract world)
    (h : IdStep key.externalId (world.tables (key.table contract)) written) :
    KeepsOne contract
      { world with tables := Function.update world.tables (key.table contract) written } := by
  intro other hplain k k' hk hk'
  simp only [Function.update_apply] at hk hk'
  split at hk
  · next heq =>
    rw [if_pos heq] at hk'
    have hbefore := hone other hplain
    rw [heq] at hbefore
    -- both records were there, or the id is the one that was written
    rcases h.added k _ hk with hold | hid
    · rcases h.added k' _ hk' with hold' | hid
      · exact hbefore k k' hold hold'
      · rw [hid] at hk hk'
        exact h.one k k' hk hk'
    · rw [hid] at hk hk'
      exact h.one k k' hk hk'
  · next hne =>
    rw [if_neg hne] at hk'
    exact hone other hplain k k' hk hk'

namespace LinkageClient

variable {client : LinkageClient} {dumps : PyValue → Except PyException String}
  {write : LinkageWrite} {world : SnWorld}

/-- An upsert in a world: records stay, ids stay on one record, and unless it fails it says which
record has its id. -/
structure Upserted (contract : UpsertContract) (key : UpsertKey) (world : SnWorld)
    (report : Except PyException UpsertReport × SnWorld) : Prop where
  /-- records stay -/
  follows : KeepsIds world report.2
  /-- ids stay on one record -/
  one : KeepsOne contract report.2
  /-- the record is named -/
  names : ∀ result, report.1 = .ok (.done result) → result.outcome ≠ .failed →
    ∃ sysId : SysId, result.sysId = some sysId.val ∧ Names contract report.2 key sysId

variable (dumps server) in
/-- **An upsert of an attempt**, in the mode that sends requests. -/
theorem upserted_keyed (hlive : client.mode = .live)
    (hworld : KeepsOne client.contract.toUpsertContract world)
    (hconverges : Converges key (write.env key)) (parentSysId : String) (missing : List String) :
    Upserted client.contract.toUpsertContract key world
      (client.upsertKeyed dumps server write key parentSysId missing world) := by
  -- a world that is left alone
  have hsame : ∀ answer : Except PyException UpsertReport,
      (∀ result, answer = .ok (.done result) → result.outcome = .failed) →
      Upserted client.contract.toUpsertContract key world (answer, world) := fun answer hanswer =>
    ⟨.refl world, hworld, fun result hresult hwrote => absurd (hanswer result hresult) hwrote⟩
  unfold upsertKeyed
  split
  · refine hsame _ fun result hresult => ?_
    cases hresult
    rfl
  · split
    · exact hsame _ fun result hresult => by cases hresult
    · simp only [upsertRecord, hlive]
      split
      · exact hsame _ fun result hresult => by cases hresult
      · split
        · refine hsame _ fun result hresult => ?_
          cases hresult
          rfl
        · obtain ⟨hstep, hnames⟩ := upsertLive_spec server
            client.contract.toUpsertContract hconverges write.requestId
            (hworld key hconverges.plain)
          refine ⟨keepsIds_update hstep, keepsOne_update hworld hstep, fun result hresult hwrote => ?_⟩
          cases hresult
          obtain ⟨sysId, hsysId, hget⟩ := hnames hwrote
          refine ⟨sysId, hsysId, ?_⟩
          simp only [Names, Function.update_self]
          exact hget

/-! ## Attempts -/

/-- What an attempt links, in a world: the records it says have its ids. -/
structure Links (contract : UpsertContract) (world : SnWorld) (write : LinkageWrite)
    (result : ServiceNowLinkageWriteResult) : Prop where
  /-- the Problem -/
  problem : ∃ sysId : SysId, result.problemSysId = some sysId.val ∧
    Names contract world (.problem write.caseId write.pdIncidentId) sysId
  /-- a task of each type -/
  tasks : ∃ sysIds : List SysId, result.pirTaskSysIds = sysIds.map Subtype.val ∧
    List.Forall₂ (fun taskType sysId =>
      Names contract world (.pirTask write.caseId write.pdIncidentId taskType) sysId)
      (dedupePreserveOrder write.pirTaskTypes) sysIds

theorem Links.mono {world world' : SnWorld} {result : ServiceNowLinkageWriteResult}
    (h : Links contract world write result) (hfollows : KeepsIds world world') :
    Links contract world' write result := by
  obtain ⟨⟨sysId, hsysId, hnames⟩, sysIds, hsysIds, htasks⟩ := h
  exact ⟨⟨sysId, hsysId, hnames.mono hfollows⟩, sysIds, hsysIds,
    htasks.imp fun _ _ h => h.mono hfollows⟩

/-- The requests of an attempt converge. -/
structure Steady (write : LinkageWrite) : Prop where
  /-- those for the Problem -/
  problem : Converges (.problem write.caseId write.pdIncidentId)
    (write.env (.problem write.caseId write.pdIncidentId))
  /-- those for the tasks -/
  tasks : ∀ taskType ∈ dedupePreserveOrder write.pirTaskTypes,
    Converges (.pirTask write.caseId write.pdIncidentId taskType)
      (write.env (.pirTask write.caseId write.pdIncidentId taskType))

/-- What an attempt does to a world. -/
structure Attempted (contract : UpsertContract) (world : SnWorld)
    (linked : ServiceNowLinkageWriteResult → SnWorld → Prop)
    (attempt : ServiceNowLinkageWriteResult × SnWorld) : Prop where
  /-- records stay -/
  follows : KeepsIds world attempt.2
  /-- ids stay on one record -/
  one : KeepsOne contract attempt.2
  /-- what it says it linked -/
  links : attempt.1.linkageStatus = .linked → linked attempt.1 attempt.2

variable (dumps server) in
/-- **The loop over the tasks.** -/
theorem attempted_tasks (hlive : client.mode = .live) (problemSysId problemExternalId : String)
    {taskTypes : List String}
    (hsteady : ∀ taskType ∈ taskTypes,
      Converges (.pirTask write.caseId write.pdIncidentId taskType)
        (write.env (.pirTask write.caseId write.pdIncidentId taskType)))
    (sysIds externalIds : List String)
    (hworld : KeepsOne client.contract.toUpsertContract world) :
    Attempted client.contract.toUpsertContract world
      (fun result world' => result.problemSysId = some problemSysId ∧
        ∃ tasks : List SysId, result.pirTaskSysIds = sysIds ++ tasks.map Subtype.val ∧
          List.Forall₂ (fun taskType sysId => Names client.contract.toUpsertContract world'
            (.pirTask write.caseId write.pdIncidentId taskType) sysId) taskTypes tasks)
      (client.upsertPirTasks dumps server write problemSysId problemExternalId taskTypes sysIds
        externalIds world) := by
  induction taskTypes generalizing sysIds externalIds world with
  | nil =>
    refine ⟨.refl world, hworld, fun _ => ⟨rfl, [], ?_, .nil⟩⟩
    rw [List.map_nil, List.append_nil]
    rfl
  | cons taskType taskTypes ih =>
    have hone := upserted_keyed server dumps hlive hworld
      (hsteady taskType List.mem_cons_self) problemSysId
      (if PyText.isBlank problemSysId then ["problem_sys_id"]
        else missingRequiredValues write.caseId write.pdIncidentId taskType)
    rw [upsertPirTasks, upsertPirTask]
    generalize client.upsertKeyed dumps server write
      (.pirTask write.caseId write.pdIncidentId taskType) problemSysId
      (if PyText.isBlank problemSysId then ["problem_sys_id"]
        else missingRequiredValues write.caseId write.pdIncidentId taskType) world = report at hone
    obtain ⟨answer, world'⟩ := report
    obtain ⟨hfollows, hkeeps, hnames⟩ := hone
    cases answer with
    | error e => exact ⟨hfollows, hkeeps, nofun⟩
    | ok report =>
      cases report with
      | skipped externalId reason => exact ⟨hfollows, hkeeps, nofun⟩
      | done result =>
        simp only
        split
        · exact ⟨hfollows, hkeeps, nofun⟩
        · next hwrote =>
          obtain ⟨sysId, hsysId, hname⟩ := hnames result rfl hwrote
          obtain ⟨hfollows', hkeeps', hlinks⟩ := ih
            (fun t ht => hsteady t (List.mem_cons_of_mem taskType ht))
            (sysIds ++ result.sysId.toList) (externalIds ++ [result.externalId]) hkeeps
          refine ⟨hfollows.trans hfollows', hkeeps', fun hlinked => ?_⟩
          obtain ⟨hproblem, tasks, htasks, hall⟩ := hlinks hlinked
          refine ⟨hproblem, sysId :: tasks, ?_, .cons (hname.mono hfollows') hall⟩
          rw [htasks, hsysId, Option.toList_some, List.append_assoc, List.map_cons,
            List.singleton_append]

variable (dumps server) in
/-- **One attempt** keeps all records and links what it says. -/
theorem attempted_write (hlive : client.mode = .live) (hsteady : Steady write)
    (hworld : KeepsOne client.contract.toUpsertContract world) :
    Attempted client.contract.toUpsertContract world
      (fun result world' => Links client.contract.toUpsertContract world' write result)
      (client.upsertProblemAndPirTasks dumps server write world) := by
  unfold upsertProblemAndPirTasks
  split
  · exact ⟨.refl world, hworld, nofun⟩
  · next incidentSysId _ =>
    simp only
    split
    · exact ⟨.refl world, hworld, nofun⟩
    · have hone := upserted_keyed server dumps hlive hworld hsteady.problem
        incidentSysId (missingRequiredValues write.caseId write.pdIncidentId incidentSysId)
      rw [upsertProblem]
      generalize client.upsertKeyed dumps server write
        (.problem write.caseId write.pdIncidentId) incidentSysId
        (missingRequiredValues write.caseId write.pdIncidentId incidentSysId) world = report at hone
      obtain ⟨answer, world'⟩ := report
      obtain ⟨hfollows, hkeeps, hnames⟩ := hone
      cases answer with
      | error e => exact ⟨hfollows, hkeeps, nofun⟩
      | ok report =>
        cases report with
        | skipped externalId reason => exact ⟨hfollows, hkeeps, nofun⟩
        | done problem =>
          simp only
          split
          · exact ⟨hfollows, hkeeps, nofun⟩
          · next hwrote =>
            obtain ⟨sysId, hsysId, hname⟩ := hnames problem rfl hwrote
            rw [hsysId]
            obtain ⟨hfollows', hkeeps', hlinks⟩ := attempted_tasks server dumps hlive
              sysId.val problem.externalId hsteady.tasks [] [] hkeeps
            refine ⟨hfollows.trans hfollows', hkeeps', fun hlinked => ?_⟩
            obtain ⟨hproblem, tasks, htasks, hall⟩ := hlinks hlinked
            exact ⟨⟨sysId, hproblem, hname.mono hfollows'⟩, tasks, htasks, hall⟩

variable (dumps server) in
/-- **Run lemma**: after any attempts, all records are there, and what each attempt says it linked
is still so. -/
theorem attempted_run (hlive : client.mode = .live) {writes : List LinkageWrite}
    (hsteady : ∀ write ∈ writes, Steady write)
    (hworld : KeepsOne client.contract.toUpsertContract world) :
    KeepsIds world (client.attempts dumps server world writes).2 ∧
      KeepsOne client.contract.toUpsertContract (client.attempts dumps server world writes).2 ∧
      List.Forall₂ (fun write result => result.linkageStatus = .linked →
        Links client.contract.toUpsertContract (client.attempts dumps server world writes).2 write
          result) writes (client.attempts dumps server world writes).1 := by
  induction writes generalizing world with
  | nil => exact ⟨.refl world, hworld, .nil⟩
  | cons write writes ih =>
    obtain ⟨hfollows, hkeeps, hlinks⟩ := attempted_write server dumps hlive
      (hsteady write List.mem_cons_self) hworld
    obtain ⟨hfollows', hkeeps', hall⟩ :=
      ih (fun w hw => hsteady w (List.mem_cons_of_mem write hw)) hkeeps
    exact ⟨hfollows.trans hfollows', hkeeps',
      .cons (fun hlinked => (hlinks hlinked).mono hfollows') hall⟩

variable (client dumps server world) in
/-- **Linkage writes**: attempts that are made one after the other, for any cases in any order and
whatever becomes of their requests, never take an id off a record and never put one on two. What an
attempt says it has linked is the Problem and a task of each type, still at the end; and all
attempts that link the same case name the same Problem. -/
theorem linkage_writes_agree (hlive : client.mode = .live) {writes : List LinkageWrite}
    (hsteady : ∀ write ∈ writes, Steady write)
    (hworld : KeepsOne client.contract.toUpsertContract world) :
    let contract := client.contract.toUpsertContract
    let run := client.attempts dumps server world writes
    KeepsIds world run.2 ∧ KeepsOne contract run.2 ∧
      List.Forall₂ (fun write result => result.linkageStatus = .linked →
        Links contract run.2 write result) writes run.1 ∧
      ∀ write result write' result', (write, result) ∈ writes.zip run.1 →
        (write', result') ∈ writes.zip run.1 →
        result.linkageStatus = .linked → result'.linkageStatus = .linked →
        write.caseId = write'.caseId → write.pdIncidentId = write'.pdIncidentId →
        result.problemSysId = result'.problemSysId := by
  intro contract run
  obtain ⟨hfollows, hkeeps, hall⟩ :=
    attempted_run server dumps hlive hsteady hworld
  refine ⟨hfollows, hkeeps, hall, ?_⟩
  intro write result write' result' hmem hmem' hlinked hlinked' hcase hpd
  obtain ⟨-, hlinks⟩ := List.forall₂_iff_zip.mp hall
  obtain ⟨⟨sysId, hsysId, hname⟩, -⟩ := hlinks hmem hlinked
  obtain ⟨⟨sysId', hsysId', hname'⟩, -⟩ := hlinks hmem' hlinked'
  rw [← hcase, ← hpd] at hname'
  -- both have the id, and only one record does
  have hplain := (hsteady write (List.of_mem_zip hmem).1).problem.plain
  rw [hsysId, hsysId', hkeeps _ hplain sysId sysId' hname hname']

end LinkageClient

end Writes

/-! ## An attempt that is made again -/

namespace LinkageClient

/-- A client that sends requests. -/
def case1Client : LinkageClient where
  mode := .live
  baseUrl := some "https://sn.example"
  contract := contractCase1
  denylist := denylistExternalId

/-- An attempt for `case-1`, with one fate for all its writes. -/
def case1Write (fate : NetworkFate) : LinkageWrite where
  requestId := "req-1"
  caseId := "case-1"
  pdIncidentId := "pd-1"
  incidentSysId := some "inc-1"
  summary := "consumer lag"
  pirTaskTypes := ["pir"]
  context := []
  env _ := ⟨none, fate⟩

/-- The world before. -/
def emptyWorld : SnWorld := ⟨fun _ => Dict.empty, Dict.empty⟩

theorem steady_case1Write (fate : NetworkFate) :
    let := platformCase1
    Steady (case1Write fate) := by
  intro _
  have hproblem : '^' ∉ (UpsertKey.problem "case-1" "pd-1").externalId.toList := by decide +kernel
  have htask : '^' ∉ (UpsertKey.pirTask "case-1" "pd-1" "pir").externalId.toList := by
    decide +kernel
  refine ⟨⟨hproblem, nofun⟩, fun taskType htype => ⟨?_, nofun⟩⟩
  obtain rfl : taskType = "pir" := List.mem_singleton.mp htype
  exact htask

/-- The answer to the first attempt is lost, and the second one finds its Problem. -/
theorem linkage_writes_agree_retry :
    let := platformCase1
    KeepsOne contractCase1.toUpsertContract (case1Client.attempts dumpsCase1 longerSysIds emptyWorld
      [case1Write (.lost "timed out"), case1Write .answered]).2 := by
  intro _
  have hsteady : ∀ write ∈ [case1Write (.lost "timed out"), case1Write .answered], Steady write := by
    intro write hwrite
    rcases List.mem_cons.mp hwrite with rfl | hwrite
    · exact steady_case1Write _
    · obtain rfl := List.mem_singleton.mp hwrite
      exact steady_case1Write _
  have hstart : KeepsOne case1Client.contract.toUpsertContract emptyWorld :=
    fun key _ k k' hk _ => by cases hk
  have hrun := linkage_writes_agree longerSysIds case1Client dumpsCase1 emptyWorld rfl hsteady hstart
  exact hrun.2.1

end LinkageClient

end AiopsTriage
