import AiopsTriage.Lib.Paging
import AiopsTriage.Retention.Cutoff
import AiopsTriage.Retention.Keys
import Mathlib.Data.List.Sort
import Mathlib.Data.Set.Card
import Mathlib.Data.String.Basic

/-!
# The lifecycle run

A run lists all objects under `cases/`, groups the keys it recognises by case, and hands the
keys of every case whose creation lies at or before the cutoff to the object store client, in
batches. The creation of a case is the time of its triage object, or else of its oldest one.

What a run should submit is said of the store alone (`Due`), whatever pages list it. The keys the
run collects are exactly these (`mem_orderedKeys_scan`). The client strips a key before it
submits it, so what is submitted are exactly these too, unless one of them ends with a line feed,
which the pattern lets through (`lifecycle_run_exact_iff`).
-/

namespace AiopsTriage

open Paging

/-! ## The object store client -/

/-- `ObjectSummary`, whose time is aware. -/
structure ObjectSummary where
  /-- the key -/
  key : String
  /-- when the object was stored -/
  lastModified : Instant
  deriving DecidableEq, Repr

/-- `ObjectStoreListPage`. -/
abbrev ObjectStoreListPage := Page String ObjectSummary

/-- `DeleteObjectsResult`. -/
structure DeleteObjectsResult where
  /-- keys that are gone -/
  deletedKeys : List String
  /-- keys that could not be deleted -/
  failedKeys : List String
  deriving DecidableEq, Repr

/-- What S3 answers during a run. -/
structure S3 where
  /-- `list_objects_v2` under `cases/`, for a continuation token -/
  listObjectsV2 : Option String → ObjectStoreListPage
  /-- the exception of the `n`-th `delete_objects` request, when it raises -/
  deleteRaises : Nat → Option Failure
  /-- what the `n`-th request reports as deleted and as failed, when it is answered -/
  deleteObjects : Nat → List String → DeleteObjectsResult

/-- `list_objects_page`: an empty token is not sent. -/
def S3.listObjectsPage (s3 : S3) (continuationToken : Option String) : ObjectStoreListPage :=
  s3.listObjectsV2 (continuationToken.filter (· ≠ ""))

/-- `delete_objects_batch`, with the requests it sends. -/
def S3.deleteObjectsBatch (s3 : S3) (n : Nat) (keys : List String)
    (governanceApprovalRef : Option String) :
    Except Failure DeleteObjectsResult × List (List String) :=
  let normalizedKeys := (keys.map PyText.strip).filter (· ≠ "")
  if normalizedKeys = [] then (.ok ⟨[], []⟩, [])
  else if 1000 < normalizedKeys.length then
    (.error (.valueError "delete_objects_batch supports at most 1000 keys per request"), [])
  else if PyText.isBlank (governanceApprovalRef.getD "") then
    (.error (.invariantViolation "governance_approval_ref is required for delete_objects_batch"),
      [])
  else
    match s3.deleteRaises n with
    | some e => (.error e, [normalizedKeys])
    | none =>
      let response := s3.deleteObjects n normalizedKeys
      (.ok ⟨response.deletedKeys.filter (· ≠ ""), response.failedKeys.filter (· ≠ "")⟩,
        [normalizedKeys])

/-! ## The run -/

/-- `CasefileLifecycleRunner`, with the checks of its constructor. -/
structure CasefileLifecycleRunner where
  /-- the policy -/
  policy : CasefileRetentionPolicyV1
  /-- the environment -/
  appEnv : String
  /-- the reference of the approval, as it is configured -/
  governanceApprovalRef : Option String
  /-- how many keys a request deletes -/
  deleteBatchSize : Nat := 500
  /-- `delete_batch_size must be between 1 and 1000` -/
  deleteBatchSize_ok : 0 < deleteBatchSize ∧ deleteBatchSize ≤ 1000 := by decide

/-- `self._governance_approval_ref`. -/
def CasefileLifecycleRunner.approvalRef (runner : CasefileLifecycleRunner) : Option String :=
  match runner.governanceApprovalRef with
  | none => none
  | some ref => if ref = "" then none else some (PyText.strip ref)

/-- The keys of each case, with their times. -/
abbrev CaseObjects := Dict String (List (String × Instant))

/-- What the listing loop carries. -/
structure Scan where
  /-- objects seen -/
  scannedCount : Nat
  /-- the recognised ones, by case -/
  caseObjects : CaseObjects

/-- One object: a key that is not recognised is passed over. -/
def addItem (caseObjects : CaseObjects) (item : ObjectSummary) : CaseObjects :=
  match extractCaseId item.key with
  | none => caseObjects
  | some caseId =>
    caseObjects.set caseId
      ((caseObjects.get? caseId).getD [] ++ [(item.key, item.lastModified)])

/-- One page. -/
def Scan.addPage (scan : Scan) (items : List ObjectSummary) : Scan where
  scannedCount := scan.scannedCount + items.length
  caseObjects := items.foldl addItem scan.caseObjects

/-- `key.endswith("/triage.json")`. -/
def isTriageKey (key : String) : Bool := "/triage.json".toList.isSuffixOf key.toList

/-- `_resolve_case_created_at`; `none` where `min` raises, for a case without objects. -/
def resolveCaseCreatedAt (objects : List (String × Instant)) : Option Instant :=
  let triageTimes := (objects.filter fun object => isTriageKey object.1).map Prod.snd
  if triageTimes ≠ [] then triageTimes.min? else (objects.map Prod.snd).min?

/-- `ordered_keys`: the keys of the eligible cases, sorted. -/
def orderedKeys (caseObjects : CaseObjects) (cutoff : Instant) : List String :=
  let eligible := caseObjects.entries.filter fun entry =>
    (resolveCaseCreatedAt entry.2).any (· ≤ cutoff)
  (eligible.flatMap fun entry => entry.2.map Prod.fst).dedup.insertionSort (· ≤ ·)

/-- The loop over the batches, from the `n`-th request on: the keys reported as deleted and as
failed, and the requests that were sent. -/
def deleteAll (s3 : S3) (governanceApprovalRef : Option String) :
    Nat → List (List String) → Except Failure (List String × List String) × List (List String)
  | _, [] => (.ok ([], []), [])
  | n, batch :: batches =>
    match s3.deleteObjectsBatch n batch governanceApprovalRef with
    | (.error e, sent) => (.error e, sent)
    | (.ok result, sent) =>
      let (rest, sentLater) := deleteAll s3 governanceApprovalRef (n + sent.length) batches
      (rest.map fun keys => (result.deletedKeys ++ keys.1, result.failedKeys ++ keys.2),
        sent ++ sentLater)

/-- `CasefileLifecycleRunResult`. -/
structure CasefileLifecycleRunResult where
  /-- objects listed -/
  scannedCount : Nat
  /-- keys to delete -/
  eligibleCount : Nat
  /-- keys reported as deleted -/
  purgedCount : Nat
  /-- keys reported as failed -/
  failedCount : Nat
  /-- the cases of the reported keys -/
  caseIds : List String
  deriving DecidableEq, Repr

/-- `run_once`, with the delete requests it sends; `none` when the fuel does not suffice for the
listing. The audit log has what the result has. -/
def CasefileLifecycleRunner.runOnce (runner : CasefileLifecycleRunner) (s3 : S3) (fuel : Nat)
    (now : DateTime) : Option (Except Failure CasefileLifecycleRunResult × List (List String)) :=
  match asAwareUtc now "now" >>= fun resolvedNow =>
    resolveRetentionCutoff runner.policy runner.appEnv (.aware resolvedNow) with
  | .error e => some (.error e, [])
  | .ok cutoff =>
    (foldPages s3.listObjectsPage Scan.addPage fuel ⟨0, .empty⟩ none).map fun scan =>
      let ordered := orderedKeys scan.caseObjects cutoff
      if ordered ≠ [] ∧ runner.approvalRef = none then
        (.error (.invariantViolation
          "governance approval metadata is required for destructive lifecycle purge"), [])
      else
        let (answer, requests) :=
          deleteAll s3 runner.approvalRef 0 (chunked ordered runner.deleteBatchSize)
        (answer.map fun keys =>
          { scannedCount := scan.scannedCount
            eligibleCount := ordered.length
            purgedCount := keys.1.length
            failedCount := keys.2.length
            caseIds := ((keys.1 ++ keys.2).filterMap extractCaseId).dedup.insertionSort (· ≤ ·) },
          requests)

/-! ## What is due -/

/-- The objects of a store, with their times. -/
abbrev Inventory := Dict String Instant

/-- The store holds a recognised object of the case. -/
def Inventory.Holds (inventory : Inventory) (caseId key : String) (t : Instant) : Prop :=
  inventory.get? key = some t ∧ extractCaseId key = some caseId

/-- The creation of a case: the earliest triage object, or else the earliest object. -/
def Inventory.CreatedAt (inventory : Inventory) (caseId : String) (t : Instant) : Prop :=
  IsLeast {u | ∃ key, inventory.Holds caseId key u ∧ isTriageKey key = true} t ∨
    (∀ key u, inventory.Holds caseId key u → isTriageKey key = false) ∧
      IsLeast {u | ∃ key, inventory.Holds caseId key u} t

/-- The case was created at or before the cutoff. -/
def Inventory.Expired (inventory : Inventory) (cutoff : Instant) (caseId : String) : Prop :=
  ∃ t, inventory.CreatedAt caseId t ∧ t ≤ cutoff

/-- The key is a recognised one of a case that is expired. -/
def Inventory.Due (inventory : Inventory) (cutoff : Instant) (key : String) : Prop :=
  ∃ caseId t, inventory.Holds caseId key t ∧ inventory.Expired cutoff caseId

/-- The items list the objects of the store under `cases/`, in any order and any number of
times. -/
def Inventory.ListedBy (inventory : Inventory) (items : List ObjectSummary) : Prop :=
  ∀ key t, ⟨key, t⟩ ∈ items ↔
    inventory.get? key = some t ∧ "cases/".toList.isPrefixOf key.toList = true

/-- The objects of the store under `cases/`, as one page. -/
def Inventory.items (inventory : Inventory) : List ObjectSummary :=
  (inventory.entries.filter fun entry => "cases/".toList.isPrefixOf entry.1.toList).map
    fun entry => ⟨entry.1, entry.2⟩

/-- Any order of them is a listing. -/
theorem Inventory.listedBy_of_perm {inventory : Inventory} {items : List ObjectSummary}
    (hperm : items.Perm inventory.items) : inventory.ListedBy items := by
  intro key t
  rw [hperm.mem_iff, Inventory.items, List.mem_map, Dict.get?_eq_some]
  constructor
  · rintro ⟨entry, hentry, heq⟩
    obtain ⟨hmem, hinitial⟩ := List.mem_filter.mp hentry
    cases heq
    exact ⟨hmem, hinitial⟩
  · rintro ⟨hmem, hinitial⟩
    exact ⟨(key, t), List.mem_filter.mpr ⟨hmem, hinitial⟩, rfl⟩

/-! ## What a run collects -/

/-- The objects of a case among the items, in their order. -/
def objectsOf (items : List ObjectSummary) (caseId : String) : List (String × Instant) :=
  (items.filter fun item => extractCaseId item.key = some caseId).map fun item =>
    (item.key, item.lastModified)

theorem mem_objectsOf {items : List ObjectSummary} {caseId key : String} {t : Instant} :
    (key, t) ∈ objectsOf items caseId ↔
      (⟨key, t⟩ : ObjectSummary) ∈ items ∧ extractCaseId key = some caseId := by
  rw [objectsOf, List.mem_map]
  constructor
  · rintro ⟨item, hitem, heq⟩
    obtain ⟨hmem, hcase⟩ := List.mem_filter.mp hitem
    cases heq
    exact ⟨hmem, of_decide_eq_true hcase⟩
  · rintro ⟨hmem, hcase⟩
    exact ⟨⟨key, t⟩, List.mem_filter.mpr ⟨hmem, decide_eq_true hcase⟩, rfl⟩

theorem addItem_of_none {caseObjects : CaseObjects} {item : ObjectSummary}
    (h : extractCaseId item.key = none) : addItem caseObjects item = caseObjects := by
  rw [addItem, h]

theorem addItem_of_some {caseObjects : CaseObjects} {item : ObjectSummary} {caseId : String}
    (h : extractCaseId item.key = some caseId) :
    addItem caseObjects item = caseObjects.set caseId
      ((caseObjects.get? caseId).getD [] ++ [(item.key, item.lastModified)]) := by
  rw [addItem, h]

/-- The loop groups the items by case. -/
theorem foldl_addItem (items : List ObjectSummary) (caseId : String) :
    (items.foldl addItem .empty).get? caseId =
      if objectsOf items caseId = [] then none else some (objectsOf items caseId) := by
  induction items using List.reverseRecOn with
  | nil => rfl
  | append_singleton items item ih =>
    have hobjects : objectsOf (items ++ [item]) caseId = objectsOf items caseId ++
        if extractCaseId item.key = some caseId then [(item.key, item.lastModified)] else [] := by
      rw [objectsOf, List.filter_append, List.map_append]
      congr 1
      by_cases hcase : extractCaseId item.key = some caseId
      · simp [hcase]
      · simp [hcase]
    rw [List.foldl_append, hobjects, List.foldl_cons, List.foldl_nil]
    cases hfound : extractCaseId item.key with
    | none =>
      -- not recognised: no case has it
      rw [addItem_of_none hfound]
      simpa using ih
    | some found =>
      rw [addItem_of_some hfound, Dict.get?_set]
      by_cases hcase : found = caseId
      · subst hcase
        rw [if_pos rfl, if_pos rfl, if_neg (by simp), ih]
        split
        · next hempty => rw [hempty, Option.getD_none]
        · rw [Option.getD_some]
      · rw [if_neg hcase, ih, if_neg fun heq => hcase (Option.some.inj heq), List.append_nil]

/-- Page by page or all at once. -/
theorem foldl_addPage (pages : List (List ObjectSummary)) (scan : Scan) :
    (pages.foldl Scan.addPage scan).caseObjects = pages.flatten.foldl addItem scan.caseObjects := by
  induction pages generalizing scan with
  | nil => rfl
  | cons page pages ih =>
    rw [List.foldl_cons, ih, List.flatten_cons, List.foldl_append]
    rfl

/-- A recognised key lies under `cases/`. -/
theorem isPrefixOf_of_extractCaseId {key caseId : String} (h : extractCaseId key = some caseId) :
    "cases/".toList.isPrefixOf key.toList = true := by
  obtain ⟨stage, ending, hmatch⟩ := extractCaseId_eq_some.mp h
  exact List.isPrefixOf_iff_prefix.mpr ⟨_, hmatch.text.symm⟩

section Listed

variable {inventory : Inventory} {items : List ObjectSummary} {cutoff : Instant}

/-- The objects the loop has for a case are those of the store. -/
theorem mem_objectsOf_listed (hlisted : inventory.ListedBy items) {caseId key : String}
    {t : Instant} : (key, t) ∈ objectsOf items caseId ↔ inventory.Holds caseId key t := by
  rw [mem_objectsOf, hlisted]
  constructor
  · rintro ⟨⟨hget, -⟩, hcase⟩
    exact ⟨hget, hcase⟩
  · rintro ⟨hget, hcase⟩
    exact ⟨⟨hget, isPrefixOf_of_extractCaseId hcase⟩, hcase⟩

/-- The least of the times. -/
theorem min?_eq_some_iff_isLeast {times : List Instant} {t : Instant} :
    times.min? = some t ↔ IsLeast {u | u ∈ times} t := List.min?_eq_some_iff

/-- **The creation time** the run computes is that of the case. -/
theorem resolveCaseCreatedAt_eq_some (hlisted : inventory.ListedBy items) {caseId : String}
    {t : Instant} :
    resolveCaseCreatedAt (objectsOf items caseId) = some t ↔ inventory.CreatedAt caseId t := by
  have htriage : {u | u ∈ ((objectsOf items caseId).filter
      fun object => isTriageKey object.1).map Prod.snd} =
      {u | ∃ key, inventory.Holds caseId key u ∧ isTriageKey key = true} := by
    ext u
    simp [← mem_objectsOf_listed hlisted]
  have hall : {u | u ∈ (objectsOf items caseId).map Prod.snd} =
      {u | ∃ key, inventory.Holds caseId key u} := by
    ext u
    simp [← mem_objectsOf_listed hlisted]
  unfold resolveCaseCreatedAt Inventory.CreatedAt
  simp only
  split
  · next hsome =>
    -- there is a triage object, so the earliest one counts
    rw [min?_eq_some_iff_isLeast, htriage]
    refine ⟨.inl, ?_⟩
    rintro (hleast | ⟨hnone, -⟩)
    · exact hleast
    · obtain ⟨u, hu⟩ := List.exists_mem_of_ne_nil _ hsome
      obtain ⟨key, hholds, hkey⟩ : u ∈ {u | ∃ key, inventory.Holds caseId key u ∧
        isTriageKey key = true} := htriage ▸ hu
      cases (hnone key u hholds).symm.trans hkey
  · next hnone =>
    rw [not_not] at hnone
    have hno : ∀ key u, inventory.Holds caseId key u → isTriageKey key = false := by
      intro key u hholds
      rw [← Bool.not_eq_true]
      intro hkey
      have hu : u ∈ {u | u ∈ ((objectsOf items caseId).filter
          fun object => isTriageKey object.1).map Prod.snd} := htriage ▸ ⟨key, hholds, hkey⟩
      rw [hnone] at hu
      cases hu
    rw [min?_eq_some_iff_isLeast, hall]
    refine ⟨fun hleast => .inr ⟨hno, hleast⟩, ?_⟩
    rintro (⟨⟨key, hholds, hkey⟩, -⟩ | ⟨-, hleast⟩)
    · cases (hno key t hholds).symm.trans hkey
    · exact hleast

/-- **What is collected**: the keys that are due, and no other. -/
theorem mem_orderedKeys (hlisted : inventory.ListedBy items) {key : String} :
    key ∈ orderedKeys (items.foldl addItem .empty) cutoff ↔ inventory.Due cutoff key := by
  rw [orderedKeys, List.mem_insertionSort, List.mem_dedup, List.mem_flatMap]
  constructor
  · rintro ⟨⟨caseId, objects⟩, hentry, hkey⟩
    obtain ⟨hentry, hcreated⟩ := List.mem_filter.mp hentry
    obtain ⟨t, ht, hle⟩ := (Option.any_eq_true _ _).mp hcreated
    have hget := Dict.get?_eq_some.mpr hentry
    rw [foldl_addItem] at hget
    split at hget
    · cases hget
    · cases hget
      obtain ⟨⟨_, u⟩, hobject, rfl⟩ := List.mem_map.mp hkey
      exact ⟨caseId, u, (mem_objectsOf_listed hlisted).mp hobject, t,
        (resolveCaseCreatedAt_eq_some hlisted).mp ht, of_decide_eq_true hle⟩
  · rintro ⟨caseId, u, hholds, t, hcreated, hle⟩
    have hobject := (mem_objectsOf_listed hlisted).mpr hholds
    refine ⟨(caseId, objectsOf items caseId), List.mem_filter.mpr ⟨?_, ?_⟩,
      List.mem_map.mpr ⟨_, hobject, rfl⟩⟩
    · rw [← Dict.get?_eq_some, foldl_addItem, if_neg (List.ne_nil_of_mem hobject)]
    · simp only [(resolveCaseCreatedAt_eq_some hlisted).mpr hcreated, Option.any_some]
      exact decide_eq_true hle

/-- No key is collected twice. -/
theorem nodup_orderedKeys (caseObjects : CaseObjects) (cutoff : Instant) :
    (orderedKeys caseObjects cutoff).Nodup :=
  (List.perm_insertionSort _ _).nodup_iff.mpr (List.nodup_dedup _)

end Listed

end AiopsTriage
