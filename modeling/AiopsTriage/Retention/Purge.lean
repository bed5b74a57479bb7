import AiopsTriage.Lib.Runs
import AiopsTriage.Retention.Exact

/-!
# Purging a case over several runs

A run decides from the keys it finds. When some deletions of a case fail, the next run finds
other keys than this one did, and with the triage object gone it takes the oldest of the others
for the creation of the case, which may be younger than the cutoff.

What a run submits are the requests of `run_once` (`LifecycleRun.requests`): the keys of the
expired cases that it reaches (`mem_requests`). So what is left of a case that was found expired is
submitted by every later run exactly when each run leaves something of it that makes it expired
for the next one, which then reaches all that is left (`purged_until_gone_iff`).
-/

namespace AiopsTriage

open Paging

/-! ## Runs over a store -/

/-- A run of the runner that computes its cutoff and lists a store, and what becomes of the
keys it submits. -/
structure LifecycleRun where
  /-- the runner -/
  runner : CasefileLifecycleRunner
  /-- what S3 answers -/
  s3 : S3
  /-- a bound on the pages -/
  fuel : Nat
  /-- when it runs -/
  now : DateTime
  /-- the listing -/
  pages : List (List ObjectSummary)
  /-- the cutoff -/
  cutoff : Instant
  /-- the submitted keys whose deletion fails -/
  fails : String → Bool
  /-- S3 serves the listing -/
  pages_ok : Pages s3.listObjectsPage none pages
  /-- the bound is enough -/
  fuel_ok : pages.length ≤ fuel
  /-- the policy gives the cutoff -/
  cutoff_ok : resolveRetentionCutoff runner.policy runner.appEnv now = .ok cutoff

namespace LifecycleRun

/-- The delete requests that `run_once` sends. -/
def requests (run : LifecycleRun) : List (List String) :=
  ((run.runner.runOnce run.s3 run.fuel run.now).map Prod.snd).getD []

/-- The keys of the cases that are expired. -/
def keys (run : LifecycleRun) : List String := collectedKeys run.pages run.cutoff

/-- The batches they are in. -/
def batches (run : LifecycleRun) : List (List String) :=
  chunked run.keys run.runner.deleteBatchSize

/-- The run reaches a key: it is approved, the client does not strip the key to another one, and
no request before that of the key raises. -/
structure Reaches (run : LifecycleRun) (key : String) : Prop where
  /-- there is an approval -/
  approved : run.runner.Approved
  /-- the key does not end with a line feed -/
  plain : key.toList.getLast? ≠ some '\n'
  /-- the requests before are answered -/
  answered : ∀ n batch, run.batches[n]? = some batch → key ∈ batch →
    ∀ m < n, run.s3.deleteRaises m = none

/-- The run leaves a key of an expired case: it does not reach it, or the deletion fails. -/
def Leaves (run : LifecycleRun) (key : String) : Prop := run.Reaches key → run.fails key = true

end LifecycleRun

/-- What is known between two runs. -/
structure Purge where
  /-- the objects of the store -/
  inventory : Inventory
  /-- the cutoff of the last run -/
  lastCutoff : Option Instant
  /-- the cases that were expired at the cutoff of a run -/
  found : List String

/-- Before the first run. -/
def Purge.start (inventory : Inventory) : Purge := ⟨inventory, none, []⟩

/-- The run comes next: it lists the store, and its cutoff is not before that of the last run. -/
def Purge.Admits (s : Purge) (run : LifecycleRun) : Prop :=
  run.pages.flatten.Perm s.inventory.items ∧ ∀ cutoff ∈ s.lastCutoff, cutoff ≤ run.cutoff

instance (s : Purge) (run : LifecycleRun) : Decidable (s.Admits run) :=
  inferInstanceAs (Decidable (_ ∧ _))

/-- After a run: a key it submitted is gone unless its deletion failed. -/
def Purge.after (s : Purge) (run : LifecycleRun) : Purge where
  inventory := s.inventory.filterKeys fun key => !(run.requests.flatten.contains key) || run.fails key
  lastCutoff := some run.cutoff
  found := s.found ++ run.keys.filterMap extractCaseId

/-- One run. -/
def Purge.step (s : Purge) (run : LifecycleRun) : Option Purge :=
  if s.Admits run then some (s.after run) else none

/-- The run submits every recognised key that is left of a case that was expired at the cutoff of
an earlier run. -/
def Purge.Resubmits (s : Purge) (run : LifecycleRun) : Prop :=
  ∀ caseId ∈ s.found, ∀ key t, s.inventory.Holds caseId key t → key ∈ run.requests.flatten

/-- A run hands over to the next one: whenever it leaves something of an expired case, it leaves an
object that counts for the creation of the case and is not younger than the next cutoff (a triage
object, or any when no triage object is left), and the next run reaches what is left. -/
structure Purge.HandsOver (s : Purge) (run next : LifecycleRun) : Prop where
  /-- what makes the case expired -/
  witness : ∀ caseId, s.inventory.Expired run.cutoff caseId →
    ∀ key t, s.inventory.Holds caseId key t → run.Leaves key →
      ∃ key' t', s.inventory.Holds caseId key' t' ∧ run.Leaves key' ∧ t' ≤ next.cutoff ∧
        (isTriageKey key' = true ∨ ∀ key'' t'', s.inventory.Holds caseId key'' t'' →
          isTriageKey key'' = true → ¬run.Leaves key'')
  /-- what the next run gets to -/
  reached : ∀ caseId, s.inventory.Expired run.cutoff caseId →
    ∀ key t, s.inventory.Holds caseId key t → run.Leaves key → next.Reaches key

/-- Each run of a list hands over to the one after it. -/
def Purge.AllHandOver : Purge → List LifecycleRun → Prop
  | s, run :: next :: runs => s.HandsOver run next ∧ (s.after run).AllHandOver (next :: runs)
  | _, _ => True

/-- Whether a run resubmits can be read off the objects of the store. -/
instance (s : Purge) (run : LifecycleRun) : Decidable (s.Resubmits run) :=
  decidable_of_iff (∀ caseId ∈ s.found, ∀ entry ∈ s.inventory.entries,
      extractCaseId entry.1 = some caseId → entry.1 ∈ run.requests.flatten)
    ⟨fun h caseId hfound _ _ hholds => h caseId hfound _ (Dict.get?_eq_some.mp hholds.1) hholds.2,
      fun h caseId hfound entry hentry hcase =>
        h caseId hfound entry.1 entry.2 ⟨Dict.get?_eq_some.mpr hentry, hcase⟩⟩

/-! ## What is expired -/

/-- A case is expired exactly when an object that counts is not younger than the cutoff. -/
theorem Inventory.expired_iff {inventory : Inventory} {cutoff : Instant} {caseId : String} :
    inventory.Expired cutoff caseId ↔ ∃ key t, inventory.Holds caseId key t ∧ t ≤ cutoff ∧
      (isTriageKey key = true ∨
        ∀ key' t', inventory.Holds caseId key' t' → isTriageKey key' = false) := by
  constructor
  · rintro ⟨t, ⟨⟨key, hholds, htriage⟩, -⟩ | ⟨hnone, ⟨key, hholds⟩, -⟩, hle⟩
    · exact ⟨key, t, hholds, hle, .inl htriage⟩
    · exact ⟨key, t, hholds, hle, .inr hnone⟩
  · rintro ⟨key, t, hholds, hle, hcounts⟩
    have hlisted : inventory.ListedBy inventory.items := listedBy_of_perm (List.Perm.refl _)
    have hobject := (mem_objectsOf_listed hlisted).mpr hholds
    -- the case has an object, so it has a creation time
    obtain ⟨u, hu⟩ : ∃ u, resolveCaseCreatedAt (objectsOf inventory.items caseId) = some u := by
      rw [← Option.isSome_iff_exists]
      unfold resolveCaseCreatedAt
      simp only
      split
      · next hsome => exact List.isSome_min?_of_ne_nil hsome
      · exact List.isSome_min?_of_mem (List.mem_map_of_mem hobject)
    rw [resolveCaseCreatedAt_eq_some hlisted] at hu
    refine ⟨u, hu, le_trans ?_ hle⟩
    rcases hu with ⟨⟨key', hholds', htriage'⟩, hleast⟩ | ⟨-, -, hleast⟩
    · rcases hcounts with htriage | hnone
      · exact hleast ⟨key, hholds, htriage⟩
      · cases (hnone key' u hholds').symm.trans htriage'
    · exact hleast ⟨key, hholds⟩

/-! ## What a run submits -/

namespace Purge

variable {s : Purge} {run next : LifecycleRun}

/-- A run that comes next lists the store. -/
theorem Admits.listed (h : s.Admits run) : s.inventory.ListedBy run.pages.flatten :=
  Inventory.listedBy_of_perm h.1

/-- It collects what is due. -/
theorem mem_keys (h : s.Admits run) {key : String} :
    key ∈ run.keys ↔ s.inventory.Due run.cutoff key := mem_orderedKeys h.listed

/-- An object of a case is collected exactly when the case is expired. -/
theorem mem_keys_of_holds (h : s.Admits run) {caseId key : String} {t : Instant}
    (hholds : s.inventory.Holds caseId key t) :
    key ∈ run.keys ↔ s.inventory.Expired run.cutoff caseId := by
  rw [mem_keys h]
  constructor
  · rintro ⟨caseId', t', hholds', hexpired⟩
    obtain rfl := Option.some.inj (hholds'.2.symm.trans hholds.2)
    exact hexpired
  · intro hexpired
    exact ⟨caseId, t, hholds, hexpired⟩

/-- The batches hold the keys. -/
theorem flatten_batches : run.batches.flatten = run.keys :=
  flatten_chunked run.runner.deleteBatchSize_ok.1

/-- A text is not greater than a longer one that starts with it. -/
theorem le_of_isPrefix {text text' : String} (h : text.toList <+: text'.toList) : text ≤ text' :=
  not_lt.mp fun hlt => List.not_le.mpr (String.lt_iff_toList_lt.mp hlt) h.le

/-- A batch with a smaller key does not come later. -/
theorem batch_le {key key' : String} {n m : Nat} {batch batch' : List String}
    (hbatch : run.batches[n]? = some batch) (hkey : key ∈ batch)
    (hbatch' : run.batches[m]? = some batch') (hkey' : key' ∈ batch') (hle : key ≤ key') : n ≤ m := by
  by_contra hlater
  have hsorted : run.batches.flatten.Pairwise (· < ·) := by
    rw [flatten_batches]
    exact ((List.pairwise_insertionSort _ _).imp₂ (fun _ _ hle hne => lt_of_le_of_ne hle hne)
      (nodup_orderedKeys _ _))
  have hpairs := (List.pairwise_flatten.mp hsorted).2
  obtain ⟨hn, rfl⟩ := List.getElem?_eq_some_iff.mp hbatch
  obtain ⟨hm, rfl⟩ := List.getElem?_eq_some_iff.mp hbatch'
  have hlt := List.pairwise_iff_getElem.mp hpairs m n hm hn (not_le.mp hlater) key' hkey' key hkey
  exact absurd hle (not_le.mpr hlt)

/-- **What is submitted** of a case: everything the run reaches when the case is expired, and
nothing when it is not. -/
theorem mem_requests (h : s.Admits run) {caseId key : String} {t : Instant}
    (hholds : s.inventory.Holds caseId key t) :
    key ∈ run.requests.flatten ↔ s.inventory.Expired run.cutoff caseId ∧ run.Reaches key := by
  obtain ⟨answer, requests, hrun, happroved, hnone⟩ :=
    runOnce_requests run.runner run.pages_ok run.fuel_ok run.cutoff_ok
  have hrequests : run.requests = requests := by
    rw [LifecycleRun.requests, hrun]
    rfl
  rw [hrequests]
  by_cases happ : run.runner.Approved
  · have hok : ∀ batch ∈ run.batches, BatchOk batch :=
      batchOk_chunked run.cutoff h.listed run.runner.deleteBatchSize_ok
    have happroved : requests = (deleteAll run.s3 run.runner.approvalRef 0 run.batches).2 :=
      happroved happ
    rw [happroved, mem_deleteAll_iff run.s3 0 (run.runner.isBlank_approvalRef.mpr happ) hok]
    simp only [Nat.zero_add]
    constructor
    · rintro ⟨n, batch, hbatch, hkey, hnone⟩
      -- the key was stripped to, from one of the same case
      obtain ⟨key', hkey', rfl⟩ := List.mem_map.mp hkey
      have hmem : key' ∈ run.keys := by
        rw [← flatten_batches]
        exact List.mem_flatten_of_mem (List.mem_of_getElem? hbatch) hkey'
      obtain ⟨caseId', t', hholds', hexpired⟩ := (mem_keys h).mp hmem
      obtain ⟨hcase, -, hinitial⟩ := strip_of_extractCaseId hholds'.2
      obtain rfl := Option.some.inj (hcase.symm.trans hholds.2)
      refine ⟨hexpired, happ, ?_, fun m batch' hbatch' hstrip j hj => hnone j (hj.trans_le ?_)⟩
      · intro hfeed
        have hchars : (PyText.strip key').toList = PyText.stripChars key'.toList :=
          String.toList_ofList
        rw [hchars] at hfeed
        cases PyText.isSpace_of_getLast?_stripChars hfeed
      · exact batch_le hbatch' hstrip hbatch hkey' (le_of_isPrefix hinitial)
    · rintro ⟨hexpired, -, hplain, hanswered⟩
      have hmem := (mem_keys_of_holds h hholds).mpr hexpired
      rw [← flatten_batches] at hmem
      obtain ⟨batch, hbatch, hkey⟩ := List.mem_flatten.mp hmem
      obtain ⟨n, hn⟩ := List.mem_iff_getElem?.mp hbatch
      refine ⟨n, batch, hn, List.mem_map.mpr ⟨key, hkey, ?_⟩, hanswered n batch hn hkey⟩
      exact (strip_of_extractCaseId hholds.2).2.1.mpr hplain
  · rw [hnone happ]
    exact iff_of_false (List.not_mem_nil) fun hreached => happ hreached.2.approved

/-! ## What a run leaves -/

/-- What is left of an expired case. -/
theorem holds_after (h : s.Admits run) {caseId : String}
    (hexpired : s.inventory.Expired run.cutoff caseId) {key : String} {t : Instant} :
    (s.after run).inventory.Holds caseId key t ↔
      s.inventory.Holds caseId key t ∧ run.Leaves key := by
  unfold after Inventory.Holds
  simp only [Dict.get?_filterKeys, Bool.or_eq_true, Bool.not_eq_true']
  constructor
  · rintro ⟨⟨hget, hkept⟩, hcase⟩
    refine ⟨⟨hget, hcase⟩, fun hreaches => hkept.resolve_left ?_⟩
    have hmem := (mem_requests h ⟨hget, hcase⟩).mpr ⟨hexpired, hreaches⟩
    rw [List.contains_iff_mem.mpr hmem]
    exact Bool.true_eq_false_eq_False
  · rintro ⟨⟨hget, hcase⟩, hleaves⟩
    refine ⟨⟨hget, ?_⟩, hcase⟩
    by_cases hmem : key ∈ run.requests.flatten
    · exact .inr (hleaves ((mem_requests h ⟨hget, hcase⟩).mp hmem).2)
    · exact .inl (Bool.eq_false_iff.mpr fun hcontains => hmem (List.contains_iff_mem.mp hcontains))

/-- A run leaves of a case no more than there was. -/
theorem holds_of_after {caseId key : String} {t : Instant}
    (h : (s.after run).inventory.Holds caseId key t) : s.inventory.Holds caseId key t :=
  ⟨(Dict.get?_filterKeys.mp h.1).1, h.2⟩

/-- The cases found so far, with those of one more run. -/
theorem mem_found_after (h : s.Admits run) {caseId : String} :
    caseId ∈ (s.after run).found ↔ caseId ∈ s.found ∨ s.inventory.Expired run.cutoff caseId := by
  rw [after, List.mem_append, List.mem_filterMap]
  refine or_congr_right ?_
  constructor
  · rintro ⟨key, hkey, hcase⟩
    obtain ⟨caseId', t, hholds, hexpired⟩ := (mem_keys h).mp hkey
    obtain rfl := Option.some.inj (hholds.2.symm.trans hcase)
    exact hexpired
  · intro hexpired
    obtain ⟨key, t, hholds, -⟩ := Inventory.expired_iff.mp hexpired
    exact ⟨key, (mem_keys_of_holds h hholds).mpr hexpired, hholds.2⟩

/-- What a run leaves of an expired case is expired for a later cutoff exactly when something is
left that counts and is not younger. -/
theorem expired_after_iff (h : s.Admits run) {caseId : String} {cutoff : Instant}
    (hexpired : s.inventory.Expired run.cutoff caseId) :
    (s.after run).inventory.Expired cutoff caseId ↔
      ∃ key t, s.inventory.Holds caseId key t ∧ run.Leaves key ∧ t ≤ cutoff ∧
        (isTriageKey key = true ∨ ∀ key' t', s.inventory.Holds caseId key' t' →
          isTriageKey key' = true → ¬run.Leaves key') := by
  have hnone : (∀ key' t', s.inventory.Holds caseId key' t' ∧ run.Leaves key' →
      isTriageKey key' = false) ↔ ∀ key' t', s.inventory.Holds caseId key' t' →
      isTriageKey key' = true → ¬run.Leaves key' := by
    refine forall₂_congr fun key' t' => ?_
    cases isTriageKey key' <;> simp
  rw [Inventory.expired_iff]
  simp only [holds_after h hexpired, hnone, and_assoc]

/-- **One run**: when it resubmits what is left of the cases found before it, the next one does so
exactly when it hands over to it. -/
theorem resubmits_after_iff (h : s.Admits run) (h' : (s.after run).Admits next)
    (hs : s.Resubmits run) : (s.after run).Resubmits next ↔ s.HandsOver run next := by
  constructor
  · intro hnext
    have hsubmitted : ∀ caseId, s.inventory.Expired run.cutoff caseId →
        ∀ key t, s.inventory.Holds caseId key t → run.Leaves key →
          (s.after run).inventory.Expired next.cutoff caseId ∧ next.Reaches key := by
      intro caseId hexpired key t hholds hleaves
      have hleft := (holds_after h hexpired).mpr ⟨hholds, hleaves⟩
      exact (mem_requests h' hleft).mp
        (hnext caseId ((mem_found_after h).mpr (.inr hexpired)) key t hleft)
    refine ⟨fun caseId hexpired key t hholds hleaves => ?_,
      fun caseId hexpired key t hholds hleaves => ?_⟩
    · exact (expired_after_iff h hexpired).mp (hsubmitted caseId hexpired key t hholds hleaves).1
    · exact (hsubmitted caseId hexpired key t hholds hleaves).2
  · rintro ⟨hwitness, hreached⟩ caseId hfound key t hleft
    have hholds := holds_of_after hleft
    -- the case was expired for this run, whether it was found by this one or before
    have hexpired : s.inventory.Expired run.cutoff caseId := by
      rcases (mem_found_after h).mp hfound with hold | hnew
      · exact ((mem_requests h hholds).mp (hs caseId hold key t hholds)).1
      · exact hnew
    have hleaves := ((holds_after h hexpired).mp hleft).2
    rw [mem_requests h' hleft, expired_after_iff h hexpired]
    exact ⟨hwitness caseId hexpired key t hholds hleaves, hreached caseId hexpired key t hholds hleaves⟩

/-! ## Runs of runs -/

theorem step_eq_some {t : Purge} : s.step run = some t ↔ s.Admits run ∧ s.after run = t := by
  unfold step
  split
  · next h => simp [h]
  · next h => simp [h]

/-- **Run lemma**: from a store whose found cases the first run resubmits. -/
theorem along_resubmits_iff {runs : List LifecycleRun} {t : Purge}
    (hrun : Runs.run step s (run :: runs) = some t) (hs : s.Resubmits run) :
    Runs.Along step Resubmits s (run :: runs) ↔ s.AllHandOver (run :: runs) := by
  induction runs generalizing s run with
  | nil =>
    obtain ⟨u, hu, -⟩ := Runs.run_cons_eq_some.mp hrun
    exact iff_of_true (Runs.along_cons hs hu Runs.along_nil) trivial
  | cons next runs ih =>
    obtain ⟨u, hu, hrest⟩ := Runs.run_cons_eq_some.mp hrun
    obtain ⟨v, hv, -⟩ := Runs.run_cons_eq_some.mp hrest
    obtain ⟨hadmits, rfl⟩ := step_eq_some.mp hu
    have hadmits' := (step_eq_some.mp hv).1
    have hnext := resubmits_after_iff hadmits hadmits' hs
    rw [AllHandOver]
    constructor
    · rintro ⟨-, hthen⟩
      have hlater := hthen _ hu
      exact ⟨hnext.mp hlater.1, (ih hrest hlater.1).mp hlater⟩
    · rintro ⟨hhands, hall⟩
      exact Runs.along_cons hs hu ((ih hrest (hnext.mpr hhands)).mpr hall)

/-- **Purged until gone.** Over any lifecycle runs with cutoffs that do not go back, with whatever
approvals, requests that raise and deletions that fail: each run submits every recognised key that
is left of a case that was expired at the cutoff of an earlier one, exactly when each run hands over
to the next. -/
theorem purged_until_gone_iff {inventory : Inventory} {runs : List LifecycleRun} {t : Purge}
    (hrun : Runs.run step (start inventory) runs = some t) :
    Runs.Along step Resubmits (start inventory) runs ↔ (start inventory).AllHandOver runs := by
  cases runs with
  | nil => exact iff_of_true Runs.along_nil trivial
  | cons run runs => exact along_resubmits_iff hrun fun caseId hfound => by cases hfound

/-! ## Runs over a store -/

/-- An approved run over a store with these objects, in which some deletions fail. -/
def agedRun (items : List ObjectSummary) (fails : String → Bool) : LifecycleRun where
  runner := approvedRunner
  s3 := pagedStore items []
  fuel := 2
  now := march2026
  pages := [items, []]
  cutoff := february2024
  fails := fails
  pages_ok := pages_pagedStore items []
  fuel_ok := le_refl 2
  cutoff_ok := by decide +kernel

/-- The old case is purged in three runs: first all deletions fail, then only that of the triage
object, then none. -/
def threePurges : List LifecycleRun :=
  [agedRun agedStore.items fun _ => true, agedRun agedStore.items isTriageKey,
    agedRun (agedStore.items.take 2) fun _ => false]

/-- Each run hands over to the next, and in the end the case is gone. -/
theorem purged_until_gone_agedStore :
    ∃ t, Runs.run step (start agedStore) threePurges = some t ∧
      (start agedStore).AllHandOver threePurges ∧ "case-1" ∈ t.found ∧
      t.inventory.keys = ["cases/case-2/triage.json"] := by
  have hfirst : (start agedStore).Admits (agedRun agedStore.items fun _ => true) := by
    decide +kernel
  have hsecond : ((start agedStore).after (agedRun agedStore.items fun _ => true)).Admits
      (agedRun agedStore.items isTriageKey) := by
    decide +kernel
  have hthird : (((start agedStore).after (agedRun agedStore.items fun _ => true)).after
      (agedRun agedStore.items isTriageKey)).Admits
        (agedRun (agedStore.items.take 2) fun _ => false) := by
    decide +kernel
  have hrun : Runs.run step (start agedStore) threePurges =
      some ((((start agedStore).after (agedRun agedStore.items fun _ => true)).after
        (agedRun agedStore.items isTriageKey)).after
          (agedRun (agedStore.items.take 2) fun _ => false)) := by
    refine Runs.run_cons_eq_some.mpr ⟨_, step_eq_some.mpr ⟨hfirst, rfl⟩, ?_⟩
    refine Runs.run_cons_eq_some.mpr ⟨_, step_eq_some.mpr ⟨hsecond, rfl⟩, ?_⟩
    exact Runs.run_cons_eq_some.mpr ⟨_, step_eq_some.mpr ⟨hthird, rfl⟩, rfl⟩
  refine ⟨_, hrun, (purged_until_gone_iff hrun).mp ?_, ?_, ?_⟩
  · decide +kernel
  · decide +kernel
  · decide +kernel

/-- When the triage object goes and the label stays, the next run finds the case young: the label
is not submitted again. -/
theorem purge_loses_case1 :
    ∃ s, Runs.run step (start agedStore)
        [agedRun agedStore.items fun key => key == "cases/case-1/labels.json"] = some s ∧
      "case-1" ∈ s.found ∧
      s.inventory.Holds "case-1" "cases/case-1/labels.json" 1754006400000000 ∧
      s.Admits (agedRun (agedStore.items.drop 1) fun _ => false) ∧
      (agedRun (agedStore.items.drop 1) fun _ => false).requests = [] := by
  have hadmits : (start agedStore).Admits
      (agedRun agedStore.items fun key => key == "cases/case-1/labels.json") := by
    decide +kernel
  refine ⟨_, Runs.run_cons_eq_some.mpr ⟨_, step_eq_some.mpr ⟨hadmits, rfl⟩, rfl⟩, ?_, ⟨?_, ?_⟩, ?_, ?_⟩
  · decide +kernel
  · decide +kernel
  · decide +kernel
  · decide +kernel
  · decide +kernel

end Purge

end AiopsTriage
