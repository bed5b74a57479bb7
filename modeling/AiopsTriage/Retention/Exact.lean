import AiopsTriage.Retention.Runner

/-!
# What a lifecycle run deletes

An approved run submits the keys that are due, each once and in batches of the configured size,
as long as no request raises; a run that is not approved submits nothing
(`lifecycle_run_exact_iff`). The one kind of key that is not submitted as it is ends with a line
feed: the pattern recognises it, and the client strips it to the key of another object of the
same case.
-/

namespace AiopsTriage

open Paging

/-! ## Stripped keys -/

/-- A stripped key is recognised as the same case, and it is the key itself unless that ends with
a line feed, which is all that stripping takes off. -/
theorem strip_of_extractCaseId {key caseId : String} (h : extractCaseId key = some caseId) :
    extractCaseId (PyText.strip key) = some caseId ∧
      (PyText.strip key = key ↔ key.toList.getLast? ≠ some '\n') ∧
      (PyText.strip key).toList <+: key.toList := by
  obtain ⟨stage, ending, hmatch⟩ := extractCaseId_eq_some.mp h
  -- what comes before the ending starts with a letter, and the ending without line feed ends
  -- with one
  obtain ⟨body, hbody⟩ : ∃ body, body = "cases/".toList ++ (caseId.toList ++ '/' :: stage) :=
    ⟨_, rfl⟩
  have hkey : key.toList = body ++ ending := by
    rw [hmatch.text, hbody, List.append_assoc, List.append_assoc, List.cons_append]
  have hlast : (body ++ ".json".toList).getLast? = some 'n' :=
    List.getLast?_append_of_ne_nil _ (by decide)
  have hkept : PyText.stripChars (body ++ ".json".toList) = body ++ ".json".toList := by
    refine PyText.stripChars_eq_self ?_ ?_
    · intro c hc
      rw [hbody] at hc
      cases hc
      rfl
    · intro c hc
      rw [hlast] at hc
      cases hc
      rfl
  have hstripped : (PyText.strip key).toList = body ++ ".json".toList ∧
      ((PyText.strip key).toList = key.toList ↔ key.toList.getLast? ≠ some '\n') ∧
      (PyText.strip key).toList <+: key.toList := by
    have hchars : (PyText.strip key).toList = PyText.stripChars key.toList := String.toList_ofList
    rw [hchars, hkey]
    rcases List.mem_pair.mp hmatch.ending_ok with rfl | rfl
    · refine ⟨hkept, iff_of_true hkept ?_, ?_⟩
      · rw [hlast]
        decide
      · rw [hkept]
    · have hfeed : body ++ ".json\n".toList = (body ++ ".json".toList) ++ ['\n'] := by
        rw [List.append_assoc]
        rfl
      rw [hfeed, PyText.stripChars_concat rfl, hkept]
      refine ⟨rfl, iff_of_false ?_ ?_, List.prefix_append _ _⟩
      · intro heq
        have hlength := congrArg List.length heq
        simp at hlength
      · rw [List.getLast?_concat, not_not]
  refine ⟨?_, String.toList_inj.symm.trans hstripped.2.1, hstripped.2.2⟩
  refine extractCaseId_eq_some.mpr ⟨stage, ".json".toList, ?_, hmatch.caseId_ne, hmatch.caseId_ok,
    hmatch.stage_ne, hmatch.stage_ok, by decide⟩
  rw [hstripped.1, hbody, List.append_assoc, List.append_assoc,
    List.cons_append]

/-- A stripped key of a case is not empty. -/
theorem strip_ne_of_extractCaseId {key caseId : String} (h : extractCaseId key = some caseId) :
    PyText.strip key ≠ "" := by
  intro hempty
  have hcase := (strip_of_extractCaseId h).1
  rw [hempty] at hcase
  cases hcase

/-! ## The deletion loop -/

/-- A batch as the client submits it. -/
def submitted (batch : List String) : List String := batch.map PyText.strip

/-- A batch the loop makes: recognised keys, some and not too many. -/
structure BatchOk (batch : List String) : Prop where
  /-- there is a key -/
  nonempty : batch ≠ []
  /-- a request takes them -/
  length_le : batch.length ≤ 1000
  /-- each is recognised -/
  recognised : ∀ key ∈ batch, ∃ caseId, extractCaseId key = some caseId

section Loop

variable {s3 : S3} {ref : Option String} {batches : List (List String)} {n : Nat}

variable (s3 n) in
/-- With an approval, a batch is one request, with the keys stripped. -/
theorem deleteObjectsBatch_sent {batch : List String} (href : PyText.isBlank (ref.getD "") = false)
    (hbatch : BatchOk batch) :
    (s3.deleteObjectsBatch n batch ref).2 = [submitted batch] ∧
      ((s3.deleteObjectsBatch n batch ref).1.Returns ↔ s3.deleteRaises n = none) := by
  have hnormalized : (batch.map PyText.strip).filter (· ≠ "") = submitted batch := by
    rw [submitted, List.filter_eq_self]
    intro key hkey
    obtain ⟨key', hkey', rfl⟩ := List.mem_map.mp hkey
    obtain ⟨caseId, hcase⟩ := hbatch.recognised key' hkey'
    exact decide_eq_true (strip_ne_of_extractCaseId hcase)
  have hne : submitted batch ≠ [] := fun hnil => hbatch.nonempty (List.map_eq_nil_iff.mp hnil)
  have hlength : ¬1000 < (submitted batch).length := by
    rw [submitted, List.length_map]
    exact not_lt.mpr hbatch.length_le
  unfold S3.deleteObjectsBatch
  simp only [hnormalized, if_neg hne, if_neg hlength, href, Bool.false_eq_true, if_false]
  cases s3.deleteRaises n with
  | none => exact ⟨rfl, iff_of_true ⟨_, rfl⟩ rfl⟩
  | some e =>
    refine ⟨rfl, iff_of_false ?_ (fun h => by cases h)⟩
    rintro ⟨a, ha⟩
    cases ha

variable (s3 n) in
/-- **The requests** of an approved loop are the batches in order, up to the first one that
raises. -/
theorem deleteAll_requests (href : PyText.isBlank (ref.getD "") = false)
    (hbatches : ∀ batch ∈ batches, BatchOk batch) :
    (deleteAll s3 ref n batches).2 <+: batches.map submitted ∧
      ((deleteAll s3 ref n batches).2 = batches.map submitted ↔
        ∀ i, i + 1 < batches.length → s3.deleteRaises (n + i) = none) := by
  induction batches generalizing n with
  | nil => exact ⟨List.prefix_rfl, iff_of_true rfl fun i hi => (by simp at hi)⟩
  | cons batch batches ih =>
    obtain ⟨hsent, hreturns⟩ := deleteObjectsBatch_sent s3 n href
      (hbatches batch List.mem_cons_self)
    obtain ⟨hinitial, hfull⟩ := ih (n + 1) fun b hb => hbatches b (List.mem_cons_of_mem batch hb)
    rw [deleteAll]
    rcases hcall : s3.deleteObjectsBatch n batch ref with ⟨e | result, sent⟩
    · -- the request raised: it is the last that is sent
      rw [hcall] at hsent hreturns
      obtain rfl : sent = [submitted batch] := hsent
      have hraises : s3.deleteRaises n ≠ none := by
        intro hnone
        obtain ⟨a, ha⟩ := hreturns.mpr hnone
        cases ha
      refine ⟨List.prefix_append [submitted batch] _, ?_⟩
      cases batches with
      | nil => exact iff_of_true rfl fun i hi => (by simp at hi)
      | cons batch' batches =>
        refine iff_of_false ?_ ?_
        · intro heq
          cases heq
        · intro hall
          exact hraises (hall 0 (by simp))
    · rw [hcall] at hsent hreturns
      obtain rfl : sent = [submitted batch] := hsent
      have hnone : s3.deleteRaises n = none := hreturns.mp ⟨result, rfl⟩
      simp only [List.length_singleton, List.singleton_append, List.map_cons]
      refine ⟨(List.prefix_cons_inj _).mpr hinitial, ?_⟩
      rw [List.cons_inj_right, hfull]
      constructor
      · intro hall i hi
        cases i with
        | zero => exact hnone
        | succ i =>
          rw [← Nat.add_assoc, Nat.add_right_comm]
          exact hall i (by simpa using hi)
      · intro hall i hi
        rw [Nat.add_right_comm, Nat.add_assoc]
        exact hall (i + 1) (by simpa using hi)

variable (s3 n) in
/-- **What is submitted**: a key is when it is in a batch before which no request raises. -/
theorem mem_deleteAll_iff (href : PyText.isBlank (ref.getD "") = false)
    (hbatches : ∀ batch ∈ batches, BatchOk batch) {key : String} :
    key ∈ (deleteAll s3 ref n batches).2.flatten ↔ ∃ i batch, batches[i]? = some batch ∧
      key ∈ submitted batch ∧ ∀ j < i, s3.deleteRaises (n + j) = none := by
  induction batches generalizing n with
  | nil =>
    refine iff_of_false (by simp [deleteAll]) ?_
    rintro ⟨i, batch, hbatch, -⟩
    cases hbatch
  | cons batch batches ih =>
    obtain ⟨hsent, hreturns⟩ := deleteObjectsBatch_sent s3 n href
      (hbatches batch List.mem_cons_self)
    have hlater := ih (n + 1) fun b hb => hbatches b (List.mem_cons_of_mem batch hb)
    rw [deleteAll]
    rcases hcall : s3.deleteObjectsBatch n batch ref with ⟨e | result, sent⟩
    · -- the request raised: no later batch is reached
      rw [hcall] at hsent hreturns
      obtain rfl : sent = [submitted batch] := hsent
      have hraises : s3.deleteRaises n ≠ none := by
        intro hnone
        obtain ⟨a, ha⟩ := hreturns.mpr hnone
        cases ha
      simp only [List.flatten_singleton]
      constructor
      · intro hkey
        exact ⟨0, batch, rfl, hkey, fun j hj => absurd hj (Nat.not_lt_zero j)⟩
      · rintro ⟨i, b, hb, hkey, hnone⟩
        cases i with
        | zero =>
          cases hb
          exact hkey
        | succ i => exact absurd (hnone 0 (Nat.succ_pos i)) hraises
    · rw [hcall] at hsent hreturns
      obtain rfl : sent = [submitted batch] := hsent
      have hfirst : s3.deleteRaises n = none := hreturns.mp ⟨result, rfl⟩
      simp only [List.length_singleton, List.singleton_append, List.flatten_cons, List.mem_append,
        hlater]
      constructor
      · rintro (hkey | ⟨i, b, hb, hkey, hnone⟩)
        · exact ⟨0, batch, rfl, hkey, fun j hj => absurd hj (Nat.not_lt_zero j)⟩
        · refine ⟨i + 1, b, hb, hkey, fun j hj => ?_⟩
          cases j with
          | zero => exact hfirst
          | succ j =>
            rw [← Nat.add_assoc, Nat.add_right_comm]
            exact hnone j (Nat.lt_of_succ_lt_succ hj)
      · rintro ⟨i, b, hb, hkey, hnone⟩
        cases i with
        | zero =>
          cases hb
          exact .inl hkey
        | succ i =>
          refine .inr ⟨i, b, hb, hkey, fun j hj => ?_⟩
          rw [Nat.add_right_comm, Nat.add_assoc]
          exact hnone (j + 1) (Nat.succ_lt_succ hj)

/-- Without an approval the client sends nothing. -/
theorem deleteAll_unapproved (href : PyText.isBlank (ref.getD "") = true) :
    (deleteAll s3 ref n batches).2 = [] := by
  have hbatch : ∀ n batch, (s3.deleteObjectsBatch n batch ref).2 = [] := by
    intro n batch
    unfold S3.deleteObjectsBatch
    simp only [href, if_true]
    split
    · rfl
    · split
      · rfl
      · rfl
  induction batches generalizing n with
  | nil => rfl
  | cons batch batches ih =>
    have hsent := hbatch n batch
    rw [deleteAll]
    rcases hcall : s3.deleteObjectsBatch n batch ref with ⟨e | result, sent⟩
    · rw [hcall] at hsent
      exact hsent
    · rw [hcall] at hsent
      obtain rfl : sent = [] := hsent
      exact ih

end Loop

/-- What is submitted is part of what should be; when nothing is missing, it is all of it. -/
theorem eq_of_prefix_flatten {α : Type} {sent batches : List (List α)} (hinitial : sent <+: batches)
    (hne : ∀ batch ∈ batches, batch ≠ []) (hlength : batches.flatten.length ≤ sent.flatten.length) :
    sent = batches := by
  obtain ⟨rest, rfl⟩ := hinitial
  cases rest with
  | nil => exact (List.append_nil sent).symm
  | cons batch rest =>
    have hpos : 0 < batch.length := by
      refine List.length_pos_of_ne_nil (hne batch ?_)
      exact List.mem_append_right _ List.mem_cons_self
    rw [List.flatten_append, List.length_append, List.flatten_cons, List.length_append] at hlength
    omega

/-! ## The run -/

/-- The approval reference is there and not blank. -/
def CasefileLifecycleRunner.Approved (runner : CasefileLifecycleRunner) : Prop :=
  ∃ ref, runner.governanceApprovalRef = some ref ∧ PyText.isBlank ref = false

/-- The reference the run works with is blank exactly when the configured one is missing or
blank. -/
theorem CasefileLifecycleRunner.isBlank_approvalRef (runner : CasefileLifecycleRunner) :
    PyText.isBlank (runner.approvalRef.getD "") = false ↔ runner.Approved := by
  unfold approvalRef Approved
  split
  · next hnone =>
    refine iff_of_false (by decide) ?_
    rintro ⟨ref, href, -⟩
    cases hnone.symm.trans href
  · next ref href =>
    rw [href]
    split
    · next hempty =>
      refine iff_of_false (by decide) ?_
      rintro ⟨ref', href', hblank⟩
      cases href'
      rw [hempty] at hblank
      cases hblank
    · rw [Option.getD_some, PyText.isBlank_strip]
      constructor
      · intro hblank
        exact ⟨ref, rfl, hblank⟩
      · rintro ⟨ref', href', hblank⟩
        cases href'
        exact hblank

/-- The submitted keys are exactly those that are due, each once, in batches of the size. -/
structure DeletesExactly (inventory : Inventory) (cutoff : Instant) (size : Nat)
    (requests : List (List String)) : Prop where
  /-- the keys -/
  mem_iff : ∀ key, key ∈ requests.flatten ↔ inventory.Due cutoff key
  /-- none is repeated -/
  once : requests.flatten.Nodup
  /-- the batches are not too long -/
  length_le : ∀ batch ∈ requests, batch.length ≤ size

/-- No due key ends with a line feed, and no request raises while keys are left to submit. -/
structure CanDelete (inventory : Inventory) (cutoff : Instant) (size : Nat) (s3 : S3) : Prop where
  /-- the keys are their own stripped ones -/
  plain : ∀ key, inventory.Due cutoff key → key.toList.getLast? ≠ some '\n'
  /-- every request but the last is answered -/
  answered : ∀ n, (n + 1) * size < {key | inventory.Due cutoff key}.ncard → s3.deleteRaises n = none

section Claim

variable {runner : CasefileLifecycleRunner} {s3 : S3} {inventory : Inventory}
  {pages : List (List ObjectSummary)} {fuel : Nat} {now : DateTime} {cutoff : Instant}

variable (cutoff) in
/-- The due keys are as many as are collected. -/
theorem ncard_due {items : List ObjectSummary} (hlisted : inventory.ListedBy items) :
    {key | inventory.Due cutoff key}.ncard =
      (orderedKeys (items.foldl addItem .empty) cutoff).length := by
  have hset : {key | inventory.Due cutoff key} =
      ((orderedKeys (items.foldl addItem .empty) cutoff).toFinset : Set String) := by
    ext key
    rw [Set.mem_ofPred_eq, Finset.mem_coe, List.mem_toFinset, mem_orderedKeys hlisted]
  rw [hset, Set.ncard_coe_finset, List.toFinset_card_of_nodup (nodup_orderedKeys _ _)]

variable (cutoff) in
/-- The batches of the collected keys are batches the client takes. -/
theorem batchOk_chunked {items : List ObjectSummary} (hlisted : inventory.ListedBy items)
    {size : Nat} (hsize : 0 < size ∧ size ≤ 1000) :
    ∀ batch ∈ chunked (orderedKeys (items.foldl addItem .empty) cutoff) size, BatchOk batch := by
  intro batch hbatch
  obtain ⟨hne, hlength⟩ := length_of_mem_chunked hsize.1 hbatch
  refine ⟨hne, hlength.trans hsize.2, fun key hkey => ?_⟩
  have hmem := List.mem_flatten_of_mem hbatch hkey
  rw [flatten_chunked hsize.1] at hmem
  obtain ⟨caseId, t, hholds, -⟩ := (mem_orderedKeys hlisted).mp hmem
  exact ⟨caseId, hholds.2⟩

/-- All batches together, as they are submitted. -/
theorem flatten_submitted {size : Nat} (hsize : 0 < size) (keys : List String) :
    ((chunked keys size).map submitted).flatten = submitted keys := by
  have hmap : (chunked keys size).flatten.map PyText.strip = keys.map PyText.strip := by
    rw [flatten_chunked hsize]
  rw [List.map_flatten] at hmap
  exact hmap

/-- **Safety**: a submitted key is of an expired case. -/
theorem expired_of_submitted {items : List ObjectSummary} (hlisted : inventory.ListedBy items)
    {size : Nat} (hsize : 0 < size ∧ size ≤ 1000) {ref : Option String}
    (href : PyText.isBlank (ref.getD "") = false) {key : String}
    (hkey : key ∈ (deleteAll s3 ref 0
      (chunked (orderedKeys (items.foldl addItem .empty) cutoff) size)).2.flatten) :
    ∃ caseId, extractCaseId key = some caseId ∧ inventory.Expired cutoff caseId := by
  obtain ⟨rest, hrest⟩ := (deleteAll_requests s3 0 href
    (batchOk_chunked cutoff hlisted hsize)).1
  have hflatten := congrArg List.flatten hrest
  rw [flatten_submitted hsize.1, List.flatten_append] at hflatten
  have hmem : key ∈ submitted (orderedKeys (items.foldl addItem .empty) cutoff) :=
    hflatten ▸ List.mem_append_left _ hkey
  obtain ⟨key', hkey', rfl⟩ := List.mem_map.mp hmem
  obtain ⟨caseId, t, hholds, hexpired⟩ := (mem_orderedKeys hlisted).mp hkey'
  exact ⟨caseId, (strip_of_extractCaseId hholds.2).1, hexpired⟩

/-- **Exactness** of the loop over the collected keys. -/
theorem deletesExactly_iff {items : List ObjectSummary} (hlisted : inventory.ListedBy items)
    {size : Nat} (hsize : 0 < size ∧ size ≤ 1000) {ref : Option String}
    (href : PyText.isBlank (ref.getD "") = false) :
    DeletesExactly inventory cutoff size (deleteAll s3 ref 0
        (chunked (orderedKeys (items.foldl addItem .empty) cutoff) size)).2 ↔
      CanDelete inventory cutoff size s3 := by
  have hncard := ncard_due cutoff hlisted
  have hmem : ∀ key, key ∈ orderedKeys (items.foldl addItem .empty) cutoff ↔
      inventory.Due cutoff key := fun key => mem_orderedKeys hlisted
  have hnodup := nodup_orderedKeys (items.foldl addItem .empty) cutoff
  have hok := batchOk_chunked cutoff hlisted hsize
  obtain ⟨hinitial, hfull⟩ := deleteAll_requests s3 0 href hok
  have hflatten := flatten_submitted hsize.1 (orderedKeys (items.foldl addItem .empty) cutoff)
  generalize (deleteAll s3 ref 0
    (chunked (orderedKeys (items.foldl addItem .empty) cutoff) size)).2 = requests at *
  generalize orderedKeys (items.foldl addItem .empty) cutoff = ordered at *
  simp only [Nat.zero_add, succ_lt_length_chunked hsize.1, ← hncard] at hfull
  constructor
  · rintro ⟨hiff, honce, -⟩
    refine ⟨fun key hdue => ?_, hfull.mp ?_⟩
    · -- a submitted key is stripped, so it does not end with whitespace
      obtain ⟨batch, hbatch, hkey⟩ := List.mem_flatten.mp ((hiff key).mpr hdue)
      obtain ⟨batch', -, rfl⟩ := List.mem_map.mp (hinitial.subset hbatch)
      obtain ⟨key', -, rfl⟩ := List.mem_map.mp hkey
      intro hfeed
      have hchars : (PyText.strip key').toList = PyText.stripChars key'.toList :=
        String.toList_ofList
      rw [hchars] at hfeed
      cases PyText.isSpace_of_getLast?_stripChars hfeed
    · -- as many keys are submitted as are due
      refine eq_of_prefix_flatten hinitial ?_ ?_
      · intro batch hbatch
        obtain ⟨batch', hbatch', rfl⟩ := List.mem_map.mp hbatch
        exact fun hnil => (hok batch' hbatch').nonempty (List.map_eq_nil_iff.mp hnil)
      · have hset : {key | inventory.Due cutoff key} = (requests.flatten.toFinset : Set String) := by
          ext key
          rw [Set.mem_ofPred_eq, Finset.mem_coe, List.mem_toFinset, hiff]
        rw [hflatten, submitted, List.length_map, ← hncard, hset, Set.ncard_coe_finset,
          List.toFinset_card_of_nodup honce]
  · rintro ⟨hplain, hanswered⟩
    have hrequests := hfull.mpr hanswered
    have hstrip : submitted ordered = ordered := by
      refine (List.map_congr_left fun key hkey => ?_).trans (List.map_id ordered)
      have hdue := (hmem key).mp hkey
      obtain ⟨caseId, t, hholds, -⟩ := hdue
      exact (strip_of_extractCaseId hholds.2).2.1.mpr (hplain key ((hmem key).mp hkey))
    have hkeys : requests.flatten = ordered := by rw [hrequests, hflatten, hstrip]
    refine ⟨fun key => ?_, ?_, ?_⟩
    · rw [hkeys, hmem]
    · rw [hkeys]
      exact hnodup
    · intro batch hbatch
      rw [hrequests] at hbatch
      obtain ⟨batch', hbatch', rfl⟩ := List.mem_map.mp hbatch
      rw [submitted, List.length_map]
      exact (length_of_mem_chunked hsize.1 hbatch').2

/-- The keys that a run collects from the pages. -/
def collectedKeys (pages : List (List ObjectSummary)) (cutoff : Instant) : List String :=
  orderedKeys (pages.flatten.foldl addItem .empty) cutoff

/-- **The requests of a run** are those of the loop over the batches; a run that is not approved
sends none. -/
theorem runOnce_requests (runner : CasefileLifecycleRunner)
    (hpages : Pages s3.listObjectsPage none pages)
    (hfuel : pages.length ≤ fuel)
    (hcutoff : resolveRetentionCutoff runner.policy runner.appEnv now = .ok cutoff) :
    ∃ answer requests, runner.runOnce s3 fuel now = some (answer, requests) ∧
      (runner.Approved → requests = (deleteAll s3 runner.approvalRef 0
        (chunked (collectedKeys pages cutoff) runner.deleteBatchSize)).2) ∧
      (¬runner.Approved → requests = []) := by
  obtain ⟨t, rfl⟩ : ∃ t, now = .aware t := by
    cases now with
    | aware t => exact ⟨t, rfl⟩
    | naive t =>
      unfold resolveRetentionCutoff at hcutoff
      split at hcutoff
      · cases hcutoff
      · cases hcutoff
  have hscan : (foldPages s3.listObjectsPage Scan.addPage fuel ⟨0, .empty⟩ none) =
      some (pages.foldl Scan.addPage ⟨0, .empty⟩) := foldPages_of_pages hpages hfuel
  have happroved := runner.isBlank_approvalRef
  unfold CasefileLifecycleRunner.runOnce
  simp only [asAwareUtc, Except.ok_bind, hcutoff, hscan, Option.map_some, foldl_addPage]
  split
  · -- keys to delete, and no approval
    next hnone =>
    have hnot : ¬runner.Approved := by
      intro happ
      have hblank := happroved.mpr happ
      rw [hnone.2] at hblank
      cases hblank
    exact ⟨_, _, rfl, fun happ => absurd happ hnot, fun _ => rfl⟩
  · refine ⟨_, _, rfl, fun _ => rfl, fun hnot => ?_⟩
    exact deleteAll_unapproved (Bool.not_eq_false _ ▸ mt happroved.mp hnot)

/-- **The lifecycle run.** Whatever pages list the store: every key that is submitted is of an
expired case; an approved run submits exactly the due keys, each once and in batches of the
size, exactly when none of them ends with a line feed and no request raises before the last;
and a run that is not approved submits nothing. -/
theorem lifecycle_run_exact_iff (hpages : Pages s3.listObjectsPage none pages)
    (hlisted : inventory.ListedBy pages.flatten) (hfuel : pages.length ≤ fuel)
    (hcutoff : resolveRetentionCutoff runner.policy runner.appEnv now = .ok cutoff) :
    ∃ answer requests, runner.runOnce s3 fuel now = some (answer, requests) ∧
      (∀ key ∈ requests.flatten,
        ∃ caseId, extractCaseId key = some caseId ∧ inventory.Expired cutoff caseId) ∧
      (runner.Approved → (DeletesExactly inventory cutoff runner.deleteBatchSize requests ↔
        CanDelete inventory cutoff runner.deleteBatchSize s3)) ∧
      (¬runner.Approved → requests = []) := by
  obtain ⟨answer, requests, hrun, hrequests, hnone⟩ :=
    runOnce_requests runner hpages hfuel hcutoff
  have hsize := runner.deleteBatchSize_ok
  refine ⟨answer, requests, hrun, fun key hkey => ?_, fun happ => ?_, hnone⟩
  · by_cases happ : runner.Approved
    · rw [hrequests happ] at hkey
      exact expired_of_submitted hlisted hsize (runner.isBlank_approvalRef.mpr happ) hkey
    · rw [hnone happ] at hkey
      cases hkey
  · rw [hrequests happ]
    exact deletesExactly_iff hlisted hsize (runner.isBlank_approvalRef.mpr happ)

end Claim

/-! ## Two stores -/

/-- A store that serves the items in two pages, and answers every request. -/
def pagedStore (first second : List ObjectSummary) : S3 where
  listObjectsV2
    | none => ⟨first, some "2"⟩
    | some _ => ⟨second, none⟩
  deleteRaises _ := none
  deleteObjects _ keys := ⟨keys, []⟩

theorem pages_pagedStore (first second : List ObjectSummary) :
    Pages (pagedStore first second).listObjectsPage none [first, second] :=
  .more rfl (.last rfl)

/-- Production, with an approval. -/
def approvedRunner : CasefileLifecycleRunner where
  policy := casefileRetentionPolicyV1
  appEnv := "prod"
  governanceApprovalRef := some "CHG-12345"

/-- Noon on 6 March 2026. -/
def march2026 : DateTime := .aware 1772798400000000

/-- The cutoff it has in production. -/
def february2024 : Instant := 1707220800000000

/-- An old case with a later label, and a fresh case. -/
def agedStore : Inventory :=
  .ofPairs [("cases/case-1/triage.json", 1672531200000000),
    ("cases/case-2/triage.json", 1754006400000000),
    ("cases/case-1/labels.json", 1754006400000000)]

/-- The files of the old case lie on different pages; both are deleted, and no other. -/
theorem lifecycle_run_exact_agedStore :
    ∃ answer requests,
      approvedRunner.runOnce (pagedStore (agedStore.items.take 2) (agedStore.items.drop 2)) 2
        march2026 = some (answer, requests) ∧ DeletesExactly agedStore february2024 500 requests := by
  have hlisted : agedStore.ListedBy
      [agedStore.items.take 2, agedStore.items.drop 2].flatten :=
    Inventory.listedBy_of_perm (by decide +kernel)
  obtain ⟨answer, requests, hrun, -, hexact, -⟩ :=
    @lifecycle_run_exact_iff approvedRunner _ agedStore _ 2 march2026 february2024
      (pages_pagedStore _ _) hlisted (le_refl 2) (by decide +kernel)
  refine ⟨answer, requests, hrun, (hexact ⟨_, rfl, by decide⟩).mpr ⟨?_, fun _ _ => rfl⟩⟩
  have hkeys : ∀ key ∈ orderedKeys ([agedStore.items.take 2, agedStore.items.drop 2].flatten.foldl
      addItem .empty) february2024, key.toList.getLast? ≠ some '\n' := by
    decide +kernel
  exact fun key hdue => hkeys key ((mem_orderedKeys hlisted).mpr hdue)

/-- An object whose key ends with a line feed. -/
def feedStore : Inventory := .ofPairs [("cases/case-1/triage.json\n", 1672531200000000)]

/-- It is due, and another key is submitted in its place. -/
theorem lifecycle_run_misses_line_feed :
    feedStore.Due february2024 "cases/case-1/triage.json\n" ∧
      (approvedRunner.runOnce (pagedStore feedStore.items []) 2 march2026).map Prod.snd =
        some [["cases/case-1/triage.json"]] := by
  have hlisted : feedStore.ListedBy feedStore.items :=
    Inventory.listedBy_of_perm (List.Perm.refl _)
  refine ⟨(mem_orderedKeys hlisted).mp ?_, ?_⟩
  · decide +kernel
  · decide +kernel

end AiopsTriage
