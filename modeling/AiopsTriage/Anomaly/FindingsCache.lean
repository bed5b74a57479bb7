import AiopsTriage.Anomaly.Detect
import AiopsTriage.Gating.Evaluate
import AiopsTriage.Lib.ReadThrough
import AiopsTriage.Lib.Segments
import Mathlib

/-!
# The findings cache

The findings of a scope are cached for one scheduler interval, under a key that joins the
parts of the scope and the start of the interval with bars. What is read back is what was
written (`deserializeFindings_serializeFindings`), expiry and errors only mean that the
findings are computed again, and no key has the legacy form.

So the cache cannot be noticed as long as every key belongs to one scope
(`findings_cache_transparent`): two scopes of an interval whose parts, joined with bars,
are the same text share the findings of the first one that is looked at.
-/

namespace AiopsTriage

open Json

/-! ## The cache -/

/-- A value in the cache, with the instant it expires at. The text of the value stands as the
tree it spells. -/
structure CachedPayload where
  /-- the value -/
  payload : Json
  /-- when it expires -/
  expiresAt : Instant

/-- What the cache holds. -/
abbrev FindingsCache := Dict String CachedPayload

/-- The time at the cache when a scope is looked up and stored. -/
structure CacheClock where
  /-- at the lookup -/
  readAt : Instant
  /-- at the lookup under the legacy key -/
  legacyReadAt : Instant
  /-- at the write -/
  writtenAt : Instant

/-- `GET`. -/
def FindingsCache.read (cache : FindingsCache) (now : Instant) (key : String) : Option Json :=
  match cache.get? key with
  | some held => if now < held.expiresAt then some held.payload else none
  | none => none

/-- `SET` with `EX`, which refuses a time to live that is not positive. -/
def FindingsCache.write (cache : FindingsCache) (now : Instant) (key : String) (value : Json)
    (ex : Int) : Except Failure FindingsCache :=
  if 0 < ex then .ok (cache.set key ⟨value, now + ex * 1000000⟩)
  else .error (.clientError "invalid expire time in 'set' command")

/-! ## Times to live -/

/-- `RedisTtlsByEnv`, as far as the cache reads it. -/
structure RedisTtlsByEnv where
  /-- for evidence windows, and for findings -/
  evidenceWindowSeconds : Int

/-- `RedisTtlPolicyV1`. -/
structure RedisTtlPolicyV1 where
  /-- by environment -/
  ttlsByEnv : Dict String RedisTtlsByEnv
  /-- `_require_all_envs` -/
  all_envs : ∀ env ∈ ["local", "dev", "uat", "prod"], (ttlsByEnv.get? env).isSome

/-- `evidence_window_ttl_seconds`, which `interval_findings_ttl_seconds` returns: an unknown
environment gets the shortest of all. -/
def evidenceWindowTtlSeconds (env : String) (redisTtlPolicy : RedisTtlPolicyV1) : Int :=
  match redisTtlPolicy.ttlsByEnv.get? env with
  | some ttls => ttls.evidenceWindowSeconds
  | none =>
    ((redisTtlPolicy.ttlsByEnv.entries.map fun e => e.2.evidenceWindowSeconds).min?).getD 0

/-! ## Keys -/

/-- `_interval_bucket_epoch_seconds`. -/
def intervalBucketEpochSeconds (evaluationTime : Instant) (intervalSeconds : Int) :
    Except Failure Int :=
  if intervalSeconds ≤ 0 then
    .error (.valueError s!"interval_seconds must be > 0, got: {intervalSeconds}")
  else
    let unixSeconds := evaluationTime.tdiv 1000000
    .ok (unixSeconds - unixSeconds % intervalSeconds)

/-- The check on the scope of a key. -/
def requireScope (scope : Scope) : Except Failure Unit :=
  raiseIf (scope.length < 3) (.valueError
    s!"scope must include at least (env, cluster_id, topic), got: {reprTuple scope}")

/-- `build_interval_findings_cache_key`. -/
def buildIntervalFindingsCacheKey (scope : Scope) (evaluationTime : Instant)
    (intervalSeconds : Int := 300) : Except Failure String := do
  requireScope scope
  let bucketStartEpoch ← intervalBucketEpochSeconds evaluationTime intervalSeconds
  let scopeKey := PyText.join "|" scope
  return s!"evidence:findings|{scopeKey}|{bucketStartEpoch}"

/-- `build_legacy_interval_findings_cache_key`. -/
def buildLegacyIntervalFindingsCacheKey (scope : Scope) (evaluationTime : Instant)
    (intervalSeconds : Int := 300) : Except Failure String := do
  requireScope scope
  let bucketStartEpoch ← intervalBucketEpochSeconds evaluationTime intervalSeconds
  let scopeKey := PyText.join "|" scope
  let env := scope.getD 0 ""
  let clusterId := scope.getD 1 ""
  return s!"evidence:findings:{env}|{clusterId}|{scopeKey}|{bucketStartEpoch}"

/-! ## Findings as a payload -/

/-- `_serialize_findings`. -/
def serializeFindings (findings : List DetectedFinding) : Json :=
  .arr (findings.map DetectedFinding.dump)

/-- `_deserialize_findings`. -/
def deserializeFindings : Json → Except Failure (List DetectedFinding)
  | .arr decoded =>
    match Codec.decItems DetectedFinding.validate decoded with
    | .ok findings => .ok findings
    | .error path => .error (.validationError "AnomalyFinding" path)
  | _ => .error (.valueError "cached findings payload must be a JSON list")

/-- What is read back is what was written. -/
theorem deserializeFindings_serializeFindings (findings : List DetectedFinding) :
    deserializeFindings (serializeFindings findings) = .ok findings := by
  rw [serializeFindings, deserializeFindings,
    Codec.decItems_map DetectedFinding.validate_dump findings]

/-! ## Read-through -/

/-- What is held for a scope, under its key or else under its legacy key. -/
def readRaw (cache : FindingsCache) (clock : CacheClock) (scope : Scope) (evaluationTime : Instant)
    (key : String) : Except Failure (Option Json) :=
  match cache.read clock.readAt key with
  | some payload => .ok (some payload)
  | none => do
    let legacyKey ← buildLegacyIntervalFindingsCacheKey scope evaluationTime
    return cache.read clock.legacyReadAt legacyKey

/-- `get_interval_findings`. -/
def getIntervalFindings (cache : FindingsCache) (clock : CacheClock) (scope : Scope)
    (evaluationTime : Instant) : Except Failure (Option (List DetectedFinding)) := do
  let key ← buildIntervalFindingsCacheKey scope evaluationTime
  match ← readRaw cache clock scope evaluationTime key with
  | none => return none
  | some payload => return some (← deserializeFindings payload)

/-- `set_interval_findings`. -/
def setIntervalFindings (cache : FindingsCache) (clock : CacheClock) (scope : Scope) (env : String)
    (evaluationTime : Instant) (findings : List DetectedFinding)
    (redisTtlPolicy : RedisTtlPolicyV1) : Except Failure FindingsCache := do
  let ttl := evidenceWindowTtlSeconds env redisTtlPolicy
  let key ← buildIntervalFindingsCacheKey scope evaluationTime
  cache.write clock.writtenAt key (serializeFindings findings) ttl

/-- `get_or_compute_interval_findings`: errors of the cache are logged and no more. -/
def getOrComputeIntervalFindings (cache : FindingsCache) (clock : CacheClock) (scope : Scope)
    (evaluationTime : Instant) (redisTtlPolicy : RedisTtlPolicyV1)
    (computeFindings : Unit → List DetectedFinding) : List DetectedFinding × FindingsCache :=
  match getIntervalFindings cache clock scope evaluationTime with
  | .ok (some cached) => (cached, cache)
  | _ =>
    let computed := computeFindings ()
    let stored : Except Failure FindingsCache :=
      match scope with
      | [] => .error (.indexError "tuple index out of range")
      | env :: _ =>
        setIntervalFindings cache clock scope env evaluationTime computed redisTtlPolicy
    match stored with
    | .ok cache => (computed, cache)
    | .error _ => (computed, cache)

section Detection

variable [FloatArithmetic]

/-- The findings of a scope of the rows. -/
def computedFindings (rows : List EvidenceRow) (scope : Scope) : List DetectedFinding :=
  computeScopeFindings scope (((metricsByScope rows).get? scope).getD .empty)

/-- The scopes of the rows, in order. -/
def scopesOf (rows : List EvidenceRow) : List Scope :=
  (metricsByScope rows).keys.insertionSort (· ≤ ·)

/-- The loop of `detect_anomaly_findings` with a cache. -/
def detectCached (rows : List EvidenceRow) (clocks : Scope → CacheClock)
    (redisTtlPolicy : RedisTtlPolicyV1) (evaluationTime : Instant) :
    List Scope → FindingsCache → List DetectedFinding × FindingsCache
  | [], cache => ([], cache)
  | scope :: scopes, cache =>
    let (found, cache) := getOrComputeIntervalFindings cache (clocks scope) scope evaluationTime
      redisTtlPolicy fun _ => computedFindings rows scope
    let (others, cache) := detectCached rows clocks redisTtlPolicy evaluationTime scopes cache
    (found ++ others, cache)

/-- `detect_anomaly_findings`: the cache is used if its client, the policy and the evaluation
time are all there. The client is given by the clock of the cache. -/
def detectAnomalyFindings (rows : List EvidenceRow)
    (findingsCacheClient : Option (Scope → CacheClock)) (redisTtlPolicy : Option RedisTtlPolicyV1)
    (evaluationTime : Option Instant) (cache : FindingsCache) :
    AnomalyDetectionResult × FindingsCache :=
  match findingsCacheClient, redisTtlPolicy, evaluationTime with
  | some clocks, some policy, some t =>
    let (findings, cache) := detectCached rows clocks policy t (scopesOf rows) cache
    (⟨findings⟩, cache)
  | _, _, _ => (⟨(scopesOf rows).flatMap (computedFindings rows)⟩, cache)

end Detection

/-! ## Keys of scopes -/

/-- The start of the interval of a time. -/
def intervalStart (t : Instant) : Int := t.tdiv 1000000 - t.tdiv 1000000 % 300

/-- The key of a scope in an interval. -/
def findingsKey (scope : Scope) (bucket : Int) : String :=
  PyText.join "|" ("evidence:findings" :: (scope ++ [toString bucket]))

theorem join_append_singleton {sep x : String} {xs : List String} (h : xs ≠ []) :
    PyText.join sep (xs ++ [x]) = PyText.join sep xs ++ sep ++ x := by
  induction xs with
  | nil => exact absurd rfl h
  | cons y ys ih =>
    cases ys with
    | nil => rfl
    | cons z zs =>
      rw [List.cons_append, List.cons_append, PyText.join, ← List.cons_append,
        ih (List.cons_ne_nil z zs), PyText.join]
      simp only [String.append_assoc]

theorem join_cons {sep x : String} {xs : List String} (h : xs ≠ []) :
    PyText.join sep (x :: xs) = x ++ sep ++ PyText.join sep xs := by
  cases xs with
  | nil => exact absurd rfl h
  | cons y ys => rfl

/-- A scope with three parts or more has a key. -/
theorem buildIntervalFindingsCacheKey_eq {scope : Scope} (h : 3 ≤ scope.length) (t : Instant) :
    buildIntervalFindingsCacheKey scope t = .ok (findingsKey scope (intervalStart t)) := by
  have hscope : requireScope scope = .ok () := raiseIf_eq_ok.mpr (by omega)
  have hbucket : intervalBucketEpochSeconds t 300 = .ok (intervalStart t) := if_neg (by decide)
  have hne : scope ≠ [] := by
    rintro rfl
    simp at h
  rw [buildIntervalFindingsCacheKey, hscope, Except.ok_bind, hbucket, Except.ok_bind, findingsKey,
    join_cons (List.append_ne_nil_of_left_ne_nil hne _), join_append_singleton hne]
  have hbar : ("evidence:findings|" : String) = "evidence:findings" ++ "|" := by decide
  simp only [pure, Except.pure, toString, hbar, String.append_assoc]

/-- No number has a bar in it. -/
theorem bar_notMem_toString (n : Int) : '|' ∉ (toString n).toList := by
  have hdigits : ∀ m : Nat, '|' ∉ m.repr.toList := by
    intro m hmem
    rw [Nat.repr, String.toList_ofList] at hmem
    exact absurd (Nat.isDigit_of_mem_toDigits (by decide) (by decide) hmem) (by decide)
  rw [Int.toString_eq_repr]
  cases n with
  | ofNat m => exact hdigits m
  | negSucc m =>
    rw [Int.repr, String.toList_append, List.mem_append, not_or]
    exact ⟨by decide, hdigits _⟩

/-- **Keys**: two keys are the same exactly when the intervals are and the parts of the scopes,
joined with bars, are the same text. -/
theorem findingsKey_eq_iff {scope scope' : Scope} {n n' : Int} (h : scope ≠ []) (h' : scope' ≠ []) :
    findingsKey scope n = findingsKey scope' n' ↔
      n = n' ∧ PyText.join "|" scope = PyText.join "|" scope' := by
  have hbar : ("|" : String) = String.singleton '|' := rfl
  have hsplit : ∀ m : Int, Segments.split '|' (toString m) = [(toString m).toList] := fun m =>
    Segments.split_of_notMem (bar_notMem_toString m)
  rw [findingsKey, findingsKey, hbar,
    Segments.join_eq_join_iff (by simp) (by simp), Segments.join_eq_join_iff h h',
    List.flatMap_cons, List.flatMap_cons, List.append_cancel_left_eq,
    List.flatMap_append, List.flatMap_append, List.flatMap_singleton, List.flatMap_singleton,
    hsplit, hsplit]
  constructor
  · intro heq
    obtain ⟨hparts, hlast⟩ := List.append_inj' heq rfl
    refine ⟨Int.repr_injective ?_, hparts⟩
    exact String.toList_inj.mp (List.singleton_inj.mp hlast)
  · rintro ⟨rfl, hparts⟩
    rw [hparts]

/-- A key never has the legacy form. -/
theorem legacy_ne_findingsKey {scope : Scope} {t : Instant} {legacyKey : String}
    (h : buildLegacyIntervalFindingsCacheKey scope t = .ok legacyKey) (scope' : Scope) (n : Int) :
    legacyKey ≠ findingsKey scope' n := by
  obtain ⟨_, -, h⟩ := Except.bind_eq_ok.mp h
  obtain ⟨bucket, -, h⟩ := Except.bind_eq_ok.mp h
  rw [Except.pure_eq_ok] at h
  intro heq
  have hchars := congrArg String.toList (h.trans heq)
  rw [findingsKey, join_cons (by simp)] at hchars
  have hcolon : "evidence:findings:".toList = "evidence:findings".toList ++ [':'] := by decide
  simp only [toString, String.append_assoc, String.toList_append, hcolon, List.append_assoc] at hchars
  -- a colon where the key has a bar
  have hmark := (List.cons.inj (List.append_cancel_left hchars)).1
  exact absurd hmark (by decide)

/-! ## What the cache holds -/

/-- The findings that are held at a key, expired or not. -/
def Holds (cache : FindingsCache) (key : String) (findings : List DetectedFinding) : Prop :=
  ∃ held, cache.get? key = some held ∧ deserializeFindings held.payload = .ok findings

theorem holds_of_read {cache : FindingsCache} {now : Instant} {key : String} {payload : Json}
    {findings : List DetectedFinding} (hread : cache.read now key = some payload)
    (hpayload : deserializeFindings payload = .ok findings) : Holds cache key findings := by
  unfold FindingsCache.read at hread
  split at hread
  · next held hheld =>
    obtain ⟨-, hpayload'⟩ := Option.ite_none_right_eq_some.mp hread
    cases hpayload'
    exact ⟨held, hheld, hpayload⟩
  · cases hread

/-- A short scope has no key. -/
theorem length_of_key {scope : Scope} {t : Instant} {key : String}
    (h : buildIntervalFindingsCacheKey scope t = .ok key) : 3 ≤ scope.length := by
  obtain ⟨_, hscope, -⟩ := Except.bind_eq_ok.mp h
  exact not_lt.mp (raiseIf_eq_ok.mp hscope)

/-- What is read for a scope is held at its key, or at a legacy one. -/
theorem getIntervalFindings_holds {cache : FindingsCache} {clock : CacheClock} {scope : Scope}
    {t : Instant} {findings : List DetectedFinding}
    (h : getIntervalFindings cache clock scope t = .ok (some findings)) :
    3 ≤ scope.length ∧ (Holds cache (findingsKey scope (intervalStart t)) findings ∨
      ∃ legacyKey, buildLegacyIntervalFindingsCacheKey scope t = .ok legacyKey ∧
        Holds cache legacyKey findings) := by
  obtain ⟨key, hkey, h⟩ := Except.bind_eq_ok.mp h
  have hlength := length_of_key hkey
  obtain rfl := Except.ok.inj ((buildIntervalFindingsCacheKey_eq hlength t).symm.trans hkey)
  refine ⟨hlength, ?_⟩
  obtain ⟨raw, hraw, h⟩ := Except.bind_eq_ok.mp h
  cases raw with
  | none => cases h
  | some payload =>
    obtain ⟨decoded, hdecoded, h⟩ := Except.bind_eq_ok.mp h
    cases h
    unfold readRaw at hraw
    split at hraw
    · next found hfound =>
      cases hraw
      exact .inl (holds_of_read hfound hdecoded)
    · obtain ⟨legacyKey, hlegacy, hraw⟩ := Except.bind_eq_ok.mp hraw
      exact .inr ⟨legacyKey, hlegacy, holds_of_read (Except.pure_eq_ok.mp hraw) hdecoded⟩

/-- What is stored for a scope is held at its key, and nothing else is new. -/
theorem setIntervalFindings_holds {cache cache' : FindingsCache} {clock : CacheClock}
    {scope : Scope} {env : String} {t : Instant} {findings : List DetectedFinding}
    {policy : RedisTtlPolicyV1}
    (h : setIntervalFindings cache clock scope env t findings policy = .ok cache') :
    3 ≤ scope.length ∧ ∀ key fs, Holds cache' key fs →
      Holds cache key fs ∨ (key = findingsKey scope (intervalStart t) ∧ fs = findings) := by
  obtain ⟨key, hkey, h⟩ := Except.bind_eq_ok.mp h
  have hlength := length_of_key hkey
  obtain rfl := Except.ok.inj ((buildIntervalFindingsCacheKey_eq hlength t).symm.trans hkey)
  refine ⟨hlength, ?_⟩
  rintro k fs ⟨held, hheld, hfs⟩
  unfold FindingsCache.write at h
  split at h
  · cases h
    rw [Dict.get?_set] at hheld
    split at hheld
    · next hk =>
      cases hheld
      rw [deserializeFindings_serializeFindings] at hfs
      exact .inr ⟨hk.symm, (Except.ok.inj hfs).symm⟩
    · exact .inl ⟨held, hheld, hfs⟩
  · cases h

/-! ## Calls -/

section Calls

variable [FloatArithmetic]

/-- A call of `detect_anomaly_findings`. -/
structure DetectCall where
  /-- the rows -/
  rows : List EvidenceRow
  /-- the clock of the cache -/
  clocks : Scope → CacheClock
  /-- the policy -/
  redisTtlPolicy : RedisTtlPolicyV1
  /-- the evaluation time -/
  evaluationTime : Instant

namespace DetectCall

/-- The call with a cache. -/
def withCache (c : DetectCall) (cache : FindingsCache) : AnomalyDetectionResult × FindingsCache :=
  detectAnomalyFindings c.rows (some c.clocks) (some c.redisTtlPolicy) (some c.evaluationTime) cache

/-- The call without one. -/
def withoutCache (c : DetectCall) : AnomalyDetectionResult :=
  (detectAnomalyFindings c.rows none (some c.redisTtlPolicy) (some c.evaluationTime) .empty).1

/-- The start of its interval. -/
def bucket (c : DetectCall) : Int := intervalStart c.evaluationTime

end DetectCall

/-- Calls that share a cache, one after the other. -/
def runWithCache : List DetectCall → FindingsCache → List AnomalyDetectionResult × FindingsCache
  | [], cache => ([], cache)
  | c :: calls, cache =>
    let (result, cache) := c.withCache cache
    let (results, cache) := runWithCache calls cache
    (result :: results, cache)

/-- The samples of a scope do not change within an interval. -/
def RowsKept (calls : List DetectCall) : Prop :=
  ∀ c ∈ calls, ∀ c' ∈ calls, c.bucket = c'.bucket → ∀ scope, scope ∈ scopesOf c.rows →
    scope ∈ scopesOf c'.rows → samplesOf c.rows scope = samplesOf c'.rows scope

/-- No two scopes of an interval have the same parts joined with bars. -/
def NamesApart (calls : List DetectCall) : Prop :=
  ∀ c ∈ calls, ∀ c' ∈ calls, c.bucket = c'.bucket → ∀ scope ∈ scopesOf c.rows,
    ∀ scope' ∈ scopesOf c'.rows, 3 ≤ scope.length → 3 ≤ scope'.length →
      PyText.join "|" scope = PyText.join "|" scope' → scope = scope'

/-- A scope of a call. -/
abbrev ScopeRequest := DetectCall × Scope

/-- Its key. -/
def requestKey (r : ScopeRequest) : String := findingsKey r.2 r.1.bucket

/-- Its findings. -/
def requestFindings (r : ScopeRequest) : List DetectedFinding := computedFindings r.1.rows r.2

/-- Scopes of the calls that are cached. -/
def Cacheable (calls : List DetectCall) (r : ScopeRequest) : Prop :=
  r.1 ∈ calls ∧ r.2 ∈ scopesOf r.1.rows ∧ 3 ≤ r.2.length

variable {calls : List DetectCall}

/-- The findings of a scope depend on its samples only. -/
theorem computedFindings_congr {rows rows' : List EvidenceRow} {scope : Scope}
    (h : samplesOf rows scope = samplesOf rows' scope) :
    computedFindings rows scope = computedFindings rows' scope := by
  rw [computedFindings, computedFindings, get?_metricsByScope, get?_metricsByScope, h]

/-- Scopes with the same key have the same findings. -/
theorem consistent_of_apart (hrows : RowsKept calls) (hnames : NamesApart calls) :
    ReadThrough.Consistent requestKey requestFindings (Cacheable calls) := by
  rintro ⟨c, scope⟩ ⟨c', scope'⟩ ⟨hc, hscope, hlength⟩ ⟨hc', hscope', hlength'⟩ hkey
  simp only at hc hscope hlength hc' hscope' hlength'
  have hne : scope ≠ [] := List.ne_nil_of_length_pos (Nat.lt_of_lt_of_le (by decide) hlength)
  have hne' : scope' ≠ [] := List.ne_nil_of_length_pos (Nat.lt_of_lt_of_le (by decide) hlength')
  obtain ⟨hbucket, hjoin⟩ := (findingsKey_eq_iff hne hne').mp hkey
  obtain rfl := hnames c hc c' hc' hbucket scope hscope scope' hscope' hlength hlength' hjoin
  exact computedFindings_congr (hrows c hc c' hc' hbucket scope hscope hscope')

/-- Looking a scope up is one request to the cache. -/
theorem getOrCompute_step {c : DetectCall} {scope : Scope} {cache : FindingsCache} (hc : c ∈ calls)
    (hscope : scope ∈ scopesOf c.rows)
    (hsound : ReadThrough.Sound requestKey requestFindings (Cacheable calls) (Holds cache)) :
    ReadThrough.Step requestKey requestFindings (Cacheable calls) (Holds cache) (c, scope)
      (getOrComputeIntervalFindings cache (c.clocks scope) scope c.evaluationTime c.redisTtlPolicy
        fun _ => computedFindings c.rows scope).1
      (Holds (getOrComputeIntervalFindings cache (c.clocks scope) scope c.evaluationTime
        c.redisTtlPolicy fun _ => computedFindings c.rows scope).2) := by
  unfold getOrComputeIntervalFindings
  split
  · -- the findings are in the cache
    next cached hget =>
    obtain ⟨hlength, hheld | ⟨legacyKey, hlegacy, hheld⟩⟩ := getIntervalFindings_holds hget
    · exact .hit ⟨hc, hscope, hlength⟩ hheld fun _ _ => id
    · obtain ⟨r, -, hkey, -⟩ := hsound _ _ hheld
      exact absurd hkey.symm (legacy_ne_findingsKey hlegacy _ _)
  · -- they are computed, and stored if the cache takes them
    simp only
    split
    · next cache' hstored =>
      split at hstored
      · cases hstored
      · obtain ⟨hlength, hheld⟩ := setIntervalFindings_holds hstored
        exact .miss ⟨hc, hscope, hlength⟩ hheld
    · exact .bypass fun _ _ => id

/-- A call is a run of requests. -/
theorem detectCached_run {c : DetectCall} {scopes : List Scope} {cache : FindingsCache}
    (hc : c ∈ calls) (hscopes : ∀ scope ∈ scopes, scope ∈ scopesOf c.rows)
    (hsound : ReadThrough.Sound requestKey requestFindings (Cacheable calls) (Holds cache)) :
    ∃ answers, ReadThrough.Run requestKey requestFindings (Cacheable calls) (Holds cache)
        (scopes.map (c, ·)) answers
        (Holds (detectCached c.rows c.clocks c.redisTtlPolicy c.evaluationTime scopes cache).2) ∧
      (detectCached c.rows c.clocks c.redisTtlPolicy c.evaluationTime scopes cache).1 =
        answers.flatten := by
  induction scopes generalizing cache with
  | nil => exact ⟨[], .nil, rfl⟩
  | cons scope scopes ih =>
    have hstep := getOrCompute_step hc (hscopes scope List.mem_cons_self) hsound
    obtain ⟨answers, hrun, hanswers⟩ :=
      ih (fun s hs => hscopes s (List.mem_cons_of_mem _ hs)) (hstep.sound hsound)
    exact ⟨_ :: answers, .cons hstep hrun, congrArg (_ ++ ·) hanswers⟩

/-- One call: with a sound cache it finds what it finds without, and leaves the cache sound. -/
theorem withCache_eq {c : DetectCall} {cache : FindingsCache} (hc : c ∈ calls)
    (hconsistent : ReadThrough.Consistent requestKey requestFindings (Cacheable calls))
    (hsound : ReadThrough.Sound requestKey requestFindings (Cacheable calls) (Holds cache)) :
    (c.withCache cache).1 = c.withoutCache ∧
      ReadThrough.Sound requestKey requestFindings (Cacheable calls) (Holds (c.withCache cache).2) := by
  obtain ⟨answers, hrun, hanswers⟩ := detectCached_run hc (fun _ => id) hsound
  obtain ⟨rfl, hsound'⟩ := hrun.answers hsound hconsistent
  refine ⟨?_, hsound'⟩
  refine congrArg AnomalyDetectionResult.mk (hanswers.trans ?_)
  rw [List.map_map, ← List.flatMap_def]
  rfl

/-- The cache stays sound over a whole run. -/
theorem runWithCache_eq {cs : List DetectCall} {cache : FindingsCache} (hcs : ∀ c ∈ cs, c ∈ calls)
    (hconsistent : ReadThrough.Consistent requestKey requestFindings (Cacheable calls))
    (hsound : ReadThrough.Sound requestKey requestFindings (Cacheable calls) (Holds cache)) :
    (runWithCache cs cache).1 = cs.map DetectCall.withoutCache := by
  induction cs generalizing cache with
  | nil => rfl
  | cons c cs ih =>
    obtain ⟨hresult, hsound'⟩ := withCache_eq (hcs c List.mem_cons_self) hconsistent hsound
    have hrest := ih (fun c' hc' => hcs c' (List.mem_cons_of_mem _ hc')) hsound'
    exact congrArg₂ List.cons hresult hrest

/-- **Transparency of the findings cache**: where the samples of a scope do not change within an
interval and no two scopes of it have the same parts joined with bars, every call finds with the
cache what it finds without it. -/
theorem findings_cache_transparent (hrows : RowsKept calls) (hnames : NamesApart calls) :
    (runWithCache calls .empty).1 = calls.map DetectCall.withoutCache :=
  runWithCache_eq (fun _ => id) (consistent_of_apart hrows hnames)
    (ReadThrough.sound_nothing fun _ _ ⟨_, hheld, _⟩ => by cases hheld)

end Calls

/-! ## A bar in a name -/

/-- Arithmetic that needs no rounding. -/
abbrev exactArithmetic : FloatArithmetic where
  sub
    | .finite p, .finite q => .finite (p - q)
    | _, _ => .nan
  div
    | .finite p, .finite q => .finite (p / q)
    | _, _ => .nan

/-- Ten minutes in every environment. -/
def tenMinutes : RedisTtlPolicyV1 where
  ttlsByEnv := .ofPairs [("local", ⟨600⟩), ("dev", ⟨600⟩), ("uat", ⟨600⟩), ("prod", ⟨600⟩)]
  all_envs := by decide +kernel

/-- A consumer group that falls behind. -/
def laggingGroup : List EvidenceRow :=
  [⟨"consumer_group_lag", .finite 500, .empty, ["prod", "eu", "west", "orders"]⟩,
    ⟨"consumer_group_offset", .finite 0, .empty, ["prod", "eu", "west", "orders"]⟩]

/-- A quiet topic, in a cluster with a bar in its name. -/
def quietTopic : List EvidenceRow :=
  [⟨"topic_messages_in_per_sec", .finite 5, .empty, ["prod", "eu|west", "orders"]⟩]

/-- A call on some rows. -/
def callOn (rows : List EvidenceRow) (evaluationTime : Instant) : DetectCall where
  rows
  clocks _ := ⟨evaluationTime, evaluationTime, evaluationTime⟩
  redisTtlPolicy := tenMinutes
  evaluationTime

theorem findings_cache_transparent_lagging :
    let := exactArithmetic
    (runWithCache [callOn laggingGroup 0, callOn laggingGroup 60000000] .empty).1 =
      [(callOn laggingGroup 0).withoutCache, (callOn laggingGroup 60000000).withoutCache] := by
  let := exactArithmetic
  have hrows : ∀ c ∈ [callOn laggingGroup 0, callOn laggingGroup 60000000],
      c.rows = laggingGroup := by
    intro c hc
    rcases List.mem_pair.mp hc with rfl | rfl <;> rfl
  have hscopes : scopesOf laggingGroup = [["prod", "eu", "west", "orders"]] := by decide +kernel
  refine findings_cache_transparent ?_ ?_
  · intro c hc c' hc' _ scope _ _
    rw [hrows c hc, hrows c' hc']
  · intro c hc c' hc' _ scope hscope scope' hscope' _ _ _
    rw [hrows c hc, hscopes, List.mem_singleton] at hscope
    rw [hrows c' hc', hscopes, List.mem_singleton] at hscope'
    rw [hscope, hscope']

/-- The quiet topic is given the lag of the group. -/
theorem quiet_topic_lags :
    let := exactArithmetic
    RowsKept [callOn (laggingGroup ++ quietTopic) 0] ∧
      (runWithCache [callOn (laggingGroup ++ quietTopic) 0] .empty).1.map
          (fun result => result.findings.map fun finding => finding.findingId) =
        [["CONSUMER_LAG:prod|eu|west|orders", "CONSUMER_LAG:prod|eu|west|orders"]] ∧
      (callOn (laggingGroup ++ quietTopic) 0).withoutCache.findings.map
          (fun finding => finding.findingId) = ["CONSUMER_LAG:prod|eu|west|orders"] := by
  let := exactArithmetic
  refine ⟨?_, by decide +kernel, by decide +kernel⟩
  intro c hc c' hc' _ scope _ _
  rw [List.mem_singleton.mp hc, List.mem_singleton.mp hc']

end AiopsTriage
