import AiopsTriage.CaseFile.Assembly
import AiopsTriage.CaseFile.Chain
import AiopsTriage.Gating.Version1

/-!
# Keys as the lifecycle run reads them

The writer puts a stage file under `cases/{case_id}/{stage}.json` for any case id that is not
blank. The lifecycle run finds the cases of a store by matching keys against
`^cases/([^/]+)/([A-Za-z0-9_-]+)\.json$`, in which a case id has no slash. The two agree exactly
on the case ids without one (`written_key_recognised_iff`): a file of any other case is never
deleted. The id that is derived for a case has the cluster and the topic in it, as they are.
-/

namespace AiopsTriage

/-! ## Writing -/

/-- The canonical stage names, in their order. -/
def canonicalCasefileStageNames : List CaseFileStageName :=
  [.triage, .diagnosis, .linkage, .labels]

section Writing

variable [Platform]

/-- `_normalize_stage_name`. -/
def normalizeStageName (stage : String) : Except Failure CaseFileStageName :=
  let normalizedStage := Platform.lower (PyText.strip stage)
  match canonicalCasefileStageNames.find? (·.value = normalizedStage) with
  | some name => .ok name
  | none => .error (.valueError
      (s!"Unsupported casefile stage '{stage}'. Expected one of " ++
        PyText.join ", " (canonicalCasefileStageNames.map (·.value))))

/-- `build_casefile_stage_object_key`, for any text as stage. -/
def buildStageObjectKey (caseId stage : String) : Except Failure String :=
  if PyText.isBlank caseId then .error (.valueError "case_id must not be empty")
  else do
    let stageName ← normalizeStageName stage
    return stageKey caseId stageName

/-- A name that is returned is the normalised text. -/
theorem normalizeStageName_ok {stage : String} {name : CaseFileStageName}
    (h : normalizeStageName stage = .ok name) :
    name.value = Platform.lower (PyText.strip stage) := by
  unfold normalizeStageName at h
  simp only at h
  split at h
  · next found hfound =>
    cases h
    have hvalue := List.find?_some hfound
    exact of_decide_eq_true hvalue
  · cases h

/-- A canonical name is its own normal form. -/
theorem normalizeStageName_value (name : CaseFileStageName) :
    normalizeStageName name.value = .ok name := by
  have hlower : Platform.lower (PyText.strip name.value) = name.value := by
    rw [Platform.lower_ascii _ (by cases name <;> decide)]
    cases name <;> decide +kernel
  rw [normalizeStageName, hlower]
  cases name <;> rfl

/-- On a canonical name the two writers of keys agree. -/
theorem buildStageObjectKey_value (caseId : String) (name : CaseFileStageName) :
    buildStageObjectKey caseId name.value = buildCasefileStageObjectKey caseId name := by
  rw [buildStageObjectKey, buildCasefileStageObjectKey, normalizeStageName_value]
  rfl

/-- A key that is returned is that of a named case and a canonical stage. -/
theorem buildStageObjectKey_ok {caseId stage key : String}
    (h : buildStageObjectKey caseId stage = .ok key) :
    PyText.isBlank caseId = false ∧
      ∃ name, normalizeStageName stage = .ok name ∧ key = stageKey caseId name := by
  unfold buildStageObjectKey at h
  split at h
  · cases h
  · next hnamed =>
    obtain ⟨name, hname, h⟩ := Except.bind_eq_ok.mp h
    cases h
    exact ⟨Bool.eq_false_iff.mpr hnamed, name, hname, rfl⟩

end Writing

/-! ## Reading -/

/-- `[A-Za-z0-9_-]`. -/
def isStageChar (c : Char) : Bool :=
  ('A' ≤ c && c ≤ 'Z') || ('a' ≤ c && c ≤ 'z') || ('0' ≤ c && c ≤ '9') || c == '_' || c == '-'

/-- The two texts that `\.json$` matches to the end of: the dollar also matches before a last
line feed. -/
def keyEndings : List (List Char) := [".json".toList, ".json\n".toList]

/-- `_extract_case_id`: both repetitions of the pattern stop at a character they cannot take, so
a match is found without going back. -/
def extractCaseId (key : String) : Option String :=
  if "cases/".toList.isPrefixOf key.toList then
    let rest := key.toList.drop 6
    let caseId := rest.takeWhile (· ≠ '/')
    let afterSlash := (rest.dropWhile (· ≠ '/')).drop 1
    let stage := afterSlash.takeWhile isStageChar
    let ending := afterSlash.dropWhile isStageChar
    if caseId ≠ [] ∧ stage ≠ [] ∧ ending ∈ keyEndings then some (String.ofList caseId) else none
  else none

/-- The pattern itself: `key` is `cases/`, the case id, a slash, the stage and the ending. -/
structure KeyMatch (key : String) (caseId : String) (stage ending : List Char) : Prop where
  /-- the parts, in their order -/
  text : key.toList = "cases/".toList ++ (caseId.toList ++ '/' :: (stage ++ ending))
  /-- `[^/]+` takes a character -/
  caseId_ne : caseId.toList ≠ []
  /-- `[^/]+` takes no slash -/
  caseId_ok : '/' ∉ caseId.toList
  /-- `[A-Za-z0-9_-]+` takes a character -/
  stage_ne : stage ≠ []
  /-- `[A-Za-z0-9_-]+` takes these only -/
  stage_ok : ∀ c ∈ stage, isStageChar c = true
  /-- `\.json$` -/
  ending_ok : ending ∈ keyEndings

/-- An ending starts with the dot, which no stage has. -/
theorem takeWhile_ending {stage ending : List Char} (hstage : ∀ c ∈ stage, isStageChar c = true)
    (hending : ending ∈ keyEndings) :
    (stage ++ ending).takeWhile isStageChar = stage ∧
      (stage ++ ending).dropWhile isStageChar = ending := by
  have hdot : ∃ tail, ending = '.' :: tail := by
    rcases List.mem_pair.mp hending with rfl | rfl
    · exact ⟨_, rfl⟩
    · exact ⟨_, rfl⟩
  obtain ⟨tail, rfl⟩ := hdot
  have hstop : isStageChar '.' = false := by decide
  rw [List.takeWhile_append_of_pos hstage, List.dropWhile_append_of_pos hstage,
    List.takeWhile_cons_of_neg (by simp [hstop]), List.dropWhile_cons_of_neg (by simp [hstop])]
  exact ⟨List.append_nil stage, rfl⟩

/-- A case id without slash ends at the first one. -/
theorem takeWhile_slash {caseId : List Char} (tail : List Char) (hcase : '/' ∉ caseId) :
    (caseId ++ '/' :: tail).takeWhile (· ≠ '/') = caseId ∧
      (caseId ++ '/' :: tail).dropWhile (· ≠ '/') = '/' :: tail := by
  have hall : ∀ c ∈ caseId, decide (c ≠ '/') = true := by
    intro c hc
    refine decide_eq_true fun heq => ?_
    exact hcase (heq ▸ hc)
  rw [List.takeWhile_append_of_pos hall, List.dropWhile_append_of_pos hall,
    List.takeWhile_cons_of_neg (by simp), List.dropWhile_cons_of_neg (by simp)]
  exact ⟨List.append_nil caseId, rfl⟩

/-- **The parser finds exactly what the pattern matches.** -/
theorem extractCaseId_eq_some {key caseId : String} :
    extractCaseId key = some caseId ↔ ∃ stage ending, KeyMatch key caseId stage ending := by
  unfold extractCaseId
  constructor
  · intro h
    split at h
    · next hinitial =>
      simp only at h
      split at h
      · next hparts =>
        obtain ⟨hcase, hstage, hending⟩ := hparts
        cases h
        obtain ⟨rest, hrest⟩ := List.isPrefixOf_iff_prefix.mp hinitial
        have hdrop : key.toList.drop 6 = rest := by
          rw [← hrest]
          rfl
        rw [hdrop] at hcase hstage hending ⊢
        -- the stage is not empty, so something follows the case id, and it is the slash
        obtain ⟨tail, htail⟩ : ∃ tail, rest.dropWhile (· ≠ '/') = '/' :: tail := by
          cases hafter : rest.dropWhile (· ≠ '/') with
          | nil =>
            rw [hafter] at hstage
            exact absurd rfl hstage
          | cons c tail =>
            have hc := List.head?_dropWhile_not (· ≠ '/') rest
            rw [hafter] at hc
            obtain rfl : c = '/' := by simpa using hc
            exact ⟨tail, rfl⟩
        rw [htail] at hstage hending
        have hid : (String.ofList (rest.takeWhile (· ≠ '/'))).toList = rest.takeWhile (· ≠ '/') :=
          String.toList_ofList
        refine ⟨_, _, ?_, ?_, ?_, hstage, ?_, hending⟩
        · rw [hid, List.drop_one, List.tail_cons, List.takeWhile_append_dropWhile, ← htail,
            List.takeWhile_append_dropWhile]
          exact hrest.symm
        · rw [hid]
          exact hcase
        · rw [hid]
          intro hslash
          have hne := List.mem_takeWhile_imp hslash
          simp at hne
        · intro c hc
          exact List.mem_takeWhile_imp hc
      · cases h
    · cases h
  · rintro ⟨stage, ending, hmatch⟩
    have hinitial : "cases/".toList.isPrefixOf key.toList = true :=
      List.isPrefixOf_iff_prefix.mpr ⟨_, hmatch.text.symm⟩
    have hdrop : key.toList.drop 6 = caseId.toList ++ '/' :: (stage ++ ending) := by
      rw [hmatch.text]
      rfl
    obtain ⟨htake, hthen⟩ := takeWhile_slash (stage ++ ending) hmatch.caseId_ok
    obtain ⟨hstage, hending⟩ := takeWhile_ending hmatch.stage_ok hmatch.ending_ok
    simp only [if_pos hinitial, hdrop, htake, hthen, List.drop_one, List.tail_cons, hstage, hending]
    rw [if_pos ⟨hmatch.caseId_ne, hmatch.stage_ne, hmatch.ending_ok⟩, String.ofList_toList]

/-! ## The two together -/

/-- The name of a stage is a match for the stage of the pattern. -/
theorem isStageChar_value (stage : CaseFileStageName) :
    stage.value.toList ≠ [] ∧ ∀ c ∈ stage.value.toList, isStageChar c = true := by
  cases stage <;> exact ⟨by decide, List.all_eq_true.mp (by decide)⟩

/-- The key of a named case is recognised as its own exactly when the id has no slash, and else
it is not recognised. -/
theorem extractCaseId_stageKey {caseId : String} (hnamed : PyText.isBlank caseId = false)
    (stage : CaseFileStageName) :
    extractCaseId (stageKey caseId stage) = some (PyText.strip caseId) ↔
      '/' ∉ (PyText.strip caseId).toList := by
  rw [extractCaseId_eq_some]
  constructor
  · rintro ⟨_, _, hmatch⟩
    exact hmatch.caseId_ok
  · intro hslash
    obtain ⟨hne, hchars⟩ := isStageChar_value stage
    refine ⟨stage.value.toList, ".json".toList, ?_, ?_, hslash, hne, hchars, by decide⟩
    · simp [stageKey, toString]
    · intro hnil
      have hblank : PyText.isBlank caseId = true :=
        beq_iff_eq.mpr (String.toList_eq_nil_iff.mp hnil)
      cases hblank.symm.trans hnamed

/-- The characters of a hash are neither whitespace nor a slash. -/
theorem isHex64_chars {s : String} (h : isHex64 s = true) :
    s.toList.length = 64 ∧ ∀ c ∈ s.toList, PyText.isSpace c = false ∧ c ≠ '/' := by
  rw [isHex64, Bool.and_eq_true, beq_iff_eq, List.all_eq_true] at h
  refine ⟨h.1, fun c hc => ?_⟩
  have hrange := h.2 c hc
  simp only [Bool.or_eq_true, Bool.and_eq_true, decide_eq_true_eq] at hrange
  constructor
  · simp only [PyText.isSpace, Bool.or_eq_false_iff, Bool.and_eq_false_iff, decide_eq_false_iff_not,
      beq_eq_false_iff_ne]
    omega
  · rintro rfl
    have hslash : '/'.toNat = 47 := rfl
    omega

section Claim

variable [Platform]

/-- **Written keys and the parser.** The key of a case and stage that are accepted is recognised
as that of the stripped case id exactly when the id has no slash; and it is the key of no other
stripped case id or stage. -/
theorem written_key_recognised_iff {caseId stage key : String}
    (h : buildStageObjectKey caseId stage = .ok key) :
    (extractCaseId key = some (PyText.strip caseId) ↔ '/' ∉ (PyText.strip caseId).toList) ∧
      ∀ caseId' stage', buildStageObjectKey caseId' stage' = .ok key →
        PyText.strip caseId' = PyText.strip caseId ∧
          normalizeStageName stage' = normalizeStageName stage := by
  obtain ⟨hnamed, name, hname, rfl⟩ := buildStageObjectKey_ok h
  refine ⟨extractCaseId_stageKey hnamed name, ?_⟩
  intro caseId' stage' h'
  obtain ⟨-, name', hname', hkey⟩ := buildStageObjectKey_ok h'
  obtain ⟨rfl, hid⟩ := stageKey_inj hkey
  exact ⟨hid.symm, hname'.trans hname.symm⟩

/-- **Derived ids**: the key of a case id derived from a gate input is recognised exactly when
neither the cluster nor the topic has a slash. -/
theorem derived_key_recognised_iff (gateInput : GateInputV1) (stage : CaseFileStageName) :
    extractCaseId (stageKey (deriveCaseId gateInput) stage) = some (deriveCaseId gateInput) ↔
      '/' ∉ gateInput.clusterId.toList ∧ '/' ∉ gateInput.topic.toList := by
  obtain ⟨hlength, hhex⟩ :=
    isHex64_chars (sha256Hex (.utf8 gateInput.actionFingerprint)).property
  have hinitial : ∀ c ∈ (sha256Hex (.utf8 gateInput.actionFingerprint)).val.toList.take 12,
      PyText.isSpace c = false ∧ c ≠ '/' := fun c hc => hhex c (List.mem_of_mem_take hc)
  obtain ⟨body, hbody⟩ : ∃ body, (deriveCaseId gateInput).toList = 'c' :: body ++
      (sha256Hex (.utf8 gateInput.actionFingerprint)).val.toList.take 12 := by
    refine ⟨(s!"ase-{StrEnum.value gateInput.env}-{gateInput.clusterId}-{gateInput.topic}-").toList, ?_⟩
    simp [deriveCaseId, toString]
  -- the id starts with a letter and ends with a digit of the hash, so nothing is stripped
  have hstrip : PyText.strip (deriveCaseId gateInput) = deriveCaseId gateInput := by
    rw [PyText.strip, PyText.stripChars_eq_self, String.ofList_toList]
    · intro c hc
      rw [hbody] at hc
      cases hc
      rfl
    · intro c hc
      have hne : (sha256Hex (.utf8 gateInput.actionFingerprint)).val.toList.take 12 ≠ [] := by
        intro hnil
        have hshort := congrArg List.length hnil
        rw [List.length_take, hlength] at hshort
        cases hshort
      rw [hbody, List.getLast?_append_of_ne_nil _ hne] at hc
      exact (hinitial c (List.mem_of_getLast? hc)).1
  have hnamed : PyText.isBlank (deriveCaseId gateInput) = false := by
    rw [PyText.isBlank, hstrip, beq_eq_false_iff_ne]
    intro hempty
    rw [hempty] at hbody
    cases hbody
  have hslash : '/' ∈ (deriveCaseId gateInput).toList ↔
      '/' ∈ gateInput.clusterId.toList ∨ '/' ∈ gateInput.topic.toList := by
    have hhash : '/' ∉ (sha256Hex (.utf8 gateInput.actionFingerprint)).val.toList.take 12 :=
      fun hmem => (hinitial '/' hmem).2 rfl
    have henv : '/' ∉ (StrEnum.value gateInput.env).toList := by
      cases gateInput.env <;> decide
    simp [deriveCaseId, toString, hhash, henv]
  have hkey := extractCaseId_stageKey hnamed stage
  rw [hstrip, hslash, not_or] at hkey
  exact hkey

omit [Platform] in
/-- The key of the case of the topic `orders` on `cluster-a` is recognised. -/
theorem written_key_recognised_orders :
    let := asciiPlatform []
    extractCaseId "cases/case-prod-cluster-a-orders/triage.json" =
      some "case-prod-cluster-a-orders" := by
  intro _
  have hkey : buildStageObjectKey " case-prod-cluster-a-orders" "Triage" =
      .ok "cases/case-prod-cluster-a-orders/triage.json" := by
    decide +kernel
  exact (written_key_recognised_iff hkey).1.mpr (by decide +kernel)

omit [Platform] in
/-- On a cluster that is named with a slash, the key of the case is not. -/
theorem derived_key_of_slash_cluster :
    let := asciiPlatform []
    let caseId := deriveCaseId { pageInput with clusterId := "dc1/cluster-a" }
    ∃ key, buildStageObjectKey caseId "triage" = .ok key ∧ extractCaseId key = none := by
  intro _
  refine ⟨"cases/case-prod-dc1/cluster-a-orders-000000000000/triage.json", ?_, ?_⟩
  · decide +kernel
  · decide +kernel

end Claim

end AiopsTriage
