import AiopsTriage.Contracts

/-!
# Rulebook

`RulebookV1`: caps on the action by environment and tier, and seven gates with their
checks and effects. What the contract's validators demand is a field of the
structures, so every cap of a rulebook names an action. The effects carry free texts:
a `cap_action_to` that names no action is only found out when the gate fires.

`rulebookV1` is `config/policies/rulebook-v1.yaml`.
-/

namespace AiopsTriage

/-- Whether the text names an action, `_validate_action_policy_value`. -/
def namesAction (value : String) : Bool := (StrEnum.ofValue? (α := Action) value).isSome

/-- `RulebookCaps`, with its validators. -/
structure RulebookCaps where
  /-- the most urgent action of each environment -/
  maxActionByEnv : Dict String String
  /-- the most urgent action of each tier in production -/
  maxActionByTierInProd : Dict String String
  /-- roles that are never paged -/
  pagingDeniedTopicRoles : List String
  /-- `_validate_max_action_by_env`: the required environments are there -/
  env_required : ["local", "dev", "prod"].all fun key => (maxActionByEnv.get? key).isSome
  /-- and `uat`, or its old name -/
  env_uat : (maxActionByEnv.get? "uat").isSome || (maxActionByEnv.get? "stage").isSome
  /-- and every cap names an action -/
  env_actions : maxActionByEnv.entries.all fun entry => namesAction entry.2
  /-- `_validate_max_action_by_tier_in_prod`: the required tiers are there -/
  tier_required : ["TIER_0", "TIER_1", "TIER_2", "UNKNOWN"].all fun key =>
    (maxActionByTierInProd.get? key).isSome
  /-- and every cap names an action -/
  tier_actions : maxActionByTierInProd.entries.all fun entry => namesAction entry.2

/-- `GateEffect`, as far as the evaluation reads it. -/
structure GateEffect where
  /-- the action to cap to -/
  capActionTo : Option String := none
  /-- reason codes to add -/
  setReasonCodes : List String := []
  /-- a postmortem mode to set -/
  forcePostmortemMode : Option String := none
  /-- whether a postmortem is required -/
  setPostmortemRequired : Option Bool := none
  /-- postmortem reason codes to add -/
  setPostmortemReasonCodes : List String := []
  deriving DecidableEq, Repr

/-- `GateEffects`. -/
structure GateEffects where
  /-- when the gate fails -/
  onFail : Option GateEffect := none
  /-- when a cap was applied -/
  onCapApplied : Option GateEffect := none
  /-- when the fingerprint is a duplicate -/
  onDuplicate : Option GateEffect := none
  /-- when the dedupe store is missing or raises -/
  onStoreError : Option GateEffect := none
  /-- when the gate passes -/
  onPass : Option GateEffect := none
  deriving DecidableEq, Repr

/-- `GateCheck`: its type and the free fields beside it (`model_extra`). -/
structure GateCheck where
  /-- the id of the check -/
  checkId : String
  /-- its type -/
  type : String
  /-- the fields the model does not declare -/
  modelExtra : Dict String Json
  deriving DecidableEq, Repr

/-- `GateSpec`, as far as the evaluation reads it. -/
structure GateSpec where
  /-- the id of the gate -/
  id : String
  /-- what the gate does -/
  effect : GateEffects
  /-- what the gate checks -/
  checks : List GateCheck
  deriving DecidableEq, Repr

/-- `_EXPECTED_GATE_ORDER`, and as a set `_REQUIRED_GATE_IDS`. -/
def expectedGateOrder : List String := ["AG0", "AG1", "AG2", "AG3", "AG4", "AG5", "AG6"]

/-- `RulebookV1`, with its validators. -/
structure RulebookV1 where
  /-- the version stamped into casefiles -/
  version : Int
  /-- the length of an evaluation bucket -/
  evaluationIntervalMinutes : Int
  /-- buckets an anomaly has to last -/
  sustainedIntervalsRequired : Int
  /-- the caps -/
  caps : RulebookCaps
  /-- the gates -/
  gates : List GateSpec
  /-- `_require_all_gate_ids` -/
  gates_required : expectedGateOrder.all fun id => (gates.map GateSpec.id).contains id

/-! ## rulebook-v1 -/

namespace RulebookV1

/-- The caps of rulebook-v1. -/
def v1Caps : RulebookCaps where
  maxActionByEnv :=
    ⟨[("local", "OBSERVE"), ("harness", "OBSERVE"), ("dev", "NOTIFY"), ("uat", "TICKET"),
      ("prod", "PAGE")], by decide⟩
  maxActionByTierInProd :=
    ⟨[("TIER_0", "PAGE"), ("TIER_1", "TICKET"), ("TIER_2", "NOTIFY"), ("UNKNOWN", "NOTIFY")],
      by decide⟩
  pagingDeniedTopicRoles := ["SOURCE_TOPIC"]
  env_required := by decide
  env_uat := by decide
  env_actions := by decide
  tier_required := by decide
  tier_actions := by decide

/-- AG0, schema and invariants. -/
def v1Ag0 : GateSpec where
  id := "AG0"
  effect :=
    { onFail := some
        { capActionTo := some "OBSERVE"
          setReasonCodes := ["AG0_INVALID_INPUT"]
          forcePostmortemMode := some "NONE" } }
  checks :=
    [⟨"AG0_REQUIRED_FIELDS_PRESENT", "required_fields_present",
      ⟨[("fields_ref", .str "inputs_contract.required_fields")], by decide⟩⟩]

/-- AG1, environment and tier caps. -/
def v1Ag1 : GateSpec where
  id := "AG1"
  effect := { onCapApplied := some { setReasonCodes := ["AG1_ENV_OR_TIER_CAP"] } }
  checks :=
    [⟨"AG1_ENV_CAP", "cap_by_env",
        ⟨[("max_action_by_env_ref", .str "caps.max_action_by_env")], by decide⟩⟩,
      ⟨"AG1_TIER_CAP_PROD", "cap_by_tier_in_prod",
        ⟨[("max_action_by_tier_ref", .str "caps.max_action_by_tier_in_prod")], by decide⟩⟩]

/-- AG2, evidence sufficiency. -/
def v1Ag2 : GateSpec where
  id := "AG2"
  effect :=
    { onFail := some
        { capActionTo := some "NOTIFY", setReasonCodes := ["AG2_INSUFFICIENT_EVIDENCE"] } }
  checks :=
    [⟨"AG2_REQUIRED_EVIDENCE_PRESENT", "required_evidence_present",
      ⟨[("findings_selector", .obj
            [("mode", .str "anomalous_only"), ("prefer_primary_flag", .bool true),
              ("primary_flag_field", .str "is_primary")]),
          ("required_policy_ref", .str "defaults.required_evidence_policy"),
          ("evidence_status_map_ref", .str "evidence_status_map")], by decide⟩⟩]

/-- AG3, no paging on source topics. -/
def v1Ag3 : GateSpec where
  id := "AG3"
  effect :=
    { onFail := some
        { capActionTo := some "TICKET", setReasonCodes := ["AG3_PAGING_DENIED_SOURCE_TOPIC"] } }
  checks := [⟨"AG3_DENY_PAGING_ON_SOURCE", "always_fail", .empty⟩]

/-- The double that the literal `0.6` denotes, a little below six tenths. -/
def double06 : ℚ where
  num := 5404319552844595
  den := 9007199254740992
  den_nz := by decide
  reduced := by decide +kernel

/-- AG4, confidence and duration. -/
def v1Ag4 : GateSpec where
  id := "AG4"
  effect := { onFail := some { capActionTo := some "OBSERVE" } }
  checks :=
    [⟨"AG4_CONFIDENCE_MIN", "min_value",
        ⟨[("field", .str "diagnosis_confidence"), ("min", .float (.finite double06)),
          ("reason_code_on_fail", .str "LOW_CONFIDENCE")], by decide⟩⟩,
      ⟨"AG4_SUSTAINED_REQUIRED_FOR_HIGH_URGENCY", "equals",
        ⟨[("field", .str "sustained"), ("value", .bool true),
          ("reason_code_on_fail", .str "NOT_SUSTAINED")], by decide⟩⟩]

/-- AG5, storm control. -/
def v1Ag5 : GateSpec where
  id := "AG5"
  effect :=
    { onDuplicate := some
        { capActionTo := some "OBSERVE", setReasonCodes := ["AG5_DUPLICATE_SUPPRESSED"] }
      onStoreError := some
        { capActionTo := some "NOTIFY", setReasonCodes := ["AG5_DEDUPE_STORE_ERROR"] } }
  checks :=
    [⟨"AG5_DEDUPE", "dedupe_check",
      ⟨[("key_field", .str "action_fingerprint"), ("dedupe_store", .str "redis"),
          ("on_lookup_error", .str "DEGRADE_AND_ALLOW_NOTIFY")], by decide⟩⟩]

/-- AG6, postmortem selection. -/
def v1Ag6 : GateSpec where
  id := "AG6"
  effect :=
    { onPass := some
        { setPostmortemRequired := some true, setPostmortemReasonCodes := ["PM_PEAK_SUSTAINED"] }
      onFail := some { setPostmortemRequired := some false } }
  checks :=
    [⟨"AG6_PM_PEAK_SUSTAINED", "all_true",
      ⟨[("fields", .arr [.str "peak_context.is_peak_window", .str "sustained"])], by decide⟩⟩]

/-- `config/policies/rulebook-v1.yaml`. -/
def v1 : RulebookV1 where
  version := 1
  evaluationIntervalMinutes := 5
  sustainedIntervalsRequired := 5
  caps := v1Caps
  gates := [v1Ag0, v1Ag1, v1Ag2, v1Ag3, v1Ag4, v1Ag5, v1Ag6]
  gates_required := by decide

end RulebookV1

end AiopsTriage
