import AiopsTriage.Stages.Outputs

/-!
# The topology stage

The stage resolves every scope that has findings and splits the outcome into four
mappings: for a resolved scope the context of its gate inputs, its impact and its
routing, and the resolution of an unresolved one.

The three mappings of resolved scopes have the same scopes (`buildTopologyStageOutput_aligned`),
and every context is that of a resolved scope (`contextByScope_resolved`): it leaves the
proposed action and the confidence at their defaults.
-/

namespace AiopsTriage

/-- `GateInputContext`. Being a dataclass it checks nothing. -/
structure GateInputContext where
  /-- the stream -/
  streamId : String
  /-- the role of the topic -/
  topicRole : TopicRole
  /-- the tier of the stream -/
  criticalityTier : CriticalityTier
  /-- the system the topic is fed by -/
  sourceSystem : Option String := none
  /-- the action to propose -/
  proposedAction : Action := .observe
  /-- how sure the diagnosis is -/
  diagnosisConfidence : PyFloat := .finite 0
  /-- partitions seen -/
  partitionCountObserved : Option Int := none
  /-- a fixed case id -/
  caseId : Option String := none
  /-- how the diagnosis was reached -/
  decisionBasis : Option (Dict String Json) := none
  deriving DecidableEq

/-- `TopologyImpactContext`. -/
structure TopologyImpactContext where
  /-- how far the anomaly reaches -/
  blastRadius : BlastRadius
  /-- the components it reaches -/
  downstreamImpacts : List DownstreamImpact := []
  deriving DecidableEq

/-- `TopologyRoutingContext`. -/
structure TopologyRoutingContext where
  /-- where the owner was found -/
  lookupLevel : OwnershipLookupLevel
  /-- the routing key -/
  routingKey : String
  /-- the owning team -/
  owningTeamId : String
  /-- its name -/
  owningTeamName : String
  /-- where to reach it -/
  supportChannel : Option String := none
  /-- its escalation policy -/
  escalationPolicyRef : Option String := none
  /-- its ServiceNow group -/
  serviceNowAssignmentGroup : Option String := none
  deriving DecidableEq

/-- `TopologyStageOutput`. -/
structure TopologyStageOutput where
  /-- contexts of resolved scopes -/
  contextByScope : Dict Scope GateInputContext := .empty
  /-- impacts of resolved scopes -/
  impactByScope : Dict Scope TopologyImpactContext := .empty
  /-- routing of resolved scopes -/
  routingByScope : Dict Scope TopologyRoutingContext := .empty
  /-- the others -/
  unresolvedByScope : Dict Scope TopologyResolution := .empty

/-- `sorted(scopes)`. -/
def sortScopes (scopes : List Scope) : List Scope := scopes.insertionSort (· ≤ ·)

/-- `_resolve_scope_mapping`: what a mapping holds for a scope, or else for the topic of
a group scope. -/
def resolveScopeMapping {α : Type} (scope : Scope) (mapping : Dict Scope α) : Option α :=
  match mapping.get? scope with
  | some value => some value
  | none =>
    match scope with
    | [env, clusterId, _, topic] => mapping.get? [env, clusterId, topic]
    | _ => none

/-- What is found is held for some scope. -/
theorem resolveScopeMapping_eq_some {α : Type} {scope : Scope} {mapping : Dict Scope α} {value : α}
    (h : resolveScopeMapping scope mapping = some value) : ∃ key, mapping.get? key = some value := by
  unfold resolveScopeMapping at h
  split at h
  · next hdirect => exact ⟨scope, hdirect.trans h⟩
  · split at h
    · exact ⟨_, h⟩
    · cases h

/-- Mappings with the same scopes are resolved for the same scopes. -/
theorem resolveScopeMapping_isSome_congr {α β : Type} {a : Dict Scope α} {b : Dict Scope β}
    (h : ∀ scope, (a.get? scope).isSome = (b.get? scope).isSome) (scope : Scope) :
    (resolveScopeMapping scope a).isSome = (resolveScopeMapping scope b).isSome := by
  have hscope := h scope
  unfold resolveScopeMapping
  cases ha : a.get? scope with
  | some x =>
    cases hb : b.get? scope with
    | some y => rfl
    | none => rw [ha, hb] at hscope; cases hscope
  | none =>
    cases hb : b.get? scope with
    | some y => rw [ha, hb] at hscope; cases hscope
    | none =>
      simp only
      split
      · exact h _
      · rfl

section Stage

variable [Platform]

/-- The context of a resolved scope. -/
def ResolvedScope.context (fields : ResolvedScope) : GateInputContext where
  streamId := fields.streamId
  topicRole := fields.topicRole
  criticalityTier := fields.criticalityTier
  sourceSystem := fields.sourceSystem

/-- The impact of a resolved scope. -/
def ResolvedScope.impact (fields : ResolvedScope) : TopologyImpactContext where
  blastRadius := fields.blastRadius
  downstreamImpacts := fields.downstreamImpacts

/-- The routing of a resolved scope. -/
def ResolvedScope.routing (fields : ResolvedScope) : TopologyRoutingContext where
  lookupLevel := fields.ownershipRouting.lookupLevel
  routingKey := fields.ownershipRouting.target.routingKey
  owningTeamId := fields.ownershipRouting.target.owningTeamId
  owningTeamName := fields.ownershipRouting.target.owningTeamName
  supportChannel := fields.ownershipRouting.target.supportChannel
  escalationPolicyRef := fields.ownershipRouting.target.escalationPolicyRef
  serviceNowAssignmentGroup := fields.ownershipRouting.target.serviceNowAssignmentGroup

/-- One round of the loop of `build_topology_stage_output`. -/
def TopologyStageOutput.addScope (snapshot : TopologyRegistrySnapshot)
    (output : TopologyStageOutput) (scope : Scope) : TopologyStageOutput :=
  match resolveAnomalyScope snapshot scope with
  | .resolved _ fields _ =>
    { output with
      contextByScope := output.contextByScope.set scope fields.context
      impactByScope := output.impactByScope.set scope fields.impact
      routingByScope := output.routingByScope.set scope fields.routing }
  | unresolved =>
    { output with unresolvedByScope := output.unresolvedByScope.set scope unresolved }

/-- `build_topology_stage_output`. -/
def buildTopologyStageOutput (snapshot : TopologyRegistrySnapshot) (scopes : List Scope) :
    TopologyStageOutput :=
  (sortScopes scopes).foldl (TopologyStageOutput.addScope snapshot) {}

/-- `collect_topology_stage_output`, which `run_topology_stage_cycle` returns. -/
def runTopologyStageCycle (snapshot : TopologyRegistrySnapshot)
    (evidenceOutput : EvidenceStageOutput) : TopologyStageOutput :=
  buildTopologyStageOutput snapshot evidenceOutput.gateFindingsByScope.keys

/-! ## What the stage hands over -/

/-- The mappings of resolved scopes have the same scopes. -/
structure TopologyStageOutput.Aligned (output : TopologyStageOutput) : Prop where
  /-- a scope with a context has an impact -/
  impact : ∀ scope, (output.contextByScope.get? scope).isSome = (output.impactByScope.get? scope).isSome
  /-- and a routing -/
  routing : ∀ scope, (output.contextByScope.get? scope).isSome = (output.routingByScope.get? scope).isSome

/-- What every round of the loop keeps, the whole loop keeps. -/
theorem buildTopologyStageOutput_induction {I : TopologyStageOutput → Prop}
    {snapshot : TopologyRegistrySnapshot} {scopes : List Scope} (hempty : I {})
    (hround : ∀ output scope, I output → I (output.addScope snapshot scope)) :
    I (buildTopologyStageOutput snapshot scopes) := by
  unfold buildTopologyStageOutput
  generalize sortScopes scopes = rounds
  generalize ({} : TopologyStageOutput) = output at hempty
  induction rounds generalizing output with
  | nil => exact hempty
  | cons scope rounds ih => exact ih _ (hround output scope hempty)

/-- What one round adds: a resolved scope's three values, or a resolution that is none. -/
theorem addScope_cases (snapshot : TopologyRegistrySnapshot) (output : TopologyStageOutput)
    (scope : Scope) :
    (∃ fields : ResolvedScope, output.addScope snapshot scope =
        { output with
          contextByScope := output.contextByScope.set scope fields.context
          impactByScope := output.impactByScope.set scope fields.impact
          routingByScope := output.routingByScope.set scope fields.routing }) ∨
      ∃ resolution, output.addScope snapshot scope =
        { output with unresolvedByScope := output.unresolvedByScope.set scope resolution } := by
  unfold TopologyStageOutput.addScope
  split
  · next fields _ _ => exact .inl ⟨fields, rfl⟩
  · exact .inr ⟨_, rfl⟩

/-- The stage hands over a context, an impact and a routing for the same scopes. -/
theorem buildTopologyStageOutput_aligned (snapshot : TopologyRegistrySnapshot)
    (scopes : List Scope) : (buildTopologyStageOutput snapshot scopes).Aligned := by
  refine buildTopologyStageOutput_induction ⟨fun _ => rfl, fun _ => rfl⟩ ?_
  rintro output scope ⟨himpact, hrouting⟩
  rcases addScope_cases snapshot output scope with ⟨fields, h⟩ | ⟨resolution, h⟩
  · rw [h]
    constructor
    · intro other
      simp only [Dict.get?_set]
      split
      · rfl
      · exact himpact other
    · intro other
      simp only [Dict.get?_set]
      split
      · rfl
      · exact hrouting other
  · rw [h]
    exact ⟨himpact, hrouting⟩

/-- Every context the stage hands over is that of some resolved scope. -/
theorem contextByScope_resolved {snapshot : TopologyRegistrySnapshot} {scopes : List Scope}
    {scope : Scope} {context : GateInputContext}
    (h : (buildTopologyStageOutput snapshot scopes).contextByScope.get? scope = some context) :
    ∃ fields : ResolvedScope, context = fields.context := by
  have hall : ∀ scope context,
      (buildTopologyStageOutput snapshot scopes).contextByScope.get? scope = some context →
      ∃ fields : ResolvedScope, context = fields.context := by
    refine buildTopologyStageOutput_induction (I := fun output => ∀ scope context,
      output.contextByScope.get? scope = some context →
      ∃ fields : ResolvedScope, context = fields.context) ?_ ?_
    · intro scope context h
      cases h
    · intro output scope ih other context h
      rcases addScope_cases snapshot output scope with ⟨fields, hadd⟩ | ⟨resolution, hadd⟩
      · rw [hadd, Dict.get?_set] at h
        split at h
        · exact ⟨fields, (Option.some.inj h).symm⟩
        · exact ih other context h
      · rw [hadd] at h
        exact ih other context h
  exact hall scope context h

end Stage

end AiopsTriage
