import AiopsTriage.Contracts
import Mathlib.Data.List.Sort

/-!
# Topology resolution

An anomaly scope names an environment, a cluster and a topic, and for a lag also a
consumer group. `resolveAnomalyScope` looks it up in the registry: the topic's
stream, its instance in that environment and cluster, its role and tier, the owner,
and the components downstream. Every way it can fail has a reason code and
diagnostics.

A resolution is resolved with all its fields or unresolved with none, so the two are
the constructors of `TopologyResolution`, and its validator has nothing left to refuse.
-/

namespace AiopsTriage

/-- An anomaly scope: `(env, cluster_id, topic)` or `(env, cluster_id, group, topic)`. -/
abbrev Scope := List String

/-! ## The registry -/

/-- `CanonicalTopicEntry`. -/
structure CanonicalTopicEntry where
  /-- the role as the registry has it -/
  role : String
  /-- the stream of the topic -/
  streamId : String
  /-- the system the topic is fed by -/
  sourceSystem : Option String

/-- `CanonicalStreamInstance`: a stream in one environment and cluster. -/
structure CanonicalStreamInstance where
  /-- the environment -/
  env : String
  /-- the cluster -/
  clusterId : String
  /-- components it shares with other streams -/
  sharedComponents : Dict String Json
  /-- its sources -/
  sources : List (Dict String Json)
  /-- its sinks -/
  sinks : List (Dict String Json)

/-- `CanonicalStream`. -/
structure CanonicalStream where
  /-- the stream's id -/
  streamId : String
  /-- its tier as the registry has it -/
  criticalityTier : Option String
  /-- its instances, ordered by environment and cluster -/
  instances : List CanonicalStreamInstance

/-- `RoutingDirectoryEntry`, and `OwnershipRoutingTarget`, which has the same fields. -/
structure RoutingDirectoryEntry where
  /-- the routing key -/
  routingKey : String
  /-- the owning team -/
  owningTeamId : String
  /-- its name -/
  owningTeamName : String
  /-- where to reach it -/
  supportChannel : Option String
  /-- its escalation policy -/
  escalationPolicyRef : Option String
  /-- its ServiceNow group -/
  serviceNowAssignmentGroup : Option String
  deriving DecidableEq, Repr

/-- An ownership entry: three names and the routing key of their owner. -/
structure OwnerEntry where
  /-- the names the entry is about -/
  key : String × String × String
  /-- the routing key of the owner -/
  routingKey : String
  deriving DecidableEq, Repr

/-- The routing key of the first entry for three names. -/
def ownerOf (entries : List OwnerEntry) (key : String × String × String) : Option String :=
  (entries.find? fun e => e.key == key).map OwnerEntry.routingKey

/-- `CanonicalOwnershipMap`. -/
structure CanonicalOwnershipMap where
  /-- owners by environment, cluster and consumer group -/
  consumerGroupOwners : List OwnerEntry
  /-- owners by environment, cluster and topic -/
  topicOwners : List OwnerEntry
  /-- owners by stream, environment and cluster -/
  streamDefaultOwner : List OwnerEntry
  /-- who owns the rest -/
  platformDefault : Option String

/-- `CanonicalTopologyRegistry`, the part of a `TopologyRegistrySnapshot` that
resolution reads. -/
structure TopologyRegistrySnapshot where
  /-- streams by id -/
  streamsById : Dict String CanonicalStream
  /-- topics by environment and cluster -/
  topicIndexByScope : Dict (String × String) (Dict String CanonicalTopicEntry)
  /-- routing targets by key -/
  routingDirectory : Dict String RoutingDirectoryEntry
  /-- who owns what -/
  ownershipMap : CanonicalOwnershipMap

/-! ## Resolutions -/

/-- `BlastRadiusClassification`. -/
inductive BlastRadius where
  /-- `LOCAL_SOURCE_INGESTION` -/
  | localSourceIngestion
  /-- `SHARED_KAFKA_INGESTION` -/
  | sharedKafkaIngestion
  deriving DecidableEq, Repr

instance : StrEnum BlastRadius where
  members := [.localSourceIngestion, .sharedKafkaIngestion]
  value
    | .localSourceIngestion => "LOCAL_SOURCE_INGESTION"
    | .sharedKafkaIngestion => "SHARED_KAFKA_INGESTION"
  complete a := by cases a <;> decide
  injective a b := by cases a <;> cases b <;> decide

/-- `DownstreamComponentType`. -/
inductive ComponentType where
  /-- `shared_component` -/
  | sharedComponent
  /-- `sink` -/
  | sink
  /-- `source` -/
  | source
  deriving DecidableEq, Repr

instance : StrEnum ComponentType where
  members := [.sharedComponent, .sink, .source]
  value
    | .sharedComponent => "shared_component"
    | .sink => "sink"
    | .source => "source"
  complete a := by cases a <;> decide
  injective a b := by cases a <;> cases b <;> decide

/-- `DownstreamExposureType`. -/
inductive ExposureType where
  /-- `DOWNSTREAM_DATA_FRESHNESS_RISK` -/
  | downstreamDataFreshnessRisk
  /-- `DIRECT_COMPONENT_RISK` -/
  | directComponentRisk
  /-- `VISIBILITY_ONLY` -/
  | visibilityOnly
  deriving DecidableEq, Repr

instance : StrEnum ExposureType where
  members := [.downstreamDataFreshnessRisk, .directComponentRisk, .visibilityOnly]
  value
    | .downstreamDataFreshnessRisk => "DOWNSTREAM_DATA_FRESHNESS_RISK"
    | .directComponentRisk => "DIRECT_COMPONENT_RISK"
    | .visibilityOnly => "VISIBILITY_ONLY"
  complete a := by cases a <;> decide
  injective a b := by cases a <;> cases b <;> decide

/-- `DownstreamImpact`; its `risk_status` is always `AT_RISK`. -/
structure DownstreamImpact where
  /-- what kind of component -/
  componentType : ComponentType
  /-- which one -/
  componentId : String
  /-- how it is exposed -/
  exposureType : ExposureType
  deriving DecidableEq, Repr

/-- `OwnershipLookupLevel`. -/
inductive OwnershipLookupLevel where
  /-- `consumer_group_owner` -/
  | consumerGroupOwner
  /-- `topic_owner` -/
  | topicOwner
  /-- `stream_default_owner` -/
  | streamDefaultOwner
  /-- `platform_default` -/
  | platformDefault
  deriving DecidableEq, Repr

instance : StrEnum OwnershipLookupLevel where
  members := [.consumerGroupOwner, .topicOwner, .streamDefaultOwner, .platformDefault]
  value
    | .consumerGroupOwner => "consumer_group_owner"
    | .topicOwner => "topic_owner"
    | .streamDefaultOwner => "stream_default_owner"
    | .platformDefault => "platform_default"
  complete a := by cases a <;> decide
  injective a b := by cases a <;> cases b <;> decide

/-- `OwnershipRoutingResolution`. -/
structure OwnershipRoutingResolution where
  /-- where the owner was found -/
  lookupLevel : OwnershipLookupLevel
  /-- the owner -/
  target : RoutingDirectoryEntry
  deriving DecidableEq, Repr

/-- The fields of a resolved scope. -/
structure ResolvedScope where
  /-- the stream of the topic -/
  streamId : String
  /-- the role of the topic -/
  topicRole : TopicRole
  /-- the tier of the stream -/
  criticalityTier : CriticalityTier
  /-- the system the topic is fed by -/
  sourceSystem : Option String
  /-- how far an anomaly reaches -/
  blastRadius : BlastRadius
  /-- the components it reaches -/
  downstreamImpacts : List DownstreamImpact
  /-- who owns it -/
  ownershipRouting : OwnershipRoutingResolution
  deriving DecidableEq, Repr

/-- `TopologyResolution`. -/
inductive TopologyResolution where
  /-- every field is known -/
  | resolved (scope : Scope) (fields : ResolvedScope) (diagnostics : List (String × String))
  /-- none is -/
  | unresolved (scope : Scope) (reasonCode : String) (diagnostics : List (String × String))
  deriving DecidableEq, Repr

/-! ## Parts of a resolution -/

section Parts

/-- `_normalize_scope_part`. -/
def normalizeScopePart (value : String) : Option String :=
  if PyText.isBlank value then none else some (PyText.strip value)

/-- `_parse_anomaly_scope`: environment, cluster, topic and group. -/
def parseAnomalyScope : Scope → Option (String × String × String × Option String)
  | [env, clusterId, topic] => do
    return (← normalizeScopePart env, ← normalizeScopePart clusterId, ← normalizeScopePart topic, none)
  | [env, clusterId, group, topic] => do
    return (← normalizeScopePart env, ← normalizeScopePart clusterId, ← normalizeScopePart topic,
      some (← normalizeScopePart group))
  | _ => none

/-- `_TOPIC_ROLE_NORMALIZATION`. -/
def topicRoleNormalization : List (String × TopicRole) :=
  [("SOURCE_TOPIC", .source), ("KAFKA_SOURCE_STREAM", .source), ("STANDARDIZER_SHARED", .shared),
    ("AUDIT_RAW_SHARED", .shared), ("SHARED_TOPIC", .shared), ("SINK_TOPIC", .sink)]

/-- `_derive_blast_radius`; every role has one. -/
def deriveBlastRadius : TopicRole → BlastRadius
  | .source => .localSourceIngestion
  | .shared => .sharedKafkaIngestion
  | .sink => .sharedKafkaIngestion

/-- `_find_stream_instance`. -/
def findStreamInstance (stream : CanonicalStream) (env clusterId : String) :
    Option CanonicalStreamInstance :=
  stream.instances.find? fun i => i.env == env && i.clusterId == clusterId

/-- `_ownership_lookup_path`. -/
def ownershipLookupPath (includeConsumerGroup : Bool) : String :=
  if includeConsumerGroup then
    "consumer_group_owner->topic_owner->stream_default_owner->platform_default"
  else "topic_owner->stream_default_owner->platform_default"

/-- `_scope_diagnostics`. -/
def scopeDiagnostics (env clusterId topic : String) (group streamId : Option String) :
    List (String × String) :=
  [("env", env), ("cluster_id", clusterId), ("topic", topic)] ++
    (group.map fun g => ("group", g)).toList ++ (streamId.map fun s => ("stream_id", s)).toList

/-- `_select_owner_routing_key`: the most specific owner. -/
def selectOwnerRoutingKey (owners : CanonicalOwnershipMap) (env clusterId topic : String)
    (group : Option String) (streamId : String) : Option (OwnershipLookupLevel × String) :=
  (group.bind fun g => (ownerOf owners.consumerGroupOwners (env, clusterId, g)).map
      (OwnershipLookupLevel.consumerGroupOwner, ·))
  <|> (ownerOf owners.topicOwners (env, clusterId, topic)).map (OwnershipLookupLevel.topicOwner, ·)
  <|> (ownerOf owners.streamDefaultOwner (streamId, env, clusterId)).map
      (OwnershipLookupLevel.streamDefaultOwner, ·)
  <|> owners.platformDefault.map (OwnershipLookupLevel.platformDefault, ·)

/-- The first of the sources of a kind that has a value decides, when one of that kind has. -/
theorem findSome?_of_mem {α β : Type*} {xs : List α} (p : α → Prop) [DecidablePred p]
    (f : α → Option β) {x : α} (hx : x ∈ xs) (hp : p x) (hf : (f x).isSome) :
    ∃ y ∈ xs, p y ∧ (f y).isSome ∧ xs.findSome? (fun z => if p z then f z else none) = f y := by
  have hsome : (xs.findSome? fun z => if p z then f z else none).isSome := by
    refine List.findSome?_isSome_iff.mpr ⟨x, hx, ?_⟩
    rwa [if_pos hp]
  obtain ⟨b, hb⟩ := Option.isSome_iff_exists.mp hsome
  obtain ⟨y, hy, hvalue⟩ := List.exists_of_findSome?_eq_some hb
  obtain ⟨hpy, hfy⟩ := Option.ite_none_right_eq_some.mp hvalue
  exact ⟨y, hy, hpy, Option.isSome_iff_exists.mpr ⟨b, hfy⟩, hb.trans hfy.symm⟩

variable [Platform]

/-- `_normalize_topic_role`. -/
def normalizeTopicRole (role : String) : Option TopicRole :=
  Dict.find (Platform.upper (PyText.strip role)) topicRoleNormalization

/-- `_mapping_str`. -/
def mappingStr (source : Dict String Json) (key : String) : Option String :=
  match source.get? key with
  | none | some .null => none
  | some value => normalizeScopePart (pyStr value)

/-- `_render_component_value`. -/
def renderComponentValue : Json → Option String
  | .null => none
  | .str s => normalizeScopePart s
  | .bool b => some (pyStr (.bool b))
  | .int n => some (pyStr (.int n))
  | .float x => some (pyStr (.float x))
  | value => some (Platform.dumps value)

/-- The sort key of an impact. -/
def DownstreamImpact.sortKey (impact : DownstreamImpact) : List String :=
  [StrEnum.value impact.componentType, impact.componentId, StrEnum.value impact.exposureType,
    "AT_RISK"]

/-- `_derive_downstream_impacts`: each impact once, sorted. -/
def deriveDownstreamImpacts (inst : CanonicalStreamInstance) : List DownstreamImpact :=
  let sources := inst.sources.filterMap fun source =>
    (mappingStr source "source_system" <|> mappingStr source "source_topic").map
      (DownstreamImpact.mk .source · .directComponentRisk)
  let sinks := inst.sinks.filterMap fun sink =>
    (mappingStr sink "sink_id" <|> mappingStr sink "hdfs_path" <|>
      mappingStr sink "hive_external_view").map
      (DownstreamImpact.mk .sink · .downstreamDataFreshnessRisk)
  let shared := (inst.sharedComponents.entries.insertionSort fun a b => a.1 ≤ b.1).filterMap
    fun (key, raw) => (renderComponentValue raw).map fun value =>
      DownstreamImpact.mk .sharedComponent s!"{key}:{value}" .visibilityOnly
  (uniqueInOrder (sources ++ sinks ++ shared)).insertionSort fun a b => a.sortKey ≤ b.sortKey

/-- `_resolve_source_system`: the topic's own, that of a source of the topic, or that
of any source. -/
def resolveSourceSystem (entry : CanonicalTopicEntry) (inst : CanonicalStreamInstance)
    (topic : String) : Option String :=
  entry.sourceSystem
  <|> inst.sources.findSome? (fun source =>
    if mappingStr source "source_topic" = some topic then mappingStr source "source_system" else none)
  <|> inst.sources.findSome? (mappingStr · "source_system")

/-- `_to_criticality_tier`. -/
def toCriticalityTier : Option Json → Option CriticalityTier
  | none | some .null => none
  | some value => StrEnum.ofValue? (Platform.upper (PyText.strip (pyStr value)))

/-- `_resolve_criticality_tier`: the stream's, or that of a source of the topic, of the
source system, or any. -/
def resolveCriticalityTier (stream : CanonicalStream) (inst : CanonicalStreamInstance)
    (topic : String) (sourceSystem : Option String) : CriticalityTier :=
  let tierOf := fun (source : Dict String Json) => toCriticalityTier (source.get? "criticality_tier")
  (toCriticalityTier (stream.criticalityTier.map .str)
    <|> inst.sources.findSome? (fun source =>
      if mappingStr source "source_topic" = some topic then tierOf source else none)
    <|> sourceSystem.bind (fun system => inst.sources.findSome? fun source =>
      if mappingStr source "source_system" = some system then tierOf source else none)
    <|> inst.sources.findSome? tierOf).getD .unknown

/-- A source system that a source of the topic names goes before those of other topics. -/
theorem resolveSourceSystem_of_topic {entry : CanonicalTopicEntry} {inst : CanonicalStreamInstance}
    {topic : String} {source : Dict String Json} (hentry : entry.sourceSystem = none)
    (hsource : source ∈ inst.sources) (htopic : mappingStr source "source_topic" = some topic)
    (hsystem : (mappingStr source "source_system").isSome) :
    ∃ source' ∈ inst.sources, mappingStr source' "source_topic" = some topic ∧
      resolveSourceSystem entry inst topic = mappingStr source' "source_system" := by
  obtain ⟨source', hsource', htopic', hsome, hfirst⟩ := findSome?_of_mem
    (mappingStr · "source_topic" = some topic) (mappingStr · "source_system") hsource htopic hsystem
  obtain ⟨system, hsystem'⟩ := Option.isSome_iff_exists.mp hsome
  refine ⟨source', hsource', htopic', ?_⟩
  rw [resolveSourceSystem, hentry, hfirst, hsystem']
  rfl

/-- A tier that a source of the topic has goes before those of other topics. -/
theorem resolveCriticalityTier_of_topic {stream : CanonicalStream} {inst : CanonicalStreamInstance}
    {topic : String} {sourceSystem : Option String} {source : Dict String Json}
    (hstream : toCriticalityTier (stream.criticalityTier.map .str) = none)
    (hsource : source ∈ inst.sources) (htopic : mappingStr source "source_topic" = some topic)
    (htier : (toCriticalityTier (source.get? "criticality_tier")).isSome) :
    ∃ source' ∈ inst.sources, mappingStr source' "source_topic" = some topic ∧
      toCriticalityTier (source'.get? "criticality_tier") =
        some (resolveCriticalityTier stream inst topic sourceSystem) := by
  obtain ⟨source', hsource', htopic', hsome, hfirst⟩ := findSome?_of_mem
    (mappingStr · "source_topic" = some topic)
    (fun source => toCriticalityTier (source.get? "criticality_tier")) hsource htopic htier
  obtain ⟨tier, htier'⟩ := Option.isSome_iff_exists.mp hsome
  refine ⟨source', hsource', htopic', ?_⟩
  rw [resolveCriticalityTier, hstream, hfirst, htier']
  rfl

/-- An instance whose first source is one of another topic. -/
def twoSources : CanonicalStreamInstance where
  env := "prod"
  clusterId := "kafka-1"
  sharedComponents := .empty
  sources :=
    [.ofPairs [("source_topic", .str "other"), ("source_system", .str "A"),
      ("criticality_tier", .str "TIER_2")],
    .ofPairs [("source_topic", .str "orders"), ("source_system", .str "B"),
      ("criticality_tier", .str "tier_0")]]
  sinks := []

example : (let _ := asciiPlatform []
    (resolveSourceSystem ⟨"SOURCE_TOPIC", "stream-1", none⟩ twoSources "orders",
      resolveCriticalityTier ⟨"stream-1", none, [twoSources]⟩ twoSources "orders" (some "B"))) =
    (some "B", .tier0) := by
  decide +kernel

/-- `_resolve_ownership_routing`: the owner, or what the scope is unresolved for. -/
def resolveOwnershipRouting (scope : Scope) (snapshot : TopologyRegistrySnapshot)
    (env clusterId topic : String) (group : Option String) (streamId : String) :
    Except TopologyResolution OwnershipRoutingResolution :=
  let diagnostics := scopeDiagnostics env clusterId topic group (some streamId) ++
    [("ownership_lookup_path", ownershipLookupPath group.isSome)]
  match selectOwnerRoutingKey snapshot.ownershipMap env clusterId topic group streamId with
  | none => .error (.unresolved scope "owner_not_found" diagnostics)
  | some (level, routingKey) =>
    match snapshot.routingDirectory.get? routingKey with
    | none => .error (.unresolved scope "routing_key_not_found"
        (diagnostics ++ [("selected_owner_level", StrEnum.value level),
          ("selected_routing_key", routingKey)]))
    | some target => .ok ⟨level, target⟩

/-- `resolve_anomaly_scope`. -/
def resolveAnomalyScope (snapshot : TopologyRegistrySnapshot) (scope : Scope) : TopologyResolution :=
  match parseAnomalyScope scope with
  | none => .unresolved scope "invalid_scope_shape" [("scope", PyText.join "|" scope)]
  | some (env, clusterId, topic, group) =>
    let named := [("env", env), ("cluster_id", clusterId), ("topic", topic)]
    match snapshot.topicIndexByScope.get? (env, clusterId) with
    | none => .unresolved scope "scope_not_found" named
    | some scopedTopics =>
      match scopedTopics.get? topic with
      | none => .unresolved scope "topic_not_found" named
      | some entry =>
        match snapshot.streamsById.get? entry.streamId with
        | none => .unresolved scope "stream_not_found" (named ++ [("stream_id", entry.streamId)])
        | some stream =>
          match findStreamInstance stream env clusterId with
          | none => .unresolved scope "stream_instance_not_found"
              [("env", env), ("cluster_id", clusterId), ("stream_id", stream.streamId)]
          | some inst =>
            match normalizeTopicRole entry.role with
            | none => .unresolved scope "UNSUPPORTED_TOPIC_ROLE"
                (named ++ [("raw_topic_role", entry.role)])
            | some role =>
              let sourceSystem := resolveSourceSystem entry inst topic
              match resolveOwnershipRouting scope snapshot env clusterId topic group
                  stream.streamId with
              | .error unresolved => unresolved
              | .ok routing =>
                .resolved scope
                  { streamId := stream.streamId
                    topicRole := role
                    criticalityTier := resolveCriticalityTier stream inst topic sourceSystem
                    sourceSystem
                    blastRadius := deriveBlastRadius role
                    downstreamImpacts := deriveDownstreamImpacts inst
                    ownershipRouting := routing }
                  (scopeDiagnostics env clusterId topic group none ++
                    [("ownership_lookup_path", ownershipLookupPath group.isSome),
                      ("selected_owner_level", StrEnum.value routing.lookupLevel),
                      ("selected_routing_key", routing.target.routingKey)])

end Parts

end AiopsTriage
