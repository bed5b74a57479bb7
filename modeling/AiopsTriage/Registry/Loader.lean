import AiopsTriage.Registry.Document
import AiopsTriage.Topology.Resolver
import AiopsTriage.Gating.Evaluate

/-!
# Loading the topology registry

A registry document comes in two shapes. Version 1 has one list of streams, each with one
environment and cluster, and one topic index whose entries name their stream
(`canonicalizeV0Streams`). Version 2 gives every stream a list of instances, each with a
topic index of its own (`canonicalizeV1Streams`). Both end as the same canonical streams,
from which the registry is put together (`canonicalizeRegistry`): streams by id, topics by
environment and cluster, the routing directory and the ownership map.

The canonical types are those of the source with all their fields; `forResolution` leaves
of a registry what resolution reads.
-/

namespace AiopsTriage

namespace Registry

/-! ## The canonical registry -/

/-- `CanonicalTopicEntry`. -/
structure CanonicalTopicEntry where
  /-- the topic -/
  topic : String
  /-- its role -/
  role : String
  /-- its stream -/
  streamId : String
  /-- the system it is fed by -/
  sourceSystem : Option String := none
  deriving DecidableEq, Repr

/-- A topic index. -/
abbrev TopicIndex := Dict String CanonicalTopicEntry

/-- An environment and a cluster. -/
abbrev ScopeKey := String × String

instance : LawfulBEq ScopeKey := inferInstance

/-- `CanonicalStreamInstance`. -/
structure CanonicalStreamInstance where
  /-- the environment -/
  env : String
  /-- the cluster -/
  clusterId : String
  /-- its topics, with role and stream -/
  topicIndex : TopicIndex
  /-- topics by their part in the stream -/
  topics : Dict String String := .empty
  /-- components it shares with other streams -/
  sharedComponents : Dict String PyValue := .empty
  /-- its sources -/
  sources : List (Dict String PyValue) := []
  /-- its sinks -/
  sinks : List (Dict String PyValue) := []
  /-- when it has its peaks -/
  peakWindowPolicy : Option (Dict String PyValue) := none

/-- The scope of an instance. -/
def CanonicalStreamInstance.scope (inst : CanonicalStreamInstance) : ScopeKey :=
  (inst.env, inst.clusterId)

/-- The order of scopes. -/
def ScopeKey.le (a b : ScopeKey) : Prop := [a.1, a.2] ≤ [b.1, b.2]

instance : DecidableRel ScopeKey.le := fun a b => inferInstanceAs (Decidable ([a.1, a.2] ≤ [b.1, b.2]))

/-- `CanonicalStream`. -/
structure CanonicalStream where
  /-- its id -/
  streamId : String
  /-- what it is -/
  description : Option String := none
  /-- its tier -/
  criticalityTier : Option String := none
  /-- its owners -/
  owners : Dict String PyValue := .empty
  /-- its instances -/
  instances : List CanonicalStreamInstance

/-- `CanonicalStream(...)`: the validator orders the instances. -/
def CanonicalStream.build (streamId : String) (description criticalityTier : Option String)
    (owners : Dict String PyValue) (instances : List CanonicalStreamInstance) : CanonicalStream where
  streamId
  description
  criticalityTier
  owners
  instances := instances.insertionSort fun a b => a.scope.le b.scope

/-- `ConsumerGroupOwnerEntry`, `TopicOwnerEntry` and `StreamDefaultOwnerEntry`: three names
and their owner. -/
structure OwnerEntry where
  /-- the names -/
  key : String × String × String
  /-- the routing key of the owner -/
  routingKey : String
  /-- where it comes from -/
  source : Option String := none
  /-- how sure it is -/
  confidence : Option PyFloat := none
  /-- why -/
  reasonCodes : List String := []
  deriving DecidableEq, Repr

/-- `CanonicalOwnershipMap`. -/
structure CanonicalOwnershipMap where
  /-- owners by environment, cluster and consumer group -/
  consumerGroupOwners : List OwnerEntry := []
  /-- owners by environment, cluster and topic -/
  topicOwners : List OwnerEntry := []
  /-- owners by stream, environment and cluster -/
  streamDefaultOwner : List OwnerEntry := []
  /-- who owns the rest -/
  platformDefault : Option String := none
  deriving DecidableEq, Repr

/-- `CanonicalTopologyRegistry`. -/
structure CanonicalTopologyRegistry where
  /-- the streams -/
  streams : List CanonicalStream
  /-- the streams by id -/
  streamsById : Dict String CanonicalStream
  /-- topics by environment and cluster -/
  topicIndexByScope : Dict ScopeKey TopicIndex
  /-- routing targets by key -/
  routingDirectory : Dict String RoutingDirectoryEntry
  /-- who owns what -/
  ownershipMap : CanonicalOwnershipMap

/-- `TopologyRegistryLoaderRulesV1`, as far as the loader reads it. -/
structure TopologyRegistryLoaderRulesV1 where
  /-- the versions that are loaded -/
  supportedRegistryVersions : List Int := [1, 2]
  /-- every owner must be in the routing directory -/
  routingKeyRequired : Bool := true
  /-- every role must be a known one -/
  failOnUnknownTopicRole : Bool := false

/-! ## Versions -/

/-- A version, and how it is printed. -/
structure RegistryVersion where
  /-- its number -/
  value : Int
  /-- its text -/
  text : String
  deriving DecidableEq, Repr

/-- The characters that are digits for `str.isdigit` and not for `int`: superscripts,
subscripts, and numbers in circles, brackets and with a full stop. -/
def otherDigits : List (Nat × Nat) :=
  [(0xb2, 0xb3), (0xb9, 0xb9), (0x1369, 0x1371), (0x19da, 0x19da), (0x2070, 0x2070),
    (0x2074, 0x2079), (0x2080, 0x2089), (0x2460, 0x2468), (0x2474, 0x247c), (0x2488, 0x2490),
    (0x24ea, 0x24ea), (0x24f5, 0x24fd), (0x24ff, 0x24ff), (0x2776, 0x277e), (0x2780, 0x2788),
    (0x278a, 0x2792), (0x10a40, 0x10a43), (0x10e60, 0x10e68), (0x11052, 0x1105a),
    (0x1f100, 0x1f10a)]

/-- `str.isdigit`. -/
def isDigits (cs : List Char) : Bool :=
  cs ≠ [] && cs.all fun c => (PyText.digitValue c).isSome ||
    otherDigits.any fun range => range.1 ≤ c.toNat && c.toNat ≤ range.2

section Load

variable [Platform] [Builtins]

/-- The message of the `ValueError` of `int(text)` on such a text: a digit is not a decimal one,
or there are too many of them. -/
def intErrorText (text : String) : String :=
  if text.toList.all fun c => (PyText.digitValue c).isSome then
    s!"Exceeds the limit (4300 digits) for integer string conversion: value has {text.length} digits; " ++
      "use sys.set_int_max_str_digits() to increase the limit"
  else
    "invalid literal for int() with base 10: " ++
      String.ofList ((Builtins.repr (.scalar (.str text))).toList.take 200)

/-- `_normalize_version`. -/
def normalizeVersion (value : PyValue) : Load RegistryVersion :=
  let unparsed : Load RegistryVersion := reject "unsupported_version_shape" "<inline>"
    (some "version") ("cannot parse version value " ++ Builtins.repr value)
  match value with
  | .scalar (.int n) => .ok ⟨n, toString n⟩
  | .scalar (.bool b) => .ok ⟨if b then 1 else 0, scalarText (.bool b)⟩
  | .scalar (.str s) =>
    let lowered := (Platform.lower (PyText.strip s)).toList
    let number := if lowered.head? = some 'v' then lowered.tail else lowered
    if isDigits number then
      match PyText.parseInt (String.ofList number) with
      | some n => .ok ⟨n, toString n⟩
      | none => .error (.python (.valueError (intErrorText (String.ofList number))))
    else unparsed
  | _ => unparsed

/-- Whether a stream entry has instances. -/
def hasInstances (stream : PyValue) : Bool :=
  match stream.asMapping with
  | some entries => (Dict.find (.str "instances") entries).isSome
  | none => false

/-- `_detect_registry_version`. -/
def detectRegistryVersion (raw : Entries) : Load RegistryVersion :=
  match getOr raw "version" (get raw "schema_version") with
  | .scalar .none =>
    match getOr raw "streams" (.tuple []) with
    | .list streams => .ok (if streams.any hasInstances then ⟨2, "2"⟩ else ⟨1, "1"⟩)
    | _ => .ok ⟨1, "1"⟩
  | rawVersion => normalizeVersion rawVersion

/-- The text of `tuple(versions)`. -/
def versionsText : List Int → String
  | [] => "()"
  | [n] => s!"({n},)"
  | ns => "(" ++ PyText.join ", " (ns.map toString) ++ ")"

variable (sourcePath : String)

/-- `_validate_supported_version`. -/
def validateSupportedVersion (version : RegistryVersion) (rules : TopologyRegistryLoaderRulesV1) :
    Load Unit :=
  rejectIf (version.value ∉ rules.supportedRegistryVersions) "unsupported_registry_version"
    sourcePath (some "version")
    s!"version {version.text} is not in supported versions {versionsText rules.supportedRegistryVersions}"

/-! ## Streams of version 1 -/

/-- An entry of the topic index of version 1. -/
def canonicalizeV0Topic : PyScalar × PyValue → Load CanonicalTopicEntry
  | (key, .dict entry) => do
    let topic := scalarText key
    let streamId ← requireNonEmptyString sourcePath "invalid_topic_index_entry"
      s!"topic_index.{topic}.stream_id" (get entry "stream_id")
    let role ← requireNonEmptyString sourcePath "invalid_topic_index_entry"
      s!"topic_index.{topic}.role" (get entry "role")
    let sourceSystem ← optionalString sourcePath "invalid_topic_index_entry"
      s!"topic_index.{topic}.source_system" (get entry "source_system")
    return { topic, role, streamId, sourceSystem }
  | (key, _) => reject "invalid_topic_index_entry" sourcePath (some (scalarText key))
      "topic_index entry must be an object"

/-- `sorted(index.items(), key=lambda x: str(x[0]))`. -/
def sortByText (entries : Entries) : Entries :=
  entries.insertionSort fun a b => scalarText a.1 ≤ scalarText b.1

/-- The topics of each stream: `topics_by_stream_id`. -/
def groupByStream (topics : List CanonicalTopicEntry) : Dict String TopicIndex :=
  topics.foldl (fun groups entry =>
    groups.set entry.streamId (((groups.get? entry.streamId).getD .empty).set entry.topic entry))
    .empty

/-- The entries of the topic index of version 1. -/
def rawTopicIndex (raw : Entries) : Load Entries :=
  match getOr raw "topic_index" (.dict []) with
  | .dict entries => .ok entries
  | _ => reject "invalid_topic_index_shape" sourcePath (some "topic_index")
      "v0 registry expects top-level topic_index mapping"

/-- The fields of a stream that both versions have in the same place, in the order in which
they are read. -/
def finishStream (streamId : String) (stream : Entries) (instances : List CanonicalStreamInstance) :
    Load CanonicalStream := do
  let description ← optionalString sourcePath "invalid_stream_entry"
    s!"streams[{streamId}].description" (get stream "description")
  let criticalityTier ← optionalString sourcePath "invalid_stream_entry"
    s!"streams[{streamId}].criticality_tier" (get stream "criticality_tier")
  return .build streamId description criticalityTier
    (coerceMapping (getOr stream "owners" (.dict []))) instances

/-- The fields of an instance that both versions have, but for the scope and the index. -/
def finishInstance (env clusterId : String) (topicIndex : TopicIndex) (category offendingKey : String)
    (fields : Entries) : Load CanonicalStreamInstance := do
  let topics ← coerceStringMapping sourcePath category offendingKey
    (getOr fields "topics" (.dict []))
  return {
    env, clusterId, topicIndex, topics
    sharedComponents := coerceMapping (getOr fields "shared_components" (.dict []))
    sources := coerceMappingList (getOr fields "sources" (.tuple []))
    sinks := coerceMappingList (getOr fields "sinks" (.tuple []))
    peakWindowPolicy := coerceOptionalMapping (get fields "peak_window_policy") }

/-- A stream of version 1. -/
def canonicalizeV0Stream (topicsByStreamId : Dict String TopicIndex)
    (defaultEnv defaultClusterId : String) : PyValue → Load CanonicalStream
  | .dict stream => do
    let streamId ← requireNonEmptyString sourcePath "invalid_stream_entry" "streams[].stream_id"
      (get stream "stream_id")
    let env ← optionalString sourcePath "invalid_stream_entry" s!"streams[{streamId}].env"
      (get stream "env")
    let clusterId ← optionalString sourcePath "invalid_stream_entry"
      s!"streams[{streamId}].cluster_id" (get stream "cluster_id")
    let inst ← finishInstance sourcePath (env.getD defaultEnv) (clusterId.getD defaultClusterId)
      ((topicsByStreamId.get? streamId).getD .empty) "invalid_stream_entry"
      s!"streams[{streamId}].topics" stream
    finishStream sourcePath streamId stream [inst]
  | _ => reject "invalid_stream_entry" sourcePath none "stream entry must be an object"

/-- `_canonicalize_v0_streams`. -/
def canonicalizeV0Streams (raw : Entries) (streamsRaw : List PyValue)
    (defaultEnv defaultClusterId : String) : Load (List CanonicalStream) := do
  let topicIndexRaw ← rawTopicIndex sourcePath raw
  let topics ← (sortByText topicIndexRaw).mapM (canonicalizeV0Topic sourcePath)
  let topicsByStreamId := groupByStream topics
  let streams ← streamsRaw.mapM
    (canonicalizeV0Stream sourcePath topicsByStreamId defaultEnv defaultClusterId)
  let unknownStreamRefs := (topicsByStreamId.keys.filter fun id =>
    id ∉ streams.map CanonicalStream.streamId).insertionSort (· ≤ ·)
  rejectIf (unknownStreamRefs ≠ []) "unknown_stream_reference" sourcePath unknownStreamRefs.head?
    "topic_index refers to stream_id not present in streams[]"
  return streams

/-! ## Streams of version 2 -/

/-- An entry of the topic index of an instance. -/
def canonicalizeInstanceTopic (streamId : String) (scope : ScopeKey) :
    PyScalar × PyValue → Load CanonicalTopicEntry
  | (key, .dict entry) => do
    let topic := scalarText key
    let where_ := s!"{scope.1}:{scope.2}:{topic}"
    let entryStreamId ← optionalString sourcePath "invalid_topic_index_entry" (where_ ++ ".stream_id")
      (get entry "stream_id")
    let entryStreamId := entryStreamId.getD streamId
    rejectIf (entryStreamId ≠ streamId) "topic_index_stream_mismatch" sourcePath (some where_)
      ("entry stream_id=" ++ reprText entryStreamId ++ " does not match parent stream " ++
        reprText streamId)
    let role ← requireNonEmptyString sourcePath "invalid_topic_index_entry" (where_ ++ ".role")
      (get entry "role")
    let sourceSystem ← optionalString sourcePath "invalid_topic_index_entry"
      (where_ ++ ".source_system") (get entry "source_system")
    return { topic, role, streamId, sourceSystem }
  | (key, _) => reject "invalid_topic_index_entry" sourcePath
      (some (scope.1 ++ ":" ++ scope.2 ++ ":" ++ scalarText key)) "topic_index entry must be an object"

/-- A topic index of its entries: of two entries for one topic the last one counts. -/
def indexOf (topics : List CanonicalTopicEntry) : TopicIndex :=
  topics.foldl (fun index entry => index.set entry.topic entry) .empty

/-- `_canonicalize_instance_topic_index`. -/
def canonicalizeInstanceTopicIndex (streamId : String) (scope : ScopeKey) : PyValue → Load TopicIndex
  | .dict entries => do
    let topics ← (sortByText entries).mapM (canonicalizeInstanceTopic sourcePath streamId scope)
    return indexOf topics
  | _ => reject "invalid_topic_index_shape" sourcePath (some s!"{scope.1}:{scope.2}")
      "topic_index must be an object"

/-- An instance of a stream of version 2. -/
def canonicalizeInstance (streamId : String) : PyValue → Load CanonicalStreamInstance
  | .dict inst => do
    let env ← requireNonEmptyString sourcePath "invalid_instance_entry"
      s!"streams[{streamId}].instances[].env" (get inst "env")
    let clusterId ← requireNonEmptyString sourcePath "invalid_instance_entry"
      s!"streams[{streamId}].instances[].cluster_id" (get inst "cluster_id")
    let topicIndex ← canonicalizeInstanceTopicIndex sourcePath streamId (env, clusterId)
      (getOr inst "topic_index" (.dict []))
    finishInstance sourcePath env clusterId topicIndex "invalid_instance_entry"
      s!"streams[{streamId}].instances[{env}:{clusterId}].topics" inst
  | _ => reject "invalid_instance_entry" sourcePath (some s!"streams[{streamId}].instances[]")
      "instance entry must be an object"

/-- The instances of a stream of version 2. -/
def canonicalizeInstances (streamId : String) : PyValue → Load (List CanonicalStreamInstance)
  | .list instancesRaw => instancesRaw.mapM (canonicalizeInstance sourcePath streamId)
  | _ => reject "invalid_instances_shape" sourcePath (some s!"streams[{streamId}].instances")
      "instances must be a list for v1/v2 shape"

/-- A stream of version 2. -/
def canonicalizeV1Stream : PyValue → Load CanonicalStream
  | .dict stream => do
    let streamId ← requireNonEmptyString sourcePath "invalid_stream_entry" "streams[].stream_id"
      (get stream "stream_id")
    let instances ← canonicalizeInstances sourcePath streamId (getOr stream "instances" (.tuple []))
    finishStream sourcePath streamId stream instances
  | _ => reject "invalid_stream_entry" sourcePath none "stream entry must be an object"

/-- `_canonicalize_v1_streams`. -/
def canonicalizeV1Streams (streamsRaw : List PyValue) : Load (List CanonicalStream) :=
  streamsRaw.mapM (canonicalizeV1Stream sourcePath)

/-! ## Routing and ownership -/

/-- `raw_directory in (None, {})` and not a list: what counts as no directory. -/
def routingDirectoryItems : PyValue → Option (List PyValue)
  | .scalar .none => some []
  | .dict [] => some []
  | value => value.asSequence

/-- The target of a routing key. -/
def canonicalizeRoutingTarget (routingKey : String) (item : Entries) : Load RoutingDirectoryEntry := do
  let category := "invalid_routing_directory_entry"
  let where_ := s!"routing_directory[{routingKey}]."
  let owningTeamId ← requireNonEmptyString sourcePath category (where_ ++ "owning_team_id")
    (get item "owning_team_id")
  let owningTeamName ← requireNonEmptyString sourcePath category (where_ ++ "owning_team_name")
    (get item "owning_team_name")
  let supportChannel ← optionalString sourcePath category (where_ ++ "support_channel")
    (get item "support_channel")
  let escalationPolicyRef ← optionalString sourcePath category (where_ ++ "escalation_policy_ref")
    (get item "escalation_policy_ref")
  let serviceNowAssignmentGroup ← optionalString sourcePath category
    (where_ ++ "service_now_assignment_group") (get item "service_now_assignment_group")
  return ⟨routingKey, owningTeamId, owningTeamName, supportChannel, escalationPolicyRef,
    serviceNowAssignmentGroup⟩

/-- One round of the loop over the routing directory. -/
def addRoutingEntry (directory : Dict String RoutingDirectoryEntry) :
    PyValue → Load (Dict String RoutingDirectoryEntry)
  | .dict item => do
    let routingKey ← requireNonEmptyString sourcePath "invalid_routing_directory_entry"
      "routing_directory[].routing_key" (get item "routing_key")
    rejectIf (directory.get? routingKey).isSome "duplicate_routing_key" sourcePath (some routingKey)
      "routing_directory contains duplicate routing_key entries"
    let entry ← canonicalizeRoutingTarget sourcePath routingKey item
    return directory.set routingKey entry
  | _ => reject "invalid_routing_directory_entry" sourcePath none
      "routing_directory entry must be an object"

/-- `_canonicalize_routing_directory`. -/
def canonicalizeRoutingDirectory (raw : Entries) : Load (Dict String RoutingDirectoryEntry) :=
  match routingDirectoryItems (getOr raw "routing_directory" (.tuple [])) with
  | some items => items.foldlM (addRoutingEntry sourcePath) .empty
  | none => reject "invalid_routing_directory_shape" sourcePath (some "routing_directory")
      "routing_directory must be a list"

/-- How one of the three lists of owners is read. -/
structure OwnerKind where
  /-- its key in the ownership map -/
  field : String
  /-- the category of a list that is none -/
  shapeCategory : String
  /-- the category of an entry that is wrong -/
  entryCategory : String
  /-- what an entry is called -/
  noun : String
  /-- the names it is about -/
  names : String × String × String

/-- An entry of a list of owners. -/
def coerceOwner (kind : OwnerKind) : PyValue → Load OwnerEntry
  | .dict item => do
    let ownerMatch := coerceMapping (getOr item "match" (.dict []))
    let category := kind.entryCategory
    let name := fun key : String => requireNonEmptyString sourcePath category
      ("ownership_map." ++ kind.field ++ "[].match." ++ key) ((ownerMatch.get? key).getD .none)
    let first ← name kind.names.1
    let second ← name kind.names.2.1
    let third ← name kind.names.2.2
    let routingKey ← requireNonEmptyString sourcePath category
      ("ownership_map." ++ kind.field ++ "[].routing_key") (get item "routing_key")
    let source ← optionalString sourcePath category
      ("ownership_map." ++ kind.field ++ "[].source") (get item "source")
    let confidence ← coerceOptionalFloat sourcePath category
      ("ownership_map." ++ kind.field ++ "[].confidence") (get item "confidence")
    return {
      key := (first, second, third)
      routingKey, source, confidence
      reasonCodes := coerceStringTuple (getOr item "reason_codes" (.tuple [])) }
  | _ => reject kind.entryCategory sourcePath none (kind.noun ++ " entry must be an object")

/-- A list of owners. -/
def coerceOwners (kind : OwnerKind) (rawEntries : PyValue) : Load (List OwnerEntry) :=
  match rawEntries.asSequence with
  | some items => items.mapM (coerceOwner sourcePath kind)
  | none => reject kind.shapeCategory sourcePath (some ("ownership_map." ++ kind.field))
      (kind.field ++ " must be a list")

/-- `_coerce_consumer_group_owners`. -/
def coerceConsumerGroupOwners : PyValue → Load (List OwnerEntry) :=
  coerceOwners sourcePath
    { field := "consumer_group_owners"
      shapeCategory := "invalid_consumer_group_owners_shape"
      entryCategory := "invalid_consumer_group_owner_entry"
      noun := "consumer_group_owner"
      names := ("env", "cluster_id", "group") }

/-- `_coerce_topic_owners`. -/
def coerceTopicOwners : PyValue → Load (List OwnerEntry) :=
  coerceOwners sourcePath
    { field := "topic_owners"
      shapeCategory := "invalid_topic_owners_shape"
      entryCategory := "invalid_topic_owner_entry"
      noun := "topic_owner"
      names := ("env", "cluster_id", "topic") }

/-- `_coerce_stream_default_owners`. -/
def coerceStreamDefaultOwners : PyValue → Load (List OwnerEntry) :=
  coerceOwners sourcePath
    { field := "stream_default_owner"
      shapeCategory := "invalid_stream_default_owner_shape"
      entryCategory := "invalid_stream_default_owner_entry"
      noun := "stream_default_owner"
      names := ("stream_id", "env", "cluster_id") }

/-- The order of owners. -/
def sortOwners (owners : List OwnerEntry) : List OwnerEntry :=
  owners.insertionSort fun a b =>
    [a.key.1, a.key.2.1, a.key.2.2] ≤ [b.key.1, b.key.2.1, b.key.2.2]

/-- The ownership map as a mapping; `None` and an empty list stand for an empty one. -/
def ownershipEntries : PyValue → Option Entries
  | .scalar .none => some []
  | .list [] => some []
  | value => value.asMapping

/-- `_canonicalize_ownership_map`. -/
def canonicalizeOwnershipMap (raw : Entries) : Load CanonicalOwnershipMap :=
  match ownershipEntries (getOr raw "ownership_map" (.dict [])) with
  | none => reject "invalid_ownership_map_shape" sourcePath (some "ownership_map")
      "ownership_map must be an object"
  | some ownershipRaw => do
    let consumerGroupOwners ← coerceConsumerGroupOwners sourcePath
      (getOr ownershipRaw "consumer_group_owners" (.tuple []))
    let topicOwners ← coerceTopicOwners sourcePath (getOr ownershipRaw "topic_owners" (.tuple []))
    let streamDefaultOwner ← coerceStreamDefaultOwners sourcePath
      (getOr ownershipRaw "stream_default_owner" (.tuple []))
    let platformDefault ← optionalString sourcePath "invalid_ownership_map_shape"
      "ownership_map.platform_default" (get ownershipRaw "platform_default")
    return {
      consumerGroupOwners := sortOwners consumerGroupOwners
      topicOwners := sortOwners topicOwners
      streamDefaultOwner := sortOwners streamDefaultOwner
      platformDefault }

/-! ## Putting the registry together -/

/-- `_KNOWN_TOPIC_ROLES`. -/
def knownTopicRoles : List String := topicRoleNormalization.map Prod.fst

/-- One more topic of a scope. -/
def addTopic (rules : TopologyRegistryLoaderRulesV1) (scope : ScopeKey) (index : TopicIndex)
    (topicEntry : String × CanonicalTopicEntry) : Load TopicIndex := do
  let (topic, entry) := topicEntry
  let where_ := s!"{scope.1}:{scope.2}:{topic}"
  rejectIf (index.get? topic).isSome "duplicate_topic_index" sourcePath (some where_)
    "duplicate topic_index key within (env, cluster_id) scope"
  let allowed := PyText.join ", " (knownTopicRoles.insertionSort (· ≤ ·))
  rejectIf (rules.failOnUnknownTopicRole = true ∧ entry.role ∉ knownTopicRoles)
    "unknown_topic_role" sourcePath (some where_)
    ("unsupported role " ++ reprText entry.role ++ "; allowed roles: " ++ allowed)
  return index.set topic entry

/-- What the loop over the streams has so far. -/
structure Assembly where
  /-- the streams by id -/
  streamsById : Dict String CanonicalStream := .empty
  /-- topics by environment and cluster -/
  topicIndexByScope : Dict ScopeKey TopicIndex := .empty
  /-- the scopes of the stream at hand -/
  seenScopeForStream : List ScopeKey := []

/-- One more instance of a stream. -/
def addInstance (rules : TopologyRegistryLoaderRulesV1) (streamId : String) (a : Assembly)
    (inst : CanonicalStreamInstance) : Load Assembly := do
  let scope := inst.scope
  rejectIf (scope ∈ a.seenScopeForStream) "duplicate_instance_scope" sourcePath
    (some s!"{streamId}:{scope.1}:{scope.2}")
    "instances must be unique by (env, cluster_id) per stream"
  let index ← inst.topicIndex.entries.foldlM (addTopic sourcePath rules scope)
    ((a.topicIndexByScope.get? scope).getD .empty)
  return { a with
    topicIndexByScope := a.topicIndexByScope.set scope index
    seenScopeForStream := scope :: a.seenScopeForStream }

/-- One more stream. -/
def addStream (rules : TopologyRegistryLoaderRulesV1) (a : Assembly) (stream : CanonicalStream) :
    Load Assembly := do
  rejectIf (a.streamsById.get? stream.streamId).isSome "duplicate_stream_id" sourcePath
    (some stream.streamId) "stream_id must be unique across registry"
  stream.instances.foldlM (addInstance sourcePath rules stream.streamId)
    { a with
      streamsById := a.streamsById.set stream.streamId stream
      seenScopeForStream := [] }

/-- A dictionary with its entries in order. -/
def sortEntries {κ ν : Type} (r : κ → κ → Prop) [DecidableRel r] (d : Dict κ ν) : Dict κ ν where
  entries := d.entries.insertionSort fun a b => r a.1 b.1
  nodup := ((List.perm_insertionSort _ d.entries).map Prod.fst).nodup_iff.mpr d.nodup

/-- The streams of the document. -/
def canonicalizeStreams (raw : Entries) (streamsRaw : List PyValue) (inputVersion : Int)
    (defaultEnv defaultClusterId : String) : Load (List CanonicalStream) :=
  if 2 ≤ inputVersion then canonicalizeV1Streams sourcePath streamsRaw
  else canonicalizeV0Streams sourcePath raw streamsRaw defaultEnv defaultClusterId

/-- `_canonicalize_registry`. -/
def canonicalizeRegistry (raw : Entries) (rules : TopologyRegistryLoaderRulesV1)
    (inputVersion : Int) (defaultEnv defaultClusterId : String) : Load CanonicalTopologyRegistry :=
  match get raw "streams" with
  | .list streamsRaw => do
    let streams ← canonicalizeStreams sourcePath raw streamsRaw inputVersion defaultEnv
      defaultClusterId
    let assembly ← streams.foldlM (addStream sourcePath rules) {}
    let routingDirectory ← canonicalizeRoutingDirectory sourcePath raw
    let ownershipMap ← canonicalizeOwnershipMap sourcePath raw
    return {
      streams := streams.insertionSort fun a b => a.streamId ≤ b.streamId
      streamsById := assembly.streamsById
      topicIndexByScope := sortEntries ScopeKey.le assembly.topicIndexByScope
      routingDirectory, ownershipMap }
  | _ => reject "invalid_streams_shape" sourcePath (some "streams")
      "expected a list of stream entries"

/-- The check that no two owners are about the same names. -/
def rejectDuplicateOwner (category detail : String) :
    List (String × String × String) → List OwnerEntry → Load Unit
  | _, [] => .ok ()
  | seen, owner :: owners => do
    rejectIf (owner.key ∈ seen) category sourcePath
      (some (owner.key.1 ++ ":" ++ owner.key.2.1 ++ ":" ++ owner.key.2.2)) detail
    rejectDuplicateOwner category detail (owner.key :: seen) owners

/-- The routing keys that the ownership map refers to. -/
def referencedRoutingKeys (owners : CanonicalOwnershipMap) : List String :=
  (owners.consumerGroupOwners ++ owners.topicOwners ++ owners.streamDefaultOwner).map
      OwnerEntry.routingKey ++ owners.platformDefault.toList

/-- `_validate_ownership_matrix`. -/
def validateOwnershipMatrix (registry : CanonicalTopologyRegistry)
    (rules : TopologyRegistryLoaderRulesV1) : Load Unit := do
  let owners := registry.ownershipMap
  rejectDuplicateOwner sourcePath "duplicate_consumer_group_owner"
    "duplicate consumer-group ownership key" [] owners.consumerGroupOwners
  rejectDuplicateOwner sourcePath "duplicate_topic_owner" "duplicate topic ownership key" []
    owners.topicOwners
  rejectDuplicateOwner sourcePath "duplicate_stream_default_owner"
    "duplicate stream-default ownership key" [] owners.streamDefaultOwner
  let missing := ((referencedRoutingKeys owners).filter fun key =>
    (registry.routingDirectory.get? key).isNone).insertionSort (· ≤ ·)
  rejectIf (rules.routingKeyRequired = true ∧ missing ≠ []) "missing_routing_key_reference" sourcePath
    missing.head? "routing_key is referenced by ownership map but missing in routing_directory"

/-- `load_topology_registry` on what the YAML file is read as: the registry and the version of
the document. -/
def loadTopologyRegistry (loaded : PyValue) (rules : TopologyRegistryLoaderRulesV1)
    (defaultEnv defaultClusterId : String) : Load (CanonicalTopologyRegistry × RegistryVersion) :=
  match loaded with
  | .dict raw => do
    let inputVersion ← detectRegistryVersion raw
    validateSupportedVersion sourcePath inputVersion rules
    let registry ← canonicalizeRegistry sourcePath raw rules inputVersion.value defaultEnv
      defaultClusterId
    validateOwnershipMatrix sourcePath registry rules
    return (registry, inputVersion)
  | _ => reject "invalid_topology_shape" sourcePath none "top-level YAML node must be a mapping"

end Load

/-! ## What resolution reads -/

/-- An owner, as resolution reads it. -/
def OwnerEntry.forResolution (owner : OwnerEntry) : AiopsTriage.OwnerEntry :=
  ⟨owner.key, owner.routingKey⟩

/-- An instance, as resolution reads it; `render` makes JSON trees of metadata. -/
def CanonicalStreamInstance.forResolution (render : PyValue → Json)
    (inst : CanonicalStreamInstance) : AiopsTriage.CanonicalStreamInstance where
  env := inst.env
  clusterId := inst.clusterId
  sharedComponents := inst.sharedComponents.mapValues fun _ => render
  sources := inst.sources.map fun source => source.mapValues fun _ => render
  sinks := inst.sinks.map fun sink => sink.mapValues fun _ => render

/-- A stream, as resolution reads it. -/
def CanonicalStream.forResolution (render : PyValue → Json) (stream : CanonicalStream) :
    AiopsTriage.CanonicalStream where
  streamId := stream.streamId
  criticalityTier := stream.criticalityTier
  instances := stream.instances.map (CanonicalStreamInstance.forResolution render)

/-- A topic entry, as resolution reads it. -/
def CanonicalTopicEntry.forResolution (entry : CanonicalTopicEntry) :
    AiopsTriage.CanonicalTopicEntry :=
  ⟨entry.role, entry.streamId, entry.sourceSystem⟩

/-- The registry, as resolution reads it. -/
def CanonicalTopologyRegistry.forResolution (render : PyValue → Json)
    (registry : CanonicalTopologyRegistry) : TopologyRegistrySnapshot where
  streamsById := registry.streamsById.mapValues fun _ => CanonicalStream.forResolution render
  topicIndexByScope := registry.topicIndexByScope.mapValues fun _ index =>
    index.mapValues fun _ => CanonicalTopicEntry.forResolution
  routingDirectory := registry.routingDirectory
  ownershipMap :=
    { consumerGroupOwners := registry.ownershipMap.consumerGroupOwners.map OwnerEntry.forResolution
      topicOwners := registry.ownershipMap.topicOwners.map OwnerEntry.forResolution
      streamDefaultOwner := registry.ownershipMap.streamDefaultOwner.map OwnerEntry.forResolution
      platformDefault := registry.ownershipMap.platformDefault }

end Registry

end AiopsTriage
