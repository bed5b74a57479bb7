import AiopsTriage.Lib.SameValue
import AiopsTriage.Registry.Versions

/-!
# The compatibility view

`buildV0CompatView` shows one scope of a registry in the shape of version 1: the streams that
have an instance in the scope, each with the fields of that instance, and the topic index of the
scope. `V0CompatView.toLegacyDict` renders the view as a document: fields without a value and
empty ones are left out, dictionaries are sorted by their keys, and tuples become lists.

What the loader reads a rendered stream as is `V0CompatStream.reread`
(`canonicalizeV0Stream_toLegacyDict`).
-/

namespace AiopsTriage

namespace Registry

/-! ## Plain values -/

/-- The entries of a dictionary with texts for keys. -/
def textEntries (d : Dict String PyValue) : Entries := d.entries.map fun e => (.str e.1, e.2)

section PlainValues

variable [Platform]

mutual

/-- `_to_plain_value`. -/
def toPlainValue : PyValue → PyValue
  | .scalar x => .scalar x
  | .list items => .list (toPlainItems items)
  | .tuple items => .list (toPlainItems items)
  | .dict entries => .dict (textEntries (textKeys (sortByText (toPlainEntries entries))))

/-- `_to_plain_value` on the items of a list or tuple. -/
def toPlainItems : List PyValue → List PyValue
  | [] => []
  | item :: items => toPlainValue item :: toPlainItems items

/-- `_to_plain_value` on the values of a mapping. -/
def toPlainEntries : Entries → Entries
  | [] => []
  | (key, value) :: entries => (key, toPlainValue value) :: toPlainEntries entries

end

/-- `_to_sorted_plain_mapping` on a mapping with texts for keys. -/
def toSortedPlainMapping (d : Dict String PyValue) : Dict String PyValue :=
  (sortEntries (· ≤ ·) d).mapValues fun _ => toPlainValue

/-- `_to_sorted_string_mapping`. -/
def toSortedStringMapping (d : Dict String String) : Dict String String := sortEntries (· ≤ ·) d

end PlainValues

/-! ## The view -/

/-- `V0CompatTopicIndexEntry`. -/
structure V0CompatTopicIndexEntry where
  /-- the role of the topic -/
  role : String
  /-- its stream -/
  streamId : String
  /-- the system it is fed by -/
  sourceSystem : Option String := none
  deriving DecidableEq, Repr

/-- `V0CompatStream`. -/
structure V0CompatStream where
  /-- its id -/
  streamId : String
  /-- its environment -/
  env : String
  /-- what it is -/
  description : Option String := none
  /-- its tier -/
  criticalityTier : Option String := none
  /-- its owners -/
  owners : Dict String PyValue := .empty
  /-- topics by their part in the stream -/
  topics : Dict String String := .empty
  /-- its sources -/
  sources : List (Dict String PyValue) := []
  /-- its sinks -/
  sinks : List (Dict String PyValue) := []
  /-- components it shares with other streams -/
  sharedComponents : Dict String PyValue := .empty
  /-- when it has its peaks -/
  peakWindowPolicy : Option (Dict String PyValue) := none

/-- `V0CompatView`. -/
structure V0CompatView where
  /-- the version of the document -/
  version : Int := 1
  /-- the streams of the scope -/
  streams : List V0CompatStream
  /-- the topics of the scope -/
  topicIndex : Dict String V0CompatTopicIndexEntry

/-- `V0CompatView(...)`: the validator orders streams and topics. -/
def V0CompatView.build (streams : List V0CompatStream)
    (topicIndex : Dict String V0CompatTopicIndexEntry) : V0CompatView where
  streams := streams.insertionSort fun a b => a.streamId ≤ b.streamId
  topicIndex := sortEntries (· ≤ ·) topicIndex

/-- `TopologyRegistryCompatibilityError`. -/
structure TopologyRegistryCompatibilityError where
  /-- what is wrong -/
  category : String
  /-- in which registry -/
  sourcePath : String
  /-- at which part of the scope -/
  offendingKey : Option String := none
  /-- and why -/
  detail : String := ""
  deriving DecidableEq, Repr

/-- `_find_stream_instance_for_scope`. -/
def findStreamInstanceForScope (stream : CanonicalStream) (scope : ScopeKey) :
    Option CanonicalStreamInstance :=
  stream.instances.find? fun inst => inst.scope = scope

section View

variable (sourcePath : String)

/-- `_normalize_scope_component`. -/
def normalizeScopeComponent (componentName : String) (value : PyValue) :
    Except TopologyRegistryCompatibilityError String :=
  let invalid := fun detail => Except.error
    { category := "invalid_scope", sourcePath, offendingKey := some componentName, detail }
  match value with
  | .scalar (.str s) =>
    match trimmed s with
    | some text => .ok text
    | none => invalid "scope components must be non-empty strings"
  | _ => invalid "scope components must be strings"

variable [Platform]

/-- The view of a stream with an instance in the scope. -/
def compatStream (env : String) (stream : CanonicalStream) (inst : CanonicalStreamInstance) :
    V0CompatStream where
  streamId := stream.streamId
  env
  description := stream.description
  criticalityTier := stream.criticalityTier
  owners := toSortedPlainMapping stream.owners
  topics := toSortedStringMapping inst.topics
  sources := inst.sources.map toSortedPlainMapping
  sinks := inst.sinks.map toSortedPlainMapping
  sharedComponents := toSortedPlainMapping inst.sharedComponents
  peakWindowPolicy := inst.peakWindowPolicy.map toSortedPlainMapping

/-- The view of a topic. -/
def compatTopic (entry : CanonicalTopicEntry) : V0CompatTopicIndexEntry where
  role := entry.role
  streamId := entry.streamId
  sourceSystem := entry.sourceSystem

/-- `build_v0_compat_view`. -/
def buildV0CompatView (registry : CanonicalTopologyRegistry) (env clusterId : PyValue) :
    Except TopologyRegistryCompatibilityError V0CompatView := do
  let normalizedEnv ← normalizeScopeComponent sourcePath "env" env
  let normalizedClusterId ← normalizeScopeComponent sourcePath "cluster_id" clusterId
  let scope : ScopeKey := (normalizedEnv, normalizedClusterId)
  let scopedStreams := registry.streams.filterMap fun stream =>
    (findStreamInstanceForScope stream scope).map (compatStream normalizedEnv stream)
  if scopedStreams.isEmpty then
    .error {
      category := "scope_not_found"
      sourcePath
      offendingKey := some (normalizedEnv ++ ":" ++ normalizedClusterId)
      detail := "no stream instances found for requested scope" }
  else
    let scopedTopicIndex := (registry.topicIndexByScope.get? scope).getD .empty
    return .build scopedStreams
      ((sortEntries (· ≤ ·) scopedTopicIndex).mapValues fun _ => compatTopic)

end View

/-! ## The view as a document -/

/-- A field that is left out when it has no value. -/
def optionalField (key : String) (value : Option PyValue) : Entries :=
  (value.map fun v => (PyScalar.str key, v)).toList

section Rendering

variable [Platform]

/-- A mapping as a document has it. -/
def legacyMapping (d : Dict String PyValue) : PyValue :=
  .dict (textEntries (toSortedPlainMapping d))

/-- A mapping that is left out when it is empty. -/
def nonEmptyMapping (d : Dict String PyValue) : Option PyValue :=
  if d.entries.isEmpty then none else some (legacyMapping d)

/-- A mapping of texts that is left out when it is empty. -/
def nonEmptyTexts (d : Dict String String) : Option PyValue :=
  if d.entries.isEmpty then none
  else some (.dict ((toSortedStringMapping d).entries.map fun e => (.str e.1, .str e.2)))

/-- A list of mappings that is left out when it is empty. -/
def nonEmptyList (ds : List (Dict String PyValue)) : Option PyValue :=
  if ds.isEmpty then none else some (.list (ds.map legacyMapping))

/-- `V0CompatStream.to_legacy_dict`. -/
def V0CompatStream.toLegacyDict (s : V0CompatStream) : Entries :=
  (.str "stream_id", .str s.streamId) ::
  (.str "env", .str s.env) ::
  (optionalField "description" (s.description.map .str) ++
    (optionalField "criticality_tier" (s.criticalityTier.map .str) ++
    (optionalField "owners" (nonEmptyMapping s.owners) ++
    (optionalField "topics" (nonEmptyTexts s.topics) ++
    (optionalField "sources" (nonEmptyList s.sources) ++
    (optionalField "sinks" (nonEmptyList s.sinks) ++
    (optionalField "shared_components" (nonEmptyMapping s.sharedComponents) ++
    optionalField "peak_window_policy" (s.peakWindowPolicy.map legacyMapping))))))))

/-- `entry.model_dump(exclude_none=True)`. -/
def V0CompatTopicIndexEntry.toLegacyDict (entry : V0CompatTopicIndexEntry) : Entries :=
  (.str "role", .str entry.role) ::
  (.str "stream_id", .str entry.streamId) ::
  optionalField "source_system" (entry.sourceSystem.map .str)

/-- `V0CompatView.to_legacy_dict`. -/
def V0CompatView.toLegacyDict (view : V0CompatView) : Entries :=
  [(.str "version", .scalar (.int view.version)),
    (.str "streams", .list (view.streams.map fun stream => .dict stream.toLegacyDict)),
    (.str "topic_index", .dict (view.topicIndex.entries.map fun e =>
      (.str e.1, .dict e.2.toLegacyDict)))]

end Rendering

/-! ## Reading a rendered stream -/

/-- A text as the loader leaves it: stripped, and not blank. -/
def Trimmed (text : String) : Prop := trimmed text = some text

section Fields

variable {key l : String} {value : Option PyValue} {rest : Entries} {dflt : PyValue}

theorem getOr_optionalField_append : getOr (optionalField l value ++ rest) key dflt =
    if l = key then value.getD (getOr rest key dflt) else getOr rest key dflt := by
  cases value with
  | none => simp [optionalField]
  | some v => simp [optionalField, getOr_cons]

theorem getOr_optionalField : getOr (optionalField l value) key dflt =
    if l = key then value.getD dflt else dflt := by
  have h := @getOr_optionalField_append key l value [] dflt
  rwa [List.append_nil] at h

theorem optionalTextOf_getD {text : Option String} (h : ∀ t ∈ text, Trimmed t) :
    optionalTextOf ((text.map .str).getD .none) = some text := by
  cases text with
  | none => rfl
  | some t => exact congrArg some (h t rfl)

/-- A dictionary with no entries. -/
theorem eq_empty_of_isEmpty {ν : Type} {d : Dict String ν} (h : d.entries.isEmpty = true) :
    d = .empty := Dict.ext_entries (List.isEmpty_iff.mp h)

theorem readsTexts_getD {d : Dict String String}
    (h : ∀ e ∈ d.entries, Trimmed e.1 ∧ Trimmed e.2) :
    ReadsTexts ((nonEmptyTexts d).getD (.dict [])) (toSortedStringMapping d) := by
  unfold nonEmptyTexts
  split
  · next hempty =>
    rw [eq_empty_of_isEmpty hempty]
    exact .inr ⟨[], [], rfl, .nil, rfl⟩
  · refine .inr ⟨_, (toSortedStringMapping d).entries, rfl, ?_, (Dict.ofPairs_entries _).symm⟩
    rw [List.forall₂_map_left_iff, List.forall₂_same]
    intro e he
    obtain ⟨hkey, htext⟩ := h e ((List.mem_insertionSort _).mp he)
    simp only [textEntryOf, textOf, show trimmed e.1 = some e.1 from hkey,
      show trimmed e.2 = some e.2 from htext, Option.bind_eq_bind, Option.bind_some,
      Option.pure_def]

variable [Platform]

theorem textKeys_textEntries {d : Dict String PyValue} : textKeys (textEntries d) = d := by
  rw [textKeys, textEntries, List.map_map]
  refine (congrArg Dict.ofPairs ?_).trans (Dict.ofPairs_entries d)
  exact List.map_id' d.entries

theorem coerceMapping_getD {d : Dict String PyValue} :
    coerceMapping ((nonEmptyMapping d).getD (.dict [])) = toSortedPlainMapping d := by
  unfold nonEmptyMapping
  split
  · next hempty =>
    rw [eq_empty_of_isEmpty hempty]
    rfl
  · exact textKeys_textEntries

theorem coerceMappingList_getD {ds : List (Dict String PyValue)} :
    coerceMappingList ((nonEmptyList ds).getD (.tuple [])) = ds.map toSortedPlainMapping := by
  unfold nonEmptyList
  split
  · next hempty =>
    rw [List.isEmpty_iff.mp hempty]
    rfl
  · simp only [Option.getD_some, coerceMappingList, PyValue.asSequence, List.filterMap_map]
    rw [← List.filterMap_eq_map]
    refine List.filterMap_congr fun d _ => ?_
    exact congrArg some textKeys_textEntries

theorem coerceOptionalMapping_getD {d : Option (Dict String PyValue)} :
    coerceOptionalMapping ((d.map legacyMapping).getD .none) = d.map toSortedPlainMapping := by
  cases d with
  | none => rfl
  | some d => exact congrArg some textKeys_textEntries

end Fields

section Reading

variable [Platform]

/-- What a rendered stream is read as. -/
def V0CompatStream.reread (s : V0CompatStream) (clusterId : String) (topicIndex : TopicIndex) :
    CanonicalStream :=
  .build s.streamId s.description s.criticalityTier (toSortedPlainMapping s.owners) [{
    env := s.env
    clusterId, topicIndex
    topics := toSortedStringMapping s.topics
    sharedComponents := toSortedPlainMapping s.sharedComponents
    sources := s.sources.map toSortedPlainMapping
    sinks := s.sinks.map toSortedPlainMapping
    peakWindowPolicy := s.peakWindowPolicy.map toSortedPlainMapping }]

/-- A stream whose texts are as the loader leaves them. -/
structure V0CompatStream.Legible (s : V0CompatStream) : Prop where
  /-- the id -/
  streamId : Trimmed s.streamId
  /-- the environment -/
  env : Trimmed s.env
  /-- the description -/
  description : ∀ text ∈ s.description, Trimmed text
  /-- the tier -/
  criticalityTier : ∀ text ∈ s.criticalityTier, Trimmed text
  /-- the topics -/
  topics : ∀ e ∈ s.topics.entries, Trimmed e.1 ∧ Trimmed e.2

/-- **A rendered stream is read** as it is, with the default cluster and the topics that name
it. -/
theorem canonicalizeV0Stream_toLegacyDict {sourcePath defaultEnv clusterId : String}
    {groups : Dict String TopicIndex} {s : V0CompatStream} (h : s.Legible) :
    canonicalizeV0Stream sourcePath groups defaultEnv clusterId (.dict s.toLegacyDict) =
      .ok (s.reread clusterId ((groups.get? s.streamId).getD .empty)) := by
  have hid : textOf (get s.toLegacyDict "stream_id") = some s.streamId := h.streamId
  have henv : optionalTextOf (get s.toLegacyDict "env") = some (some s.env) :=
    congrArg some h.env
  have hcluster : optionalTextOf (get s.toLegacyDict "cluster_id") = some none := by
    simp [← getOr_none, V0CompatStream.toLegacyDict, getOr_cons, getOr_optionalField_append,
      getOr_optionalField, optionalTextOf]
  have hdescription : optionalTextOf (get s.toLegacyDict "description") = some s.description := by
    simp [← getOr_none, V0CompatStream.toLegacyDict, getOr_cons, getOr_optionalField_append,
      getOr_optionalField, optionalTextOf_getD h.description]
  have htier : optionalTextOf (get s.toLegacyDict "criticality_tier") = some s.criticalityTier := by
    simp [← getOr_none, V0CompatStream.toLegacyDict, getOr_cons, getOr_optionalField_append,
      getOr_optionalField, optionalTextOf_getD h.criticalityTier]
  have howners : getOr s.toLegacyDict "owners" (.dict []) =
      (nonEmptyMapping s.owners).getD (.dict []) := by
    simp [V0CompatStream.toLegacyDict, getOr_cons, getOr_optionalField_append, getOr_optionalField]
  have htopics : getOr s.toLegacyDict "topics" (.dict []) =
      (nonEmptyTexts s.topics).getD (.dict []) := by
    simp [V0CompatStream.toLegacyDict, getOr_cons, getOr_optionalField_append, getOr_optionalField]
  have hsources : getOr s.toLegacyDict "sources" (.tuple []) =
      (nonEmptyList s.sources).getD (.tuple []) := by
    simp [V0CompatStream.toLegacyDict, getOr_cons, getOr_optionalField_append, getOr_optionalField]
  have hsinks : getOr s.toLegacyDict "sinks" (.tuple []) =
      (nonEmptyList s.sinks).getD (.tuple []) := by
    simp [V0CompatStream.toLegacyDict, getOr_cons, getOr_optionalField_append, getOr_optionalField]
  have hshared : getOr s.toLegacyDict "shared_components" (.dict []) =
      (nonEmptyMapping s.sharedComponents).getD (.dict []) := by
    simp [V0CompatStream.toLegacyDict, getOr_cons, getOr_optionalField_append, getOr_optionalField]
  have hpeak : get s.toLegacyDict "peak_window_policy" =
      (s.peakWindowPolicy.map legacyMapping).getD .none := by
    simp [← getOr_none, V0CompatStream.toLegacyDict, getOr_cons, getOr_optionalField_append,
      getOr_optionalField]
  simp only [canonicalizeV0Stream, Except.bind_eq_ok, requireNonEmptyString_eq_ok,
    optionalString_eq_ok, finishInstance_iff, finishStream_iff]
  refine ⟨s.streamId, hid, some s.env, henv, none, hcluster, _,
    ⟨toSortedStringMapping s.topics, htopics ▸ readsTexts_getD h.topics, rfl⟩,
    s.description, hdescription, s.criticalityTier, htier, ?_⟩
  rw [howners, coerceMapping_getD, instanceOf, hshared, coerceMapping_getD, hsources,
    coerceMappingList_getD, hsinks, coerceMappingList_getD, hpeak, coerceOptionalMapping_getD]
  rfl

/-- A rendered topic is read as it is. -/
theorem canonicalizeV0Topic_toLegacyDict {sourcePath : String} {t : CanonicalTopicEntry}
    (hid : Trimmed t.streamId) (hrole : Trimmed t.role)
    (hsystem : ∀ s ∈ t.sourceSystem, Trimmed s) :
    canonicalizeV0Topic sourcePath (.str t.topic, .dict (compatTopic t).toLegacyDict) = .ok t := by
  refine canonicalizeV0Topic_eq_ok.mpr ⟨_, rfl, rfl, hid, hrole, ?_⟩
  have hfield : get (compatTopic t).toLegacyDict "source_system" =
      (t.sourceSystem.map .str).getD .none := by
    simp [← getOr_none, V0CompatTopicIndexEntry.toLegacyDict, compatTopic, getOr_cons,
      getOr_optionalField]
  rw [hfield, optionalTextOf_getD hsystem]

end Reading

end Registry

end AiopsTriage
