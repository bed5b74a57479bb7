import AiopsTriage.Lib.SortByKey
import AiopsTriage.Registry.Streams

/-!
# The two versions of a document

A document of version 1 has streams with one scope each and one topic index, a document of
version 2 has streams with instances. `toVersion2` gives every stream of a document of version 1
the one instance it stands for: its scope or the default one, the entries of the topic index that
name it, and the fields that an instance has. Both documents are read as the same streams
(`canonicalizeStreams_toVersion2`), so both are loaded or neither is, and with the same registry
(`versions_agree`).
-/

namespace AiopsTriage

namespace Registry

/-! ## From version 1 to version 2 -/

/-- The streams of a document. -/
def streamObjects (raw : Entries) : List Entries :=
  ((get raw "streams").asList.getD []).filterMap PyValue.asMapping

/-- The topic index of a document of version 1. -/
def topicEntries (raw : Entries) : Entries :=
  (getOr raw "topic_index" (.dict [])).asMapping.getD []

/-- The stream that an entry of a topic index names. -/
def namedStream (e : PyScalar × PyValue) : Option String := do
  let fields ← e.2.asMapping
  textOf (get fields "stream_id")

/-- The key is one of some texts. -/
def isOneOf (keys : List String) : PyScalar → Bool
  | .str key => key ∈ keys
  | _ => false

/-- The fields of a stream of version 1 that its instance has in version 2. -/
def instanceFields : List String :=
  ["topics", "sources", "sinks", "shared_components", "peak_window_policy"]

/-- The environment or cluster of an instance: what the stream has, or else the default. -/
def scopeField (dflt : String) (value : PyValue) : PyValue :=
  if optionalTextOf value = some none then .str dflt else value

/-- The instance of a stream of version 1. -/
def toInstance (defaultEnv defaultClusterId : String) (index stream : Entries) : Entries :=
  (.str "env", scopeField defaultEnv (get stream "env")) ::
  (.str "cluster_id", scopeField defaultClusterId (get stream "cluster_id")) ::
  (.str "topic_index",
    .dict (index.filter fun e => namedStream e = textOf (get stream "stream_id"))) ::
  stream.filter fun e => isOneOf instanceFields e.1

/-- The fields of a stream of version 1 that its stream does not have in version 2. -/
def movedFields : List String := ["instances", "env", "cluster_id"] ++ instanceFields

/-- A stream of version 1 with its instance. -/
def toStream (defaultEnv defaultClusterId : String) (index stream : Entries) : Entries :=
  (.str "instances", .list [.dict (toInstance defaultEnv defaultClusterId index stream)]) ::
  stream.filter fun e => !isOneOf movedFields e.1

/-- The fields of a document of version 1 that are other ones in version 2. -/
def versionFields : List String := ["version", "schema_version", "streams", "topic_index"]

/-- A document of version 1 as one of version 2. -/
def toVersion2 (defaultEnv defaultClusterId : String) (raw : Entries) : Entries :=
  (.str "version", .scalar (.int 2)) ::
  (.str "streams", .list ((streamObjects raw).map fun stream =>
    .dict (toStream defaultEnv defaultClusterId (topicEntries raw) stream))) ::
  raw.filter fun e => !isOneOf versionFields e.1

/-- A document of version 1 whose streams are objects with an id, and whose topic index has
objects that each name one of them. -/
structure Version1Shaped [Platform] [Builtins] (raw : Entries) : Prop where
  /-- version 1 -/
  version : ∃ version, detectRegistryVersion raw = .ok version ∧ version.value = 1
  /-- a list of objects -/
  streams : get raw "streams" = .list ((streamObjects raw).map .dict)
  /-- with an id each -/
  ids : ∀ stream ∈ streamObjects raw, ∃ id, textOf (get stream "stream_id") = some id
  /-- a topic index -/
  index : getOr raw "topic_index" (.dict []) = .dict (topicEntries raw)
  /-- of objects that name a stream -/
  named : ∀ e ∈ topicEntries raw, ∃ id, namedStream e = some id ∧
    ∃ stream ∈ streamObjects raw, textOf (get stream "stream_id") = some id

section Fields

variable {p : PyScalar → Bool} {key : String} {fields : Entries} {dflt : PyValue}

theorem getOr_filter (hkey : p (.str key) = true) :
    getOr (fields.filter fun e => p e.1) key dflt = getOr fields key dflt := by
  rw [getOr, getOr, Dict.find_filter hkey]

theorem getOr_cons {l : PyScalar} {v : PyValue} :
    getOr ((l, v) :: fields) key dflt = if l = .str key then v else getOr fields key dflt := by
  rw [getOr, Dict.find_cons, apply_ite (Option.getD · dflt), getOr, Option.getD_some]

theorem getOr_none : getOr fields key .none = get fields key := rfl

variable {defaultEnv defaultClusterId : String} {index stream raw : Entries}

/-- An instance has the fields of an instance from its stream. -/
theorem getOr_toInstance (hkey : key ∈ instanceFields) :
    getOr (toInstance defaultEnv defaultClusterId index stream) key dflt =
      getOr stream key dflt := by
  have hother : ∀ other ∉ instanceFields, PyScalar.str other ≠ .str key := by
    rintro other hother ⟨⟩
    exact hother hkey
  rw [toInstance, getOr_cons, if_neg (hother "env" (by decide)), getOr_cons,
    if_neg (hother "cluster_id" (by decide)), getOr_cons,
    if_neg (hother "topic_index" (by decide)), getOr_filter (decide_eq_true hkey)]

/-- A stream keeps the fields that are not moved. -/
theorem getOr_toStream (hkey : key ∉ movedFields) :
    getOr (toStream defaultEnv defaultClusterId index stream) key dflt = getOr stream key dflt := by
  have hother : PyScalar.str "instances" ≠ .str key := by
    rintro ⟨⟩
    exact hkey (by decide)
  have hkept : (!isOneOf movedFields (.str key)) = true := by
    rw [isOneOf, decide_eq_false hkey, Bool.not_false]
  rw [toStream, getOr_cons, if_neg hother,
    getOr_filter (p := fun k => !isOneOf movedFields k) hkept]

/-- The entries of the topic index that name the stream. -/
theorem getOr_toInstance_topicIndex {id : String}
    (hid : textOf (get stream "stream_id") = some id) :
    getOr (toInstance defaultEnv defaultClusterId index stream) "topic_index" dflt =
      .dict (index.filter fun e => namedStream e = some id) := by
  simp [toInstance, getOr_cons, hid]

/-- The one instance. -/
theorem getOr_toStream_instances :
    getOr (toStream defaultEnv defaultClusterId index stream) "instances" dflt =
      .list [.dict (toInstance defaultEnv defaultClusterId index stream)] := by
  simp [toStream, getOr_cons]

/-- A document keeps the fields that do not depend on the version. -/
theorem getOr_toVersion2 (hkey : key ∉ versionFields) :
    getOr (toVersion2 defaultEnv defaultClusterId raw) key dflt = getOr raw key dflt := by
  have hother : ∀ other ∈ versionFields, PyScalar.str other ≠ .str key := by
    rintro other hother ⟨⟩
    exact hkey hother
  have hkept : (!isOneOf versionFields (.str key)) = true := by
    rw [isOneOf, decide_eq_false hkey, Bool.not_false]
  rw [toVersion2, getOr_cons, if_neg (hother "version" (by decide)), getOr_cons,
    if_neg (hother "streams" (by decide)),
    getOr_filter (p := fun k => !isOneOf versionFields k) hkept]

/-- A required field of version 2 is read as the optional one of version 1, with its default. -/
theorem textOf_scopeField {text : String} {value : PyValue} {t : String}
    (h : trimmed text = some text) : textOf (scopeField text value) = some t ↔
      ∃ own, optionalTextOf value = some own ∧ own.getD text = t := by
  unfold scopeField
  split
  · next hnone =>
    rw [hnone]
    simp [textOf, h]
  · next hsome =>
    unfold optionalTextOf at hsome ⊢
    unfold textOf
    split at hsome
    · exact absurd rfl hsome
    · next s =>
      cases hs : trimmed s with
      | none => exact absurd (congrArg some hs) hsome
      | some own => simp [hs]
    · next hother hstr =>
      split
      · next s => exact absurd rfl (hstr s)
      · simp

end Fields

/-! ## The same streams -/

section Streams

variable [Platform] {sourcePath defaultEnv defaultClusterId id : String} {index stream : Entries}
  {topics : List CanonicalTopicEntry} {e : PyScalar × PyValue} {t : CanonicalTopicEntry}

omit [Platform] in
theorem optionalTextOf_of_textOf {value : PyValue} {text : String} (h : textOf value = some text) :
    optionalTextOf value = some (some text) := by
  obtain ⟨s, rfl, hs⟩ := textOf_eq_some.mp h
  exact congrArg some hs

omit [Platform] in
theorem namedStream_eq_some : namedStream e = some id ↔
    ∃ fields, e.2 = .dict fields ∧ textOf (get fields "stream_id") = some id := by
  obtain ⟨key, value⟩ := e
  cases value with
  | dict fields => simp [namedStream, PyValue.asMapping]
  | scalar _ => simp [namedStream, PyValue.asMapping]
  | list _ => simp [namedStream, PyValue.asMapping]
  | tuple _ => simp [namedStream, PyValue.asMapping]

/-- An entry is read in version 1 as in an instance of the stream it names. -/
theorem canonicalizeV0Topic_iff {scope : ScopeKey} (hnamed : namedStream e = some id) :
    canonicalizeV0Topic sourcePath e = .ok t ↔
      canonicalizeInstanceTopic sourcePath id scope e = .ok t := by
  obtain ⟨fields, hfields, hid⟩ := namedStream_eq_some.mp hnamed
  rw [canonicalizeV0Topic_eq_ok, canonicalizeInstanceTopic_eq_ok]
  refine exists_congr fun other => and_congr_right fun hother => and_congr_right fun _ => ?_
  obtain rfl : fields = other := PyValue.dict.inj (hfields.symm.trans hother)
  rw [hid, Option.some.injEq]
  constructor
  · rintro ⟨rfl, hrole, hsystem⟩
    exact ⟨rfl, ⟨_, optionalTextOf_of_textOf hid, rfl⟩, hrole, hsystem⟩
  · rintro ⟨rfl, -, hrole, hsystem⟩
    exact ⟨rfl, hrole, hsystem⟩

/-- The entries of a topic index that name a stream are read as the topics of that stream. -/
theorem ownTopicIndex_eq_ok {scope : ScopeKey}
    (hread : List.Forall₂ (fun e t => canonicalizeV0Topic sourcePath e = .ok t) (sortByText index)
      topics) :
    canonicalizeInstanceTopicIndex sourcePath id scope
        (.dict (index.filter fun e => namedStream e = some id)) =
      .ok (((groupByStream topics).get? id).getD .empty) := by
  have hname : ∀ e t, canonicalizeV0Topic sourcePath e = .ok t →
      namedStream e = some t.streamId := by
    intro e t ht
    obtain ⟨fields, hfields, -, hid, -⟩ := canonicalizeV0Topic_eq_ok.mp ht
    exact namedStream_eq_some.mpr ⟨fields, hfields, hid⟩
  have hown : List.Forall₂ (fun e t => canonicalizeV0Topic sourcePath e = .ok t)
      (sortByText (index.filter fun e => namedStream e = some id))
      (topics.filter fun t => t.streamId = id) := by
    have hfilter := List.rel_filter (p := fun e => namedStream e = some id)
      (q := fun t : CanonicalTopicEntry => t.streamId = id)
      (fun e t ht => by simp only [hname e t ht, Option.some.injEq]) hread
    rwa [sortByText, List.filter_sortByKey] at hfilter
  have hnamed : ∀ e ∈ sortByText (index.filter fun e => namedStream e = some id),
      namedStream e = some id := fun e he =>
    of_decide_eq_true (List.mem_filter.mp ((List.mem_insertionSort _).mp he)).2
  refine Except.bind_eq_ok.mpr ⟨topics.filter fun t => t.streamId = id, Except.mapM_eq_ok.mpr ?_,
    congrArg Except.ok groupByStream_getD.symm⟩
  exact ((List.forall₂_and_left _ _).mpr ⟨hnamed, hown⟩).imp
    fun e t h => (canonicalizeV0Topic_iff h.1).mp h.2

/-- The instance of a stream of version 1: its scope or the default one, the topics that name the
stream, and the fields that the stream has. -/
theorem toInstance_eq_ok (henv : trimmed defaultEnv = some defaultEnv)
    (hcluster : trimmed defaultClusterId = some defaultClusterId)
    (hread : List.Forall₂ (fun e t => canonicalizeV0Topic sourcePath e = .ok t) (sortByText index)
      topics)
    (hid : textOf (get stream "stream_id") = some id) {inst : CanonicalStreamInstance} :
    canonicalizeInstance sourcePath id
        (.dict (toInstance defaultEnv defaultClusterId index stream)) = .ok inst ↔
      ∃ env, optionalTextOf (get stream "env") = some env ∧
      ∃ clusterId, optionalTextOf (get stream "cluster_id") = some clusterId ∧
      ∃ texts, ReadsTexts (getOr stream "topics" (.dict [])) texts ∧
        instanceOf (env.getD defaultEnv) (clusterId.getD defaultClusterId)
          (((groupByStream topics).get? id).getD .empty) texts stream = inst := by
  have hinst : ∀ env clusterId topicIndex texts,
      instanceOf env clusterId topicIndex texts
          (toInstance defaultEnv defaultClusterId index stream) =
        instanceOf env clusterId topicIndex texts stream := by
    intro env clusterId topicIndex texts
    simp only [instanceOf, ← getOr_none,
      getOr_toInstance (by decide : "shared_components" ∈ instanceFields),
      getOr_toInstance (by decide : "sources" ∈ instanceFields),
      getOr_toInstance (by decide : "sinks" ∈ instanceFields),
      getOr_toInstance (by decide : "peak_window_policy" ∈ instanceFields)]
  have htexts : getOr (toInstance defaultEnv defaultClusterId index stream) "topics" (.dict []) =
      getOr stream "topics" (.dict []) := getOr_toInstance (by decide)
  have hscope : get (toInstance defaultEnv defaultClusterId index stream) "env" =
        scopeField defaultEnv (get stream "env") ∧
      get (toInstance defaultEnv defaultClusterId index stream) "cluster_id" =
        scopeField defaultClusterId (get stream "cluster_id") := by
    simp [toInstance, ← getOr_none, getOr_cons]
  simp only [canonicalizeInstance, Except.bind_eq_ok, requireNonEmptyString_eq_ok, hscope.1,
    hscope.2, textOf_scopeField henv, textOf_scopeField hcluster, getOr_toInstance_topicIndex hid,
    ownTopicIndex_eq_ok hread, Except.ok.injEq, finishInstance_iff, htexts, hinst]
  constructor
  · rintro ⟨_, ⟨env, henv, rfl⟩, _, ⟨clusterId, hcluster, rfl⟩, _, rfl, texts, htexts, rfl⟩
    exact ⟨env, henv, clusterId, hcluster, texts, htexts, rfl⟩
  · rintro ⟨env, henv, clusterId, hcluster, texts, htexts, rfl⟩
    exact ⟨_, ⟨env, henv, rfl⟩, _, ⟨clusterId, hcluster, rfl⟩, _, rfl, texts, htexts, rfl⟩

/-- **A stream is the same in both versions**, where the topics are read. -/
theorem toStream_eq_ok (henv : trimmed defaultEnv = some defaultEnv)
    (hcluster : trimmed defaultClusterId = some defaultClusterId)
    (hread : List.Forall₂ (fun e t => canonicalizeV0Topic sourcePath e = .ok t) (sortByText index)
      topics) {s : CanonicalStream} :
    canonicalizeV1Stream sourcePath (.dict (toStream defaultEnv defaultClusterId index stream)) =
        .ok s ↔
      canonicalizeV0Stream sourcePath (groupByStream topics) defaultEnv defaultClusterId
        (.dict stream) = .ok s := by
  have hfield : ∀ key ∉ movedFields,
      get (toStream defaultEnv defaultClusterId index stream) key = get stream key := by
    intro key hkey
    rw [← getOr_none, getOr_toStream hkey, getOr_none]
  have howners : getOr (toStream defaultEnv defaultClusterId index stream) "owners" (.dict []) =
      getOr stream "owners" (.dict []) := getOr_toStream (by decide)
  simp only [canonicalizeV1Stream, canonicalizeV0Stream, Except.bind_eq_ok,
    requireNonEmptyString_eq_ok, optionalString_eq_ok, finishInstance_iff, finishStream_iff,
    hfield "stream_id" (by decide), hfield "description" (by decide),
    hfield "criticality_tier" (by decide), howners, getOr_toStream_instances,
    canonicalizeInstances,
    Except.mapM_eq_ok, List.forall₂_cons_left_iff, List.forall₂_nil_left_iff]
  refine exists_congr fun id => and_congr_right fun hid => ?_
  simp only [toInstance_eq_ok henv hcluster hread hid]
  constructor
  · rintro ⟨_, ⟨inst, _, ⟨env, henv, clusterId, hcluster, texts, htexts, hinst⟩, rfl, rfl⟩, hrest⟩
    exact ⟨env, henv, clusterId, hcluster, inst, ⟨texts, htexts, hinst⟩, hrest⟩
  · rintro ⟨env, henv, clusterId, hcluster, inst, ⟨texts, htexts, hinst⟩, hrest⟩
    exact ⟨[inst], ⟨inst, [], ⟨env, henv, clusterId, hcluster, texts, htexts, hinst⟩, rfl, rfl⟩,
      hrest⟩

variable {raw : Entries} {streams : List CanonicalStream}

/-- Where the streams are read in version 2, every entry of the topic index is read in version 1:
it is in the instance of the stream that it names. -/
theorem topics_return [Builtins] (h : Version1Shaped raw)
    (hstreams : List.Forall₂ (fun v s => canonicalizeV1Stream sourcePath v = .ok s)
      ((streamObjects raw).map fun stream =>
        .dict (toStream defaultEnv defaultClusterId (topicEntries raw) stream)) streams) :
    ((sortByText (topicEntries raw)).mapM (canonicalizeV0Topic sourcePath)).Returns := by
  rw [Except.mapM_returns]
  intro e he
  obtain ⟨id, hnamed, stream, hstream, hid⟩ := h.named e ((List.mem_insertionSort _).mp he)
  obtain ⟨s, -, hs⟩ := hstreams.exists_of_mem_left (List.mem_map_of_mem hstream)
  obtain ⟨_, instancesRaw, _, heq, hid', hraw, hinstances, -⟩ := canonicalizeV1Stream_eq_ok hs
  obtain rfl := PyValue.dict.inj heq
  rw [getOr_toStream_instances, PyValue.list.injEq] at hraw
  subst hraw
  rw [← getOr_none, getOr_toStream (by decide), getOr_none, hid, Option.some.injEq] at hid'
  obtain ⟨inst, -, hinst⟩ := hinstances.exists_of_mem_left (List.mem_singleton_self _)
  obtain ⟨_, entries, topics, heq, -, -, hentries, htopics, -⟩ := canonicalizeInstance_eq_ok hinst
  obtain rfl := PyValue.dict.inj heq
  rw [getOr_toInstance_topicIndex hid, PyValue.dict.injEq] at hentries
  subst hentries
  have hown : e ∈ sortByText ((topicEntries raw).filter fun e => namedStream e = some id) :=
    (List.mem_insertionSort _).mpr (List.mem_filter.mpr
      ⟨(List.mem_insertionSort _).mp he, decide_eq_true hnamed⟩)
  obtain ⟨t, -, ht⟩ := htopics.exists_of_mem_left hown
  exact ⟨t, (canonicalizeV0Topic_iff (hid' ▸ hnamed)).mpr ht⟩

/-- **The streams are the same in both versions.** -/
theorem canonicalizeStreams_toVersion2 [Builtins] (h : Version1Shaped raw)
    (henv : trimmed defaultEnv = some defaultEnv)
    (hcluster : trimmed defaultClusterId = some defaultClusterId) :
    canonicalizeV1Streams sourcePath ((streamObjects raw).map fun stream =>
        .dict (toStream defaultEnv defaultClusterId (topicEntries raw) stream)) = .ok streams ↔
      canonicalizeV0Streams sourcePath raw ((streamObjects raw).map .dict) defaultEnv
        defaultClusterId = .ok streams := by
  have hsame : ∀ topics : List CanonicalTopicEntry,
      List.Forall₂ (fun e t => canonicalizeV0Topic sourcePath e = .ok t)
        (sortByText (topicEntries raw)) topics →
      (List.Forall₂ (fun v s => canonicalizeV1Stream sourcePath v = .ok s)
          ((streamObjects raw).map fun stream =>
            .dict (toStream defaultEnv defaultClusterId (topicEntries raw) stream)) streams ↔
        List.Forall₂ (fun v s => canonicalizeV0Stream sourcePath (groupByStream topics) defaultEnv
          defaultClusterId v = .ok s) ((streamObjects raw).map .dict) streams) := by
    intro topics htopics
    simp only [List.forall₂_map_left_iff, toStream_eq_ok henv hcluster htopics]
  rw [canonicalizeV1Streams, Except.mapM_eq_ok, canonicalizeV0Streams_eq_ok]
  constructor
  · intro hstreams
    obtain ⟨topics, htopics⟩ := topics_return h hstreams
    have htopics := Except.mapM_eq_ok.mp htopics
    have hstreams := (hsame topics htopics).mp hstreams
    refine ⟨topicEntries raw, topics, h.index, htopics, hstreams, fun t ht => ?_⟩
    -- the topic comes from an entry that names a stream, and that stream is read with its id
    obtain ⟨e, he, hread⟩ := htopics.exists_of_mem_right ht
    obtain ⟨fields, hfields, -, hid, -⟩ := canonicalizeV0Topic_eq_ok.mp hread
    obtain ⟨id, hnamed, stream, hstream, hid'⟩ := h.named e ((List.mem_insertionSort _).mp he)
    obtain ⟨s, hs, hread⟩ := hstreams.exists_of_mem_left (List.mem_map_of_mem hstream)
    obtain ⟨_, _, _, _, heq, -, hsid, -⟩ := canonicalizeV0Stream_eq_ok hread
    obtain rfl := PyValue.dict.inj heq
    have hsame : t.streamId = id := Option.some.inj
      ((namedStream_eq_some.mpr ⟨fields, hfields, hid⟩).symm.trans hnamed)
    have hsid : s.streamId = id := Option.some.inj (hsid.symm.trans hid')
    exact List.mem_map.mpr ⟨s, hs, hsid.trans hsame.symm⟩
  · rintro ⟨entries, topics, hentries, htopics, hstreams, -⟩
    obtain rfl := PyValue.dict.inj (hentries.symm.trans h.index)
    exact (hsame topics htopics).mpr hstreams

end Streams

/-! ## The same registry -/

section Loading

variable [Platform] [Builtins] {sourcePath defaultEnv defaultClusterId : String} {raw : Entries}
  {rules : TopologyRegistryLoaderRulesV1} {registry : CanonicalTopologyRegistry}
  {version : RegistryVersion}

theorem canonicalizeRegistry_eq_ok {streamsRaw : List PyValue} {inputVersion : Int}
    (h : get raw "streams" = .list streamsRaw) :
    canonicalizeRegistry sourcePath raw rules inputVersion defaultEnv defaultClusterId =
        .ok registry ↔
      ∃ streams, canonicalizeStreams sourcePath raw streamsRaw inputVersion defaultEnv
        defaultClusterId = .ok streams ∧
      ∃ assembly, streams.foldlM (addStream sourcePath rules) {} = .ok assembly ∧
      ∃ directory, canonicalizeRoutingDirectory sourcePath raw = .ok directory ∧
      ∃ owners, canonicalizeOwnershipMap sourcePath raw = .ok owners ∧
        ({ streams := streams.insertionSort fun a b => a.streamId ≤ b.streamId
           streamsById := assembly.streamsById
           topicIndexByScope := sortEntries ScopeKey.le assembly.topicIndexByScope
           routingDirectory := directory
           ownershipMap := owners } : CanonicalTopologyRegistry) = registry := by
  simp only [canonicalizeRegistry, h, Except.bind_eq_ok, Except.pure_eq_ok]

theorem loadTopologyRegistry_eq_ok :
    loadTopologyRegistry sourcePath (.dict raw) rules defaultEnv defaultClusterId =
        .ok (registry, version) ↔
      detectRegistryVersion raw = .ok version ∧ version.value ∈ rules.supportedRegistryVersions ∧
        canonicalizeRegistry sourcePath raw rules version.value defaultEnv defaultClusterId =
          .ok registry ∧
        validateOwnershipMatrix sourcePath registry rules = .ok () := by
  simp only [loadTopologyRegistry, validateSupportedVersion, Except.bind_eq_ok, rejectIf_eq_ok,
    not_not, Except.pure_eq_ok, Prod.mk.injEq]
  constructor
  · rintro ⟨v, hv, -, hsupported, r, hr, ⟨⟩, hmatrix, rfl, rfl⟩
    exact ⟨hv, hsupported, hr, hmatrix⟩
  · rintro ⟨hv, hsupported, hr, hmatrix⟩
    exact ⟨version, hv, (), hsupported, registry, hr, (), hmatrix, rfl, rfl⟩

/-- The version of the document is 2. -/
theorem detectRegistryVersion_toVersion2 :
    detectRegistryVersion (toVersion2 defaultEnv defaultClusterId raw) = .ok ⟨2, toString 2⟩ := by
  rw [detectRegistryVersion, toVersion2, getOr_cons, if_pos rfl]
  rfl

/-- **The registry is the same in both versions.** -/
theorem canonicalizeRegistry_toVersion2 (h : Version1Shaped raw)
    (henv : trimmed defaultEnv = some defaultEnv)
    (hcluster : trimmed defaultClusterId = some defaultClusterId) :
    canonicalizeRegistry sourcePath (toVersion2 defaultEnv defaultClusterId raw) rules 2 defaultEnv
        defaultClusterId = .ok registry ↔
      canonicalizeRegistry sourcePath raw rules 1 defaultEnv defaultClusterId = .ok registry := by
  have hstreams : get (toVersion2 defaultEnv defaultClusterId raw) "streams" =
      .list ((streamObjects raw).map fun stream =>
        .dict (toStream defaultEnv defaultClusterId (topicEntries raw) stream)) := by
    simp [toVersion2, ← getOr_none, getOr_cons]
  have hdirectory :
      canonicalizeRoutingDirectory sourcePath (toVersion2 defaultEnv defaultClusterId raw) =
        canonicalizeRoutingDirectory sourcePath raw := by
    rw [canonicalizeRoutingDirectory, getOr_toVersion2 (by decide), canonicalizeRoutingDirectory]
  have howners : canonicalizeOwnershipMap sourcePath
      (toVersion2 defaultEnv defaultClusterId raw) = canonicalizeOwnershipMap sourcePath raw := by
    rw [canonicalizeOwnershipMap, getOr_toVersion2 (by decide), canonicalizeOwnershipMap]
  rw [canonicalizeRegistry_eq_ok hstreams, canonicalizeRegistry_eq_ok h.streams, hdirectory,
    howners]
  refine exists_congr fun streams => and_congr_left fun _ => ?_
  rw [canonicalizeStreams, if_pos le_rfl, canonicalizeStreams, if_neg (by decide)]
  exact canonicalizeStreams_toVersion2 h henv hcluster

/-- **The versions agree**: a document of version 1 and the document of version 2 that it stands
for are both loaded with the same registry, or both are rejected. -/
theorem versions_agree (h : Version1Shaped raw) (henv : trimmed defaultEnv = some defaultEnv)
    (hcluster : trimmed defaultClusterId = some defaultClusterId)
    (hrules : 1 ∈ rules.supportedRegistryVersions ↔ 2 ∈ rules.supportedRegistryVersions)
    (registry : CanonicalTopologyRegistry) :
    (∃ version, loadTopologyRegistry sourcePath (.dict raw) rules defaultEnv defaultClusterId =
        .ok (registry, version)) ↔
      ∃ version, loadTopologyRegistry sourcePath
        (.dict (toVersion2 defaultEnv defaultClusterId raw)) rules defaultEnv defaultClusterId =
          .ok (registry, version) := by
  obtain ⟨version, hversion, hone⟩ := h.version
  simp only [loadTopologyRegistry_eq_ok, hversion, detectRegistryVersion_toVersion2,
    Except.ok.injEq, exists_eq_left', hone, hrules, canonicalizeRegistry_toVersion2 h henv hcluster]

end Loading

/-- A document of version 1: one stream has an environment of its own. -/
def ordersVersion1 : Entries :=
  [(.str "version", .scalar (.int 1)),
    (.str "streams", .list [
      .dict [
        (.str "stream_id", .str "orders"),
        (.str "env", .str " uat "),
        (.str "topics", .dict [(.str "source", .str "orders.raw")])],
      .dict [(.str "stream_id", .str "payments")]]),
    (.str "topic_index", .dict [
      (.str "payments.raw", .dict [
        (.str "role", .str "SOURCE_TOPIC"), (.str "stream_id", .str "payments")]),
      (.str "orders.raw", .dict [
        (.str "role", .str "SOURCE_TOPIC"), (.str "stream_id", .str "orders")])])]

theorem versions_agree_orders :
    let _ := asciiPlatform []
    let _ := plainBuiltins
    (loadTopologyRegistry "registry.yaml" (.dict ordersVersion1) {} "prod" "c1").Returns ∧
    ∀ registry,
      (∃ version, loadTopologyRegistry "registry.yaml" (.dict ordersVersion1) {} "prod" "c1" =
        .ok (registry, version)) ↔
      ∃ version, loadTopologyRegistry "registry.yaml"
        (.dict (toVersion2 "prod" "c1" ordersVersion1)) {} "prod" "c1" =
          .ok (registry, version) := by
  intro _ _
  refine ⟨by decide +kernel, fun registry => ?_⟩
  have hshape : Version1Shaped ordersVersion1 := by
    refine ⟨⟨⟨1, "1"⟩, rfl, rfl⟩, rfl, ?_, rfl, ?_⟩
    · have hids : ∀ stream ∈ streamObjects ordersVersion1,
          (textOf (get stream "stream_id")).isSome := by decide +kernel
      exact fun stream hstream => Option.isSome_iff_exists.mp (hids stream hstream)
    · have hnamed : ∀ e ∈ topicEntries ordersVersion1, (namedStream e).isSome ∧
          ∃ stream ∈ streamObjects ordersVersion1,
            textOf (get stream "stream_id") = namedStream e := by
        decide +kernel
      intro e he
      obtain ⟨hsome, stream, hstream, hid⟩ := hnamed e he
      obtain ⟨id, hid'⟩ := Option.isSome_iff_exists.mp hsome
      exact ⟨id, hid', stream, hstream, hid.trans hid'⟩
  exact @versions_agree (asciiPlatform []) plainBuiltins "registry.yaml" "prod" "c1" ordersVersion1
    {} hshape (by decide +kernel) (by decide +kernel) (by decide) registry

end Registry

end AiopsTriage
