import AiopsTriage.Registry.Integrity

/-!
# Topics of a document and topics of the registry

An entry of a topic index stands under a key of any kind; the loader takes the text of the key
for the topic and keeps one entry for each text. Resolution strips the topic of a scope before
it looks it up. So an entry is lost when another one in its index has the same text, and it
is never found when its text, its environment or its cluster is not a stripped one
(`topics_reachable_iff`).
-/

namespace AiopsTriage

namespace Registry

/-- An entry of a topic index of a document. -/
structure RawTopic where
  /-- where it is -/
  scope : ScopeKey
  /-- the stream it is of -/
  streamId : String
  /-- its key -/
  key : PyScalar
  /-- what stands there -/
  value : PyValue

section RawTopics

variable [Platform]

/-- The text of the key. -/
def RawTopic.text (t : RawTopic) : String := scalarText t.key

/-- What an entry of a document is read as. -/
def RawTopic.ReadAs (t : RawTopic) (entry : CanonicalTopicEntry) : Prop :=
  entry.topic = t.text ∧ entry.streamId = t.streamId ∧ ∃ fields, t.value = .dict fields ∧
    textOf (get fields "role") = some entry.role ∧
    optionalTextOf (get fields "source_system") = some entry.sourceSystem

/-- The topics of an instance of version 2. -/
def rawInstanceTopics (streamId : String) : PyValue → List RawTopic
  | .dict fields =>
    match textOf (get fields "env"), textOf (get fields "cluster_id"),
        (getOr fields "topic_index" (.dict [])).asMapping with
    | some env, some clusterId, some entries =>
      entries.map fun e => ⟨(env, clusterId), streamId, e.1, e.2⟩
    | _, _, _ => []
  | _ => []

/-- The topics of a stream of version 2. -/
def rawStreamTopics : PyValue → List RawTopic
  | .dict stream =>
    match textOf (get stream "stream_id"), (getOr stream "instances" (.tuple [])).asList with
    | some streamId, some instances => instances.flatMap (rawInstanceTopics streamId)
    | _, _ => []
  | _ => []

/-- The scope of a stream of version 1, with its id. -/
def rawStreamScope (defaultEnv defaultClusterId : String) : PyValue → Option (String × ScopeKey)
  | .dict stream => do
    let streamId ← textOf (get stream "stream_id")
    let env ← optionalTextOf (get stream "env")
    let clusterId ← optionalTextOf (get stream "cluster_id")
    return (streamId, (env.getD defaultEnv, clusterId.getD defaultClusterId))
  | _ => none

/-- An entry of the topic index of version 1: it is where the stream is that it names. -/
def rawIndexTopic (scopes : List (String × ScopeKey)) (e : PyScalar × PyValue) : Option RawTopic := do
  let fields ← e.2.asMapping
  let streamId ← textOf (get fields "stream_id")
  let scope ← Dict.find streamId scopes
  return ⟨scope, streamId, e.1, e.2⟩

/-- The entries of all topic indexes of a document. -/
def rawTopics (raw : Entries) (inputVersion : Int) (defaultEnv defaultClusterId : String) :
    List RawTopic :=
  let streamsRaw := ((get raw "streams").asList).getD []
  if 2 ≤ inputVersion then streamsRaw.flatMap rawStreamTopics
  else
    let scopes := streamsRaw.filterMap (rawStreamScope defaultEnv defaultClusterId)
    (((getOr raw "topic_index" (.dict [])).asMapping).getD []).filterMap (rawIndexTopic scopes)

/-- The entry that resolution looks up for a scope. -/
def lookedUpEntry (registry : CanonicalTopologyRegistry) (scope : Scope) :
    Option CanonicalTopicEntry := do
  let (env, clusterId, topic, _) ← parseAnomalyScope scope
  let index ← registry.topicIndexByScope.get? (env, clusterId)
  index.get? topic

/-- Resolution goes on from the entry it looks up, and without one it says what is not there. -/
theorem resolveAnomalyScope_of_lookedUpEntry (render : PyValue → Json)
    (registry : CanonicalTopologyRegistry) (scope : Scope) :
    match resolveAnomalyScope (registry.forResolution render) scope with
    | .unresolved _ reasonCode _ =>
      reasonCode ∈ ["invalid_scope_shape", "scope_not_found", "topic_not_found"] ↔
        lookedUpEntry registry scope = none
    | .resolved _ fields _ => ∃ entry, lookedUpEntry registry scope = some entry ∧
        (registry.streamsById.get? entry.streamId).map CanonicalStream.streamId =
          some fields.streamId := by
  unfold resolveAnomalyScope lookedUpEntry
  cases hparse : parseAnomalyScope scope with
  | none => simp
  | some parts =>
    obtain ⟨env, clusterId, topic, group⟩ := parts
    simp only [Option.bind_eq_bind, Option.bind_some, CanonicalTopologyRegistry.forResolution,
      Dict.get?_mapValues]
    cases hindex : registry.topicIndexByScope.get? (env, clusterId) with
    | none => simp
    | some index =>
      simp only [Option.map_some, Option.bind_some, Dict.get?_mapValues]
      cases hentry : index.get? topic with
      | none => simp
      | some entry =>
        simp only [Option.map_some, CanonicalTopicEntry.forResolution]
        cases hstream : registry.streamsById.get? entry.streamId with
        | none => simp
        | some stream =>
          simp only [Option.map_some]
          cases hinst : findStreamInstance (stream.forResolution render) env clusterId with
          | none => simp
          | some inst =>
            simp only
            cases hrole : normalizeTopicRole entry.role with
            | none => simp
            | some role =>
              simp only [resolveOwnershipRouting]
              generalize selectOwnerRoutingKey _ env clusterId topic group _ = owner
              cases owner with
              | none => simp
              | some owner =>
                obtain ⟨level, routingKey⟩ := owner
                simp only
                cases registry.routingDirectory.get? routingKey with
                | none => simp
                | some target => exact ⟨entry, rfl, by rw [hstream]; rfl⟩

end RawTopics

/-! ## From the document to the registry -/

section Lists

/-- What is made of each item, when something is made of all. -/
theorem filterMap_of_forall₂ {α β γ : Type} {f : α → Option γ} {g : β → γ} {xs : List α}
    {ys : List β} (h : List.Forall₂ (fun x y => f x = some (g y)) xs ys) :
    xs.filterMap f = ys.map g := by
  induction h with
  | nil => rfl
  | @cons x y xs ys hxy _ ih => rw [List.filterMap_cons_some hxy, ih, List.map_cons]

/-- What is made of items stands in the relation that what is made of each does. -/
theorem forall₂_filterMap {α β γ : Type} {f : α → Option γ} {r : γ → β → Prop} {xs : List α}
    {ys : List β} (h : List.Forall₂ (fun x y => ∃ z, f x = some z ∧ r z y) xs ys) :
    List.Forall₂ r (xs.filterMap f) ys := by
  induction h with
  | nil => exact .nil
  | cons hxy _ ih =>
    obtain ⟨z, hz, hr⟩ := hxy
    rw [List.filterMap_cons_some hz]
    exact .cons hr ih

/-- Items that differ in a part differ. -/
theorem nodup_map_of_nodup_map {α β γ : Type} {f : α → β} {g : α → γ} {xs : List α}
    (h : (xs.map f).Nodup) (hfg : ∀ x ∈ xs, ∀ y ∈ xs, g x = g y → f x = f y) :
    (xs.map g).Nodup := by
  rw [List.Nodup, List.pairwise_map] at h ⊢
  exact h.imp_of_mem fun hx hy hne hg => hne (hfg _ hx _ hy hg)

end Lists

section Loading

variable [Platform] {sourcePath : String} {raw : Entries}
  {rules : TopologyRegistryLoaderRulesV1} {defaultEnv defaultClusterId : String}
  {streams : List CanonicalStream} {registry : CanonicalTopologyRegistry}
  {version : RegistryVersion}

/-- Where a topic of the document goes: an instance of its stream in its scope, whose index is
made of the topics of a part of the document, all of that stream and scope. -/
structure Placed (R : List RawTopic) (streams : List CanonicalStream) (t : RawTopic) : Prop where
  /-- the instance and the part -/
  place : ∃ s ∈ streams, s.streamId = t.streamId ∧ ∃ inst ∈ s.instances, inst.scope = t.scope ∧
    ∃ block topics, t ∈ block ∧ block.Subperm R ∧
      (∀ b ∈ block, b.scope = t.scope ∧ b.streamId = t.streamId) ∧
      List.Forall₂ RawTopic.ReadAs block topics ∧ inst.topicIndex = indexOf topics

theorem placed_v1 {streamsRaw : List PyValue}
    (h : canonicalizeV1Streams sourcePath streamsRaw = .ok streams) {t : RawTopic}
    (ht : t ∈ streamsRaw.flatMap rawStreamTopics) :
    Placed (streamsRaw.flatMap rawStreamTopics) streams t := by
  obtain ⟨v, hv, htv⟩ := List.mem_flatMap.mp ht
  obtain ⟨s, hs, hread⟩ := (Except.mapM_eq_ok.mp h).exists_of_mem_left hv
  obtain ⟨stream, instancesRaw, instances, rfl, hid, hraw, hinstances, hperm⟩ :=
    canonicalizeV1Stream_eq_ok hread
  have hstream : rawStreamTopics (.dict stream) =
      instancesRaw.flatMap (rawInstanceTopics s.streamId) := by
    simp only [rawStreamTopics, hid, hraw, PyValue.asList]
  rw [hstream] at htv
  obtain ⟨v', hv', htv'⟩ := List.mem_flatMap.mp htv
  obtain ⟨inst, hinst, hread'⟩ := hinstances.exists_of_mem_left hv'
  obtain ⟨fields, entries, topics, rfl, henv, hcluster, hentries, htopics, hindex⟩ :=
    canonicalizeInstance_eq_ok hread'
  let toRaw := fun e : PyScalar × PyValue => (⟨inst.scope, s.streamId, e.1, e.2⟩ : RawTopic)
  have hblock : rawInstanceTopics s.streamId (.dict fields) = entries.map toRaw := by
    simp only [rawInstanceTopics, henv, hcluster, hentries, PyValue.asMapping]
    rfl
  rw [hblock] at htv'
  have hsublist : (entries.map toRaw).Sublist (streamsRaw.flatMap rawStreamTopics) := by
    rw [← hblock]
    refine (List.sublist_flatten_of_mem (List.mem_map_of_mem hv')).trans ?_
    have houter := List.sublist_flatten_of_mem (List.mem_map_of_mem (f := rawStreamTopics) hv)
    rw [hstream] at houter
    exact houter
  obtain ⟨e, -, rfl⟩ := List.mem_map.mp htv'
  refine ⟨s, hs, rfl, inst, hperm.mem_iff.mpr hinst, rfl, (sortByText entries).map toRaw, topics,
    ?_, ?_, ?_, ?_, hindex⟩
  · exact ((List.perm_insertionSort _ entries).map toRaw).mem_iff.mpr htv'
  · exact ((List.perm_insertionSort _ entries).map toRaw).subperm_right.mpr hsublist.subperm
  · intro b hb
    obtain ⟨_, -, rfl⟩ := List.mem_map.mp hb
    exact ⟨rfl, rfl⟩
  · refine List.forall₂_map_left_iff.mpr (htopics.imp fun e t ht => ?_)
    obtain ⟨fields, hvalue, htopic, hstreamId, -, hrole, hsystem⟩ :=
      canonicalizeInstanceTopic_eq_ok.mp ht
    exact ⟨htopic, hstreamId, fields, hvalue, hrole, hsystem⟩

/-- The scope of a stream of version 1. -/
def streamScope (s : CanonicalStream) : ScopeKey :=
  (s.instances.head?.map CanonicalStreamInstance.scope).getD ("", "")

/-- The streams of version 1 with their scopes, as the document has them. -/
theorem rawStreamScopes_eq {groups : Dict String TopicIndex} {streamsRaw : List PyValue}
    (h : List.Forall₂ (fun v s => canonicalizeV0Stream sourcePath groups defaultEnv
      defaultClusterId v = .ok s) streamsRaw streams) :
    streamsRaw.filterMap (rawStreamScope defaultEnv defaultClusterId) =
      streams.map fun s => (s.streamId, streamScope s) := by
  refine filterMap_of_forall₂ (h.imp fun v s hread => ?_)
  obtain ⟨stream, inst, env, clusterId, rfl, honly, hid, henv, hcluster, hscope, -⟩ :=
    canonicalizeV0Stream_eq_ok hread
  simp only [rawStreamScope, hid, henv, hcluster, Option.bind_eq_bind, Option.bind_some,
    Option.pure_def, streamScope, honly, List.head?_cons, Option.map_some, Option.getD_some, hscope]

theorem placed_v0 {streamsRaw : List PyValue} (hraw : get raw "streams" = .list streamsRaw)
    (hids : (streams.map CanonicalStream.streamId).Nodup)
    (h : canonicalizeV0Streams sourcePath raw streamsRaw defaultEnv defaultClusterId = .ok streams)
    {n : Int} (hn : ¬ 2 ≤ n) {t : RawTopic}
    (ht : t ∈ rawTopics raw n defaultEnv defaultClusterId) :
    Placed (rawTopics raw n defaultEnv defaultClusterId) streams t := by
  obtain ⟨entries, topics, hentries, htopics, hstreams, hknown⟩ := canonicalizeV0Streams_eq_ok.mp h
  let scopes := streams.map fun s => (s.streamId, streamScope s)
  have hR : rawTopics raw n defaultEnv defaultClusterId = entries.filterMap (rawIndexTopic scopes) := by
    simp only [rawTopics, if_neg hn, hraw, hentries, PyValue.asList, PyValue.asMapping,
      Option.getD_some, rawStreamScopes_eq hstreams, scopes]
  have hkeys : (scopes.map Prod.fst).Nodup := by
    rw [List.map_map]
    exact hids
  -- every entry is read, and is where its stream is
  have hread : List.Forall₂ (fun e t => ∃ r, rawIndexTopic scopes e = some r ∧ r.ReadAs t)
      (sortByText entries) topics := by
    rw [List.forall₂_iff_get]
    refine ⟨htopics.length_eq, fun i hi hi' => ?_⟩
    obtain ⟨fields, hvalue, htopic, hstreamId, hrole, hsystem⟩ :=
      canonicalizeV0Topic_eq_ok.mp (htopics.get hi hi')
    obtain ⟨s, hs, hid⟩ := List.mem_map.mp (hknown _ (List.get_mem topics ⟨i, hi'⟩))
    have hscope : Dict.find (topics.get ⟨i, hi'⟩).streamId scopes = some (streamScope s) :=
      Dict.find_of_mem hkeys (hid ▸ List.mem_map_of_mem hs)
    refine ⟨⟨streamScope s, (topics.get ⟨i, hi'⟩).streamId, _, _⟩, ?_, htopic, rfl, fields, hvalue,
      hrole, hsystem⟩
    simp only [rawIndexTopic, hvalue, PyValue.asMapping, Option.bind_eq_bind, Option.bind_some,
      hstreamId, hscope, Option.pure_def]
  have hreadAs : List.Forall₂ RawTopic.ReadAs ((sortByText entries).filterMap (rawIndexTopic scopes))
      topics := forall₂_filterMap hread
  have hperm : ((sortByText entries).filterMap (rawIndexTopic scopes)).Perm
      (rawTopics raw n defaultEnv defaultClusterId) := by
    rw [hR]
    exact (List.perm_insertionSort _ entries).filterMap _
  have hplace : ∀ r ∈ rawTopics raw n defaultEnv defaultClusterId,
      ∃ s ∈ streams, s.streamId = r.streamId ∧ r.scope = streamScope s := by
    intro r hr
    rw [hR] at hr
    obtain ⟨e, -, he⟩ := List.mem_filterMap.mp hr
    simp only [rawIndexTopic, Option.bind_eq_bind, Option.bind_eq_some_iff, Option.pure_def,
      Option.some.injEq] at he
    obtain ⟨_, -, id, -, scope, hscope, rfl⟩ := he
    obtain ⟨s, hs, heq⟩ := List.mem_map.mp (Dict.mem_of_find hscope)
    cases heq
    exact ⟨s, hs, rfl, rfl⟩
  obtain ⟨s, hs, hid, hscope⟩ := hplace t ht
  obtain ⟨v, -, hv⟩ := hstreams.exists_of_mem_right hs
  obtain ⟨_, inst, _, _, -, honly, -, -, -, -, hindex⟩ := canonicalizeV0Stream_eq_ok hv
  have hinst : streamScope s = inst.scope := by
    rw [streamScope, honly]
    rfl
  refine ⟨s, hs, hid, inst, by rw [honly]; exact List.mem_singleton_self inst, by rw [hscope, hinst],
    ((sortByText entries).filterMap (rawIndexTopic scopes)).filter fun r => r.streamId = s.streamId,
    topics.filter fun t => t.streamId = s.streamId, ?_, ?_, ?_, ?_, ?_⟩
  · exact List.mem_filter.mpr ⟨hperm.mem_iff.mpr ht, decide_eq_true hid.symm⟩
  · exact (List.filter_sublist.subperm).trans hperm.subperm
  · intro b hb
    obtain ⟨hb, hbid⟩ := List.mem_filter.mp hb
    have hbid := of_decide_eq_true hbid
    obtain ⟨s', hs', hid', hscope'⟩ := hplace b (hperm.mem_iff.mp hb)
    obtain rfl := List.inj_on_of_nodup_map hids hs' hs (hid'.trans hbid)
    exact ⟨hscope'.trans hscope.symm, hbid.trans hid⟩
  · exact List.rel_filter (fun r t hrt => by beta_reduce; rw [hrt.2.1]) hreadAs
  · rw [hindex, groupByStream_getD]

omit [Platform] in
/-- A part of a stripped text that is not blank is left alone by resolution. -/
theorem normalizeScopePart_of_textOf {value : PyValue} {text : String}
    (h : textOf value = some text) : normalizeScopePart text = some text := by
  obtain ⟨s, -, hs⟩ := textOf_eq_some.mp h
  obtain ⟨hblank, rfl⟩ := trimmed_eq_some.mp hs
  rw [normalizeScopePart, PyText.isBlank_strip, hblank, PyText.strip_strip]
  rfl

/-! ## Reachable topics -/

/-- Every entry of the document has one entry of the registry, and resolution looks it up. -/
structure TopicsReachable (topics : List RawTopic) (registry : CanonicalTopologyRegistry) :
    Prop where
  /-- no two entries of the document share one of the registry -/
  once : (topics.map fun t => (t.scope, t.text)).Nodup
  /-- each has its own, and it is found by its own scope and text -/
  found : ∀ t ∈ topics, ∃ entry, t.ReadAs entry ∧
    ((registry.topicIndexByScope.get? t.scope).bind fun index => index.get? t.text) = some entry ∧
    lookedUpEntry registry [t.scope.1, t.scope.2, t.text] = some entry

/-- A text that resolution leaves as it is. -/
def Normal (text : String) : Prop := normalizeScopePart text = some text

/-- Entries whose keys are distinct texts in each index, with texts and scopes that resolution
leaves as they are. -/
structure KeysNormal (topics : List RawTopic) : Prop where
  /-- distinct keys -/
  distinct : (topics.map fun t => (t.scope, t.streamId, t.text)).Nodup
  /-- normal keys, where resolution gets to -/
  normal : ∀ t ∈ topics, Normal t.text ∧ Normal t.scope.1 ∧ Normal t.scope.2

variable [Builtins]

theorem LoadedFrom.placed
    (h : LoadedFrom sourcePath raw rules defaultEnv defaultClusterId streams registry version) :
    ∀ t ∈ rawTopics raw version.value defaultEnv defaultClusterId,
      Placed (rawTopics raw version.value defaultEnv defaultClusterId) streams t := by
  obtain ⟨streamsRaw, hraw, hstreams⟩ := h.canonical
  intro t ht
  unfold canonicalizeStreams at hstreams
  split at hstreams
  · next hversion =>
    have hR : rawTopics raw version.value defaultEnv defaultClusterId =
        streamsRaw.flatMap rawStreamTopics := by
      simp only [rawTopics, if_pos hversion, hraw, PyValue.asList, Option.getD_some]
    rw [hR] at ht ⊢
    exact placed_v1 hstreams ht
  · next hversion => exact placed_v0 hraw h.admissible.ids hstreams hversion ht

/-- Stripping the scope of an instance does not lead to another instance of its stream: in
version 2 it is a stripped one, and in version 1 a stream has one instance only. -/
theorem LoadedFrom.scope_eq
    (h : LoadedFrom sourcePath raw rules defaultEnv defaultClusterId streams registry version)
    {s : CanonicalStream} (hs : s ∈ streams) {inst inst' : CanonicalStreamInstance}
    (hinst : inst ∈ s.instances) (hinst' : inst' ∈ s.instances)
    (henv : normalizeScopePart inst.env = some inst'.env)
    (hcluster : normalizeScopePart inst.clusterId = some inst'.clusterId) :
    inst'.scope = inst.scope := by
  obtain ⟨streamsRaw, -, hstreams⟩ := h.canonical
  unfold canonicalizeStreams at hstreams
  split at hstreams
  · obtain ⟨v, -, hv⟩ := (Except.mapM_eq_ok.mp hstreams).exists_of_mem_right hs
    obtain ⟨_, _, instances, -, -, -, hinstances, hperm⟩ := canonicalizeV1Stream_eq_ok hv
    obtain ⟨v', -, hv'⟩ := hinstances.exists_of_mem_right (hperm.mem_iff.mp hinst)
    obtain ⟨_, _, _, -, henv', hcluster', -⟩ := canonicalizeInstance_eq_ok hv'
    rw [normalizeScopePart_of_textOf henv', Option.some.injEq] at henv
    rw [normalizeScopePart_of_textOf hcluster', Option.some.injEq] at hcluster
    rw [CanonicalStreamInstance.scope, CanonicalStreamInstance.scope, henv, hcluster]
  · obtain ⟨_, _, -, -, hstreams, -⟩ := canonicalizeV0Streams_eq_ok.mp hstreams
    obtain ⟨v, -, hv⟩ := hstreams.exists_of_mem_right hs
    obtain ⟨_, only, _, _, -, honly, -⟩ := canonicalizeV0Stream_eq_ok hv
    rw [honly, List.mem_singleton] at hinst hinst'
    rw [hinst, hinst']

/-- A topic of an instance is in the index of its scope. -/
theorem LoadedFrom.get?_of_instance
    (h : LoadedFrom sourcePath raw rules defaultEnv defaultClusterId streams registry version)
    {s : CanonicalStream} (hs : s ∈ streams) {inst : CanonicalStreamInstance}
    (hinst : inst ∈ s.instances) {topic : String} {entry : CanonicalTopicEntry}
    (hentry : inst.topicIndex.get? topic = some entry) :
    ∃ index, registry.topicIndexByScope.get? inst.scope = some index ∧
      index.get? topic = some entry := by
  have hmem : inst ∈ instancesOf streams := List.mem_flatMap.mpr ⟨s, hs, hinst⟩
  have htopic : (topic, entry) ∈ topicsOf (instancesOf streams) inst.scope :=
    mem_topicsOf.mpr ⟨inst, hmem, rfl, Dict.get?_eq_some.mp hentry⟩
  have hscope := h.topics inst.scope
  rw [if_pos (List.mem_map_of_mem hmem)] at hscope
  obtain ⟨index, hindex, -⟩ := Option.map_eq_some_iff.mp hscope
  exact ⟨index, hindex, (h.topics.get? hindex).mpr htopic⟩

/-- Where keys are distinct, an entry of the document is found in the registry. -/
theorem LoadedFrom.found
    (h : LoadedFrom sourcePath raw rules defaultEnv defaultClusterId streams registry version)
    (hdistinct : ((rawTopics raw version.value defaultEnv defaultClusterId).map
      fun t => (t.scope, t.streamId, t.text)).Nodup)
    {t : RawTopic} (ht : t ∈ rawTopics raw version.value defaultEnv defaultClusterId) :
    ∃ index entry, t.ReadAs entry ∧ registry.topicIndexByScope.get? t.scope = some index ∧
      index.get? t.text = some entry := by
  obtain ⟨s, hs, -, inst, hinst, hscope, block, topics, htblock, hsub, hsame, hread, hindex⟩ :=
    (h.placed t ht).place
  obtain ⟨entry, hentry, hreadAs⟩ := hread.exists_of_mem_left htblock
  -- the texts of the block are distinct, and they are the topics of what it is read as
  have htexts : (block.map RawTopic.text).Nodup := by
    obtain ⟨sub, hperm, hsublist⟩ := hsub
    have hnodup : (block.map fun t => (t.scope, t.streamId, t.text)).Nodup :=
      (hperm.map _).nodup_iff.mp (hdistinct.sublist (hsublist.map _))
    refine nodup_map_of_nodup_map hnodup fun x hx y hy hxy => ?_
    obtain ⟨hxscope, hxid⟩ := hsame x hx
    obtain ⟨hyscope, hyid⟩ := hsame y hy
    rw [hxscope, hxid, hyscope, hyid, hxy]
  have htopics : topics.map CanonicalTopicEntry.topic = block.map RawTopic.text := by
    clear hindex htblock hsub hsame htexts hentry
    induction hread with
    | nil => rfl
    | cons hfirst _ ih => rw [List.map_cons, List.map_cons, hfirst.1, ih]
  have hget : inst.topicIndex.get? t.text = some entry := by
    rw [hindex, indexOf_eq_ofPairs, Dict.get?_ofPairs]
    · refine Dict.find_of_mem ?_ (List.mem_map.mpr ⟨entry, hentry, by rw [hreadAs.1]⟩)
      rw [List.map_map]
      exact htopics ▸ htexts
    · rw [List.map_map]
      exact htopics ▸ htexts
  obtain ⟨index, hindex', hentry'⟩ := h.get?_of_instance hs hinst hget
  exact ⟨index, entry, hreadAs, hscope ▸ hindex', hentry'⟩

/-- What resolution finds by the scope and the text of an entry has them as they are. -/
theorem LoadedFrom.normal_of_lookedUp
    (h : LoadedFrom sourcePath raw rules defaultEnv defaultClusterId streams registry version)
    {t : RawTopic} {entry : CanonicalTopicEntry} (hreadAs : t.ReadAs entry)
    (hown : ((registry.topicIndexByScope.get? t.scope).bind fun index => index.get? t.text) =
      some entry)
    (hlooked : lookedUpEntry registry [t.scope.1, t.scope.2, t.text] = some entry) :
    Normal t.text ∧ Normal t.scope.1 ∧ Normal t.scope.2 := by
  obtain ⟨index, hindex, hentry⟩ := Option.bind_eq_some_iff.mp hown
  obtain ⟨s, hs, hid, inst, hinst, hscope, -⟩ := h.exists_instance hindex hentry
  simp only [lookedUpEntry, parseAnomalyScope, Option.bind_eq_bind, Option.bind_eq_some_iff,
    Option.pure_def, Option.some.injEq] at hlooked
  obtain ⟨_, ⟨env, henv, clusterId, hcluster, topic, htopic, rfl⟩, index', hindex', hentry'⟩ := hlooked
  obtain ⟨s', hs', hid', inst', hinst', hscope', hget'⟩ := h.exists_instance hindex' hentry'
  obtain rfl := List.inj_on_of_nodup_map h.admissible.ids hs' hs (hid'.trans hid.symm)
  have hname : entry.topic = topic :=
    (h.ownTopics s' hs' inst' hinst' _ (Dict.get?_eq_some.mp hget')).2
  obtain ⟨rfl, rfl⟩ := Prod.mk.inj hscope'
  have henv' : normalizeScopePart inst.env = some inst'.env := by
    rw [← henv, ← hscope]
    rfl
  have hcluster' : normalizeScopePart inst.clusterId = some inst'.clusterId := by
    rw [← hcluster, ← hscope]
    rfl
  have hsame : t.scope = inst'.scope :=
    ((h.scope_eq hs hinst hinst' henv' hcluster').trans hscope).symm
  exact ⟨htopic.trans (congrArg some (hname.symm.trans hreadAs.1)),
    henv.trans (congrArg some (congrArg Prod.fst hsame).symm),
    hcluster.trans (congrArg some (congrArg Prod.snd hsame).symm)⟩

/-- **Topics are reachable** exactly where keys are normal: on a registry that was loaded, every
entry of a topic index of the document has an entry of its own that resolution looks up, if
and only if the keys of each index are distinct texts, and these texts and the scopes of the
entries are stripped and not blank. -/
theorem topics_reachable_iff {loaded : PyValue}
    (h : loadTopologyRegistry sourcePath loaded rules defaultEnv defaultClusterId =
      .ok (registry, version)) :
    ∃ raw, loaded = .dict raw ∧
      (TopicsReachable (rawTopics raw version.value defaultEnv defaultClusterId) registry ↔
        KeysNormal (rawTopics raw version.value defaultEnv defaultClusterId)) := by
  obtain ⟨raw, streams, rfl, hloaded⟩ := loadedFrom_of_loadTopologyRegistry h
  refine ⟨raw, rfl, ?_⟩
  constructor
  · rintro ⟨honce, hfound⟩
    refine ⟨nodup_map_of_nodup_map honce fun x _ y _ hxy => ?_, fun t ht => ?_⟩
    · obtain ⟨hscope, hrest⟩ := Prod.mk.inj hxy
      rw [hscope, (Prod.mk.inj hrest).2]
    · obtain ⟨entry, hreadAs, hown, hlooked⟩ := hfound t ht
      exact hloaded.normal_of_lookedUp hreadAs hown hlooked
  · rintro ⟨hdistinct, hnormal⟩
    refine ⟨nodup_map_of_nodup_map hdistinct fun x hx y hy hxy => ?_, fun t ht => ?_⟩
    · obtain ⟨hscope, htext⟩ := Prod.mk.inj hxy
      obtain ⟨index, entry, hreadAs, hindex, hentry⟩ := hloaded.found hdistinct hx
      obtain ⟨index', entry', hreadAs', hindex', hentry'⟩ := hloaded.found hdistinct hy
      -- both entries are the one of the scope with the text
      rw [hscope, hindex', Option.some.injEq] at hindex
      rw [← hindex, htext, hentry', Option.some.injEq] at hentry
      rw [hscope, htext, ← hreadAs.2.1, ← hreadAs'.2.1, hentry]
    · obtain ⟨index, entry, hreadAs, hindex, hentry⟩ := hloaded.found hdistinct ht
      obtain ⟨htext, henv, hcluster⟩ := hnormal t ht
      refine ⟨entry, hreadAs, ?_, ?_⟩
      · rw [hindex, Option.bind_some, hentry]
      · simp only [lookedUpEntry, parseAnomalyScope, show normalizeScopePart t.text = _ from htext,
          show normalizeScopePart t.scope.1 = _ from henv,
          show normalizeScopePart t.scope.2 = _ from hcluster, Option.bind_eq_bind,
          Option.bind_some, Option.pure_def, hindex, hentry]

end Loading

/-- A document with one stream in one scope and a given topic index. -/
def topicDocument (topicIndex : Entries) : Entries :=
  [(.str "version", .scalar (.int 2)),
    (.str "streams", .list [.dict [
      (.str "stream_id", .str "orders"),
      (.str "instances", .list [.dict [
        (.str "env", .str "prod"),
        (.str "cluster_id", .str "c1"),
        (.str "topic_index", .dict topicIndex)]])]])]

/-- The entry of a topic with a role. -/
def roleEntry (role : String) : PyValue := .dict [(.str "role", .str role)]

/-- A topic whose key has blanks around it is loaded and never found, and of the keys `1` and
`"1"` one is loaded. -/
theorem topics_not_reachable :
    let _ := asciiPlatform []
    let _ := plainBuiltins
    let spaced := topicDocument [(.str " orders.raw ", roleEntry "SOURCE_TOPIC")]
    let merged := topicDocument
      [(.int 1, roleEntry "SOURCE_TOPIC"), (.str "1", roleEntry "SINK_TOPIC")]
    (∃ registry version,
      loadTopologyRegistry "registry.yaml" (.dict spaced) {} "prod" "c1" = .ok (registry, version) ∧
      ¬ TopicsReachable (rawTopics spaced version.value "prod" "c1") registry) ∧
    ∃ registry version,
      loadTopologyRegistry "registry.yaml" (.dict merged) {} "prod" "c1" = .ok (registry, version) ∧
      ¬ TopicsReachable (rawTopics merged version.value "prod" "c1") registry := by
  intro _ _ spaced merged
  constructor
  · have hload : ((loadTopologyRegistry "registry.yaml" (.dict spaced) {} "prod" "c1").toOption.map
        fun r => (r.2.value, lookedUpEntry r.1 ["prod", "c1", " orders.raw "])) = some (2, none) := by
      decide +kernel
    obtain ⟨⟨registry, version⟩, hload, hfacts⟩ := Option.map_eq_some_iff.mp hload
    obtain ⟨hversion, hlooked⟩ := Prod.mk.inj hfacts
    refine ⟨registry, version, Except.toOption_eq_some.mp hload, fun hreachable => ?_⟩
    rw [hversion] at hreachable
    have htopics : (rawTopics spaced 2 "prod" "c1").map (fun t => (t.scope, t.text)) =
        [(("prod", "c1"), " orders.raw ")] := by decide +kernel
    obtain ⟨t, ht, hscope, htext⟩ : ∃ t ∈ rawTopics spaced 2 "prod" "c1",
        t.scope = ("prod", "c1") ∧ t.text = " orders.raw " := by
      obtain ⟨t, ht, heq⟩ := List.mem_map.mp (htopics ▸ List.mem_singleton_self _)
      exact ⟨t, ht, (Prod.mk.inj heq).1, (Prod.mk.inj heq).2⟩
    obtain ⟨entry, -, -, hfound⟩ := hreachable.found t ht
    rw [hscope, htext, hlooked] at hfound
    cases hfound
  · have hload : ((loadTopologyRegistry "registry.yaml" (.dict merged) {} "prod" "c1").toOption.map
        fun r => r.2.value) = some 2 := by decide +kernel
    obtain ⟨⟨registry, version⟩, hload, hversion⟩ := Option.map_eq_some_iff.mp hload
    refine ⟨registry, version, Except.toOption_eq_some.mp hload, fun hreachable => ?_⟩
    rw [show version.value = 2 from hversion] at hreachable
    have htopics : (rawTopics merged 2 "prod" "c1").map (fun t => (t.scope, t.text)) =
        [(("prod", "c1"), "1"), (("prod", "c1"), "1")] := by decide +kernel
    have honce := hreachable.once
    rw [htopics] at honce
    exact absurd honce (by decide)

/-- An instance of a stream. -/
def instanceEntry (env clusterId : String) (topicIndex : Entries) : PyValue :=
  .dict [(.str "env", .str env), (.str "cluster_id", .str clusterId),
    (.str "topic_index", .dict topicIndex)]

/-- Two streams, one of which is in two scopes, with a topic of one name in both; the other has a
topic under a number. -/
def severalTopics : Entries :=
  [(.str "version", .scalar (.int 2)),
    (.str "streams", .list [
      .dict [(.str "stream_id", .str "orders"), (.str "instances", .list [
        instanceEntry "prod" "c1" [(.str "orders.raw", roleEntry "SOURCE_TOPIC"),
          (.str "orders.clean", roleEntry "SINK_TOPIC")],
        instanceEntry "dev" "c1" [(.str "orders.raw", roleEntry "SOURCE_TOPIC")]])],
      .dict [(.str "stream_id", .str "audit"), (.str "instances", .list [
        instanceEntry "prod" "c1" [(.int 1, roleEntry "SHARED_TOPIC")]])]])]

/-- Its keys are normal, so all four topics are reachable. -/
theorem topics_reachable_iff_orders :
    let _ := asciiPlatform []
    let _ := plainBuiltins
    ∃ registry version,
      loadTopologyRegistry "registry.yaml" (.dict severalTopics) {} "prod" "c1" =
        .ok (registry, version) ∧
      (rawTopics severalTopics version.value "prod" "c1").map (fun t => (t.scope, t.text)) =
        [(("prod", "c1"), "orders.raw"), (("prod", "c1"), "orders.clean"),
          (("dev", "c1"), "orders.raw"), (("prod", "c1"), "1")] ∧
      TopicsReachable (rawTopics severalTopics version.value "prod" "c1") registry := by
  intro _ _
  have hload : (loadTopologyRegistry "registry.yaml" (.dict severalTopics) {} "prod"
      "c1").toOption.map (fun loaded => loaded.2.value) = some 2 := by
    decide +kernel
  obtain ⟨⟨registry, version⟩, hload, hversion⟩ := Option.map_eq_some_iff.mp hload
  have hload := Except.toOption_eq_some.mp hload
  have hversion : version.value = 2 := hversion
  obtain ⟨raw, hraw, hiff⟩ := @topics_reachable_iff (asciiPlatform []) "registry.yaml" {} "prod"
    "c1" registry version plainBuiltins (.dict severalTopics) hload
  obtain rfl : severalTopics = raw := PyValue.dict.inj hraw
  have hdistinct : ((rawTopics severalTopics 2 "prod" "c1").map
      fun t => (t.scope, t.streamId, t.text)).Nodup := by
    decide +kernel
  have hnormal : ∀ t ∈ rawTopics severalTopics 2 "prod" "c1",
      normalizeScopePart t.text = some t.text ∧ normalizeScopePart t.scope.1 = some t.scope.1 ∧
        normalizeScopePart t.scope.2 = some t.scope.2 := by
    decide +kernel
  refine ⟨registry, version, hload, ?_, hiff.mpr ?_⟩
  · rw [hversion]
    decide +kernel
  · rw [hversion]
    exact ⟨hdistinct, hnormal⟩

end Registry

end AiopsTriage
