import AiopsTriage.Registry.Streams

/-!
# Referential integrity of a loaded registry

Resolution follows references: from a scope to its topics, from a topic to its stream and
the instance of the stream, from an owner to the routing directory. A snapshot in which all
of them lead somewhere is `Integral`, and on such a snapshot a scope is unresolved only
because it has no topic or no owner (`resolveAnomalyScope_of_integral`). What the loader
accepts is integral (`integral_of_loadTopologyRegistry`), which gives
`resolution_keeps_references`.
-/

namespace AiopsTriage

/-! ## Integral snapshots -/

section Integral

variable [Platform]

/-- A snapshot without dangling references. -/
structure Integral (snapshot : TopologyRegistrySnapshot) : Prop where
  /-- a topic has a stream, which has an instance where the topic is, and a role -/
  topics : ∀ env clusterId index topic entry,
    snapshot.topicIndexByScope.get? (env, clusterId) = some index →
    index.get? topic = some entry →
    (∃ stream, snapshot.streamsById.get? entry.streamId = some stream ∧
      stream.streamId = entry.streamId ∧ (findStreamInstance stream env clusterId).isSome) ∧
      (normalizeTopicRole entry.role).isSome
  /-- an owner can be routed to -/
  owners : ∀ env clusterId topic group streamId level routingKey,
    selectOwnerRoutingKey snapshot.ownershipMap env clusterId topic group streamId =
      some (level, routingKey) → (snapshot.routingDirectory.get? routingKey).isSome

variable {snapshot : TopologyRegistrySnapshot}

/-- **Resolution on an integral snapshot**: a scope is resolved to the stream of its topic's
entry, or there is no such topic or owner. -/
theorem resolveAnomalyScope_of_integral (h : Integral snapshot) (scope : Scope) :
    match resolveAnomalyScope snapshot scope with
    | .unresolved _ reasonCode _ =>
      reasonCode ∈ ["invalid_scope_shape", "scope_not_found", "topic_not_found", "owner_not_found"]
    | .resolved _ fields _ => ∃ env clusterId topic group index entry,
      parseAnomalyScope scope = some (env, clusterId, topic, group) ∧
        snapshot.topicIndexByScope.get? (env, clusterId) = some index ∧
        index.get? topic = some entry ∧ fields.streamId = entry.streamId := by
  unfold resolveAnomalyScope
  cases hparse : parseAnomalyScope scope with
  | none => simp
  | some parts =>
    obtain ⟨env, clusterId, topic, group⟩ := parts
    simp only
    cases hindex : snapshot.topicIndexByScope.get? (env, clusterId) with
    | none => simp
    | some index =>
      simp only
      cases hentry : index.get? topic with
      | none => simp
      | some entry =>
        obtain ⟨⟨stream, hstream, hid, hinst⟩, hrole⟩ :=
          h.topics env clusterId index topic entry hindex hentry
        obtain ⟨inst, hinst⟩ := Option.isSome_iff_exists.mp hinst
        obtain ⟨role, hrole⟩ := Option.isSome_iff_exists.mp hrole
        simp only [hstream, hinst, hrole, resolveOwnershipRouting]
        cases howner : selectOwnerRoutingKey snapshot.ownershipMap env clusterId topic group
            stream.streamId with
        | none => simp
        | some owner =>
          obtain ⟨level, routingKey⟩ := owner
          obtain ⟨target, htarget⟩ := Option.isSome_iff_exists.mp
            (h.owners env clusterId topic group stream.streamId level routingKey howner)
          simp only [htarget]
          exact ⟨env, clusterId, topic, group, index, entry, rfl, hindex, hentry, hid⟩

end Integral

namespace Registry

section Loading

variable [Platform] {render : PyValue → Json} {registry : CanonicalTopologyRegistry}

/-! ## References of a loaded registry -/

/-- The roles the loader knows are those that resolution knows. -/
theorem isSome_normalizeTopicRole {role : String} (h : role ∈ knownTopicRoles) :
    (normalizeTopicRole role).isSome := by
  have hnormal : ∀ r ∈ knownTopicRoles, PyText.strip r = r ∧ PyText.isAscii r = true ∧
      r.map Char.toUpper = r := by decide +kernel
  obtain ⟨hstrip, hascii, hupper⟩ := hnormal role h
  rw [normalizeTopicRole, hstrip, Platform.upper_ascii role hascii, hupper,
    Option.isSome_iff_ne_none, ne_eq, Dict.find_eq_none, not_not]
  exact h

omit [Platform] in
theorem ownerOf_mem {owners : List OwnerEntry} {key : String × String × String}
    {routingKey : String}
    (h : ownerOf (owners.map OwnerEntry.forResolution) key = some routingKey) :
    routingKey ∈ owners.map OwnerEntry.routingKey := by
  obtain ⟨found, hfound, rfl⟩ := Option.map_eq_some_iff.mp h
  obtain ⟨owner, howner, rfl⟩ := List.mem_map.mp (List.mem_of_find?_eq_some hfound)
  exact List.mem_map.mpr ⟨owner, howner, rfl⟩

omit [Platform] in
/-- A selected owner is one the ownership map refers to. -/
theorem mem_referencedRoutingKeys {env clusterId topic : String} {group : Option String}
    {streamId : String} {level : OwnershipLookupLevel} {routingKey : String}
    (h : selectOwnerRoutingKey (registry.forResolution render).ownershipMap env clusterId topic
      group streamId = some (level, routingKey)) :
    routingKey ∈ referencedRoutingKeys registry.ownershipMap := by
  simp only [selectOwnerRoutingKey, Option.orElse_eq_some,
    Option.bind_eq_some_iff, Option.map_eq_some_iff, Prod.mk.injEq,
    CanonicalTopologyRegistry.forResolution] at h
  simp only [referencedRoutingKeys, List.map_append, List.mem_append, Option.mem_toList]
  rcases h with ⟨g, -, key, hkey, -, rfl⟩ | ⟨-, ⟨key, hkey, -, rfl⟩ | ⟨-, h⟩⟩
  · exact .inl (.inl (.inl (ownerOf_mem hkey)))
  · exact .inl (.inl (.inr (ownerOf_mem hkey)))
  · rcases h with ⟨key, hkey, -, rfl⟩ | ⟨-, key, hkey, -, rfl⟩
    · exact .inl (.inr (ownerOf_mem hkey))
    · exact .inr hkey

variable [Builtins] {sourcePath : String} {raw : Entries} {rules : TopologyRegistryLoaderRulesV1}
  {defaultEnv defaultClusterId : String} {streams : List CanonicalStream}
  {version : RegistryVersion}

theorem LoadedFrom.ownTopics
    (h : LoadedFrom sourcePath raw rules defaultEnv defaultClusterId streams registry version) :
    OwnTopics streams := by
  obtain ⟨_, -, hstreams⟩ := h.canonical
  exact ownTopics_of_canonicalizeStreams hstreams

/-- A topic of the index is a topic of an instance in the scope, under the id of the stream. -/
theorem LoadedFrom.exists_instance
    (h : LoadedFrom sourcePath raw rules defaultEnv defaultClusterId streams registry version)
    {scope : ScopeKey} {index : TopicIndex} {topic : String} {entry : CanonicalTopicEntry}
    (hindex : registry.topicIndexByScope.get? scope = some index)
    (hentry : index.get? topic = some entry) :
    ∃ s ∈ streams, s.streamId = entry.streamId ∧
      ∃ inst ∈ s.instances, inst.scope = scope ∧ inst.topicIndex.get? topic = some entry := by
  have htopic := (h.topics.get? hindex).mp hentry
  obtain ⟨inst, hinst, hscope, he⟩ := mem_topicsOf.mp htopic
  obtain ⟨s, hs, hinst⟩ := List.mem_flatMap.mp hinst
  exact ⟨s, hs, (h.ownTopics s hs inst hinst _ he).1.symm, inst, hinst, hscope,
    Dict.get?_eq_some.mpr he⟩

/-- Only one stream has a topic in a scope. -/
theorem LoadedFrom.streamId_eq
    (h : LoadedFrom sourcePath raw rules defaultEnv defaultClusterId streams registry version)
    {scope : ScopeKey} {index : TopicIndex} {topic : String} {entry : CanonicalTopicEntry}
    (hindex : registry.topicIndexByScope.get? scope = some index)
    (hentry : index.get? topic = some entry) {s : CanonicalStream} (hs : s ∈ streams)
    {inst : CanonicalStreamInstance} (hinst : inst ∈ s.instances) (hscope : inst.scope = scope)
    (hhas : (inst.topicIndex.get? topic).isSome) : s.streamId = entry.streamId := by
  obtain ⟨entry', hentry'⟩ := Option.isSome_iff_exists.mp hhas
  have he := Dict.get?_eq_some.mp hentry'
  have hmem : (topic, entry') ∈ topicsOf (instancesOf streams) scope :=
    mem_topicsOf.mpr ⟨inst, List.mem_flatMap.mpr ⟨s, hs, hinst⟩, hscope, he⟩
  -- both entries of the scope are under the same topic
  have hfound := (h.topics.get? hindex).mpr hmem
  rw [hentry, Option.some.injEq] at hfound
  rw [hfound]
  exact (h.ownTopics s hs inst hinst _ he).1.symm

/-- A stream is found under its id. -/
theorem LoadedFrom.get?_streamsById
    (h : LoadedFrom sourcePath raw rules defaultEnv defaultClusterId streams registry version)
    {s : CanonicalStream} (hs : s ∈ streams) :
    registry.streamsById.get? s.streamId = some s := by
  rw [Dict.get?_eq_some, h.byId]
  exact List.mem_map_of_mem hs

omit [Platform] [Builtins] in
/-- A topic that resolution finds, as the registry has it. -/
theorem get?_forResolution {scope : ScopeKey} {topic : String}
    {index : Dict String AiopsTriage.CanonicalTopicEntry}
    {entry : AiopsTriage.CanonicalTopicEntry}
    (hindex : (registry.forResolution render).topicIndexByScope.get? scope = some index)
    (hentry : index.get? topic = some entry) :
    ∃ index' entry', registry.topicIndexByScope.get? scope = some index' ∧
      index'.get? topic = some entry' ∧ entry = entry'.forResolution := by
  rw [CanonicalTopologyRegistry.forResolution, Dict.get?_mapValues, Option.map_eq_some_iff] at hindex
  obtain ⟨index', hindex', rfl⟩ := hindex
  rw [Dict.get?_mapValues, Option.map_eq_some_iff] at hentry
  obtain ⟨entry', hentry', rfl⟩ := hentry
  exact ⟨index', entry', hindex', hentry', rfl⟩

/-- **The loader checks every reference** that resolution follows. -/
theorem LoadedFrom.integral
    (h : LoadedFrom sourcePath raw rules defaultEnv defaultClusterId streams registry version)
    (hrouting : rules.routingKeyRequired = true) (hroles : rules.failOnUnknownTopicRole = true)
    (render : PyValue → Json) : Integral (registry.forResolution render) where
  topics env clusterId index topic entry hindex hentry := by
    obtain ⟨index', entry', hindex', hentry', rfl⟩ := get?_forResolution hindex hentry
    obtain ⟨s, hs, hid, inst, hinst, hscope, htopic⟩ := h.exists_instance hindex' hentry'
    obtain ⟨rfl, rfl⟩ := Prod.mk.inj hscope
    have hallowed := h.admissible.fit.roles inst (List.mem_flatMap.mpr ⟨s, hs, hinst⟩) _
      (Dict.get?_eq_some.mp htopic)
    refine ⟨⟨s.forResolution render, ?_, hid, ?_⟩, isSome_normalizeTopicRole (hallowed hroles)⟩
    · have hfound := h.get?_streamsById hs
      rw [hid] at hfound
      exact Dict.get?_mapValues.trans (congrArg _ hfound)
    · refine List.find?_isSome.mpr ⟨inst.forResolution render, List.mem_map_of_mem hinst, ?_⟩
      simp [CanonicalStreamInstance.forResolution]
  owners env clusterId topic group streamId level routingKey hselect :=
    h.routable hrouting routingKey (mem_referencedRoutingKeys hselect)

/-- **Referential integrity**: on a registry that was loaded with both checks on, no scope is
unresolved for a missing stream, a missing instance, an unknown role or a missing routing
target; and a scope that is resolved has the id of the one stream whose instance in its
environment and cluster has its topic. -/
theorem resolution_keeps_references {loaded : PyValue}
    (h : loadTopologyRegistry sourcePath loaded rules defaultEnv defaultClusterId =
      .ok (registry, version))
    (hrouting : rules.routingKeyRequired = true) (hroles : rules.failOnUnknownTopicRole = true)
    (render : PyValue → Json) (scope : Scope) :
    match resolveAnomalyScope (registry.forResolution render) scope with
    | .unresolved _ reasonCode _ => reasonCode ∉
        ["stream_not_found", "stream_instance_not_found", "UNSUPPORTED_TOPIC_ROLE",
          "routing_key_not_found"]
    | .resolved _ fields _ => ∃ env clusterId topic group index entry,
        parseAnomalyScope scope = some (env, clusterId, topic, group) ∧
        registry.topicIndexByScope.get? (env, clusterId) = some index ∧
        index.get? topic = some entry ∧ fields.streamId = entry.streamId ∧
        (∃ s ∈ registry.streams, s.streamId = fields.streamId ∧ ∃ inst ∈ s.instances,
          inst.scope = (env, clusterId) ∧ inst.topicIndex.get? topic = some entry) ∧
        ∀ s ∈ registry.streams, ∀ inst ∈ s.instances, inst.scope = (env, clusterId) →
          (inst.topicIndex.get? topic).isSome → s.streamId = fields.streamId := by
  obtain ⟨raw, streams, rfl, hloaded⟩ := loadedFrom_of_loadTopologyRegistry h
  have hmem : ∀ s, s ∈ registry.streams ↔ s ∈ streams := by
    intro s
    rw [hloaded.sorted, List.mem_insertionSort]
  have hresolve := resolveAnomalyScope_of_integral (hloaded.integral hrouting hroles render) scope
  split
  · next reasonCode _ heq =>
    rw [heq] at hresolve
    intro hbad
    simp only [List.mem_cons, List.not_mem_nil, or_false] at hresolve hbad
    rcases hresolve with rfl | rfl | rfl | rfl <;> exact absurd hbad (by decide)
  · next fields _ heq =>
    rw [heq] at hresolve
    obtain ⟨env, clusterId, topic, group, index, entry, hparse, hindex, hentry, hid⟩ := hresolve
    obtain ⟨index', entry', hindex', hentry', rfl⟩ := get?_forResolution hindex hentry
    obtain ⟨s, hs, hsid, hinst⟩ := hloaded.exists_instance hindex' hentry'
    refine ⟨env, clusterId, topic, group, index', entry', hparse, hindex', hentry', hid,
      ⟨s, (hmem s).mpr hs, hsid.trans hid.symm, hinst⟩, fun s hs inst hinst hscope hhas => ?_⟩
    exact (hloaded.streamId_eq hindex' hentry' ((hmem s).mp hs) hinst hscope hhas).trans hid.symm

end Loading

/-- A document with one stream, one topic and one owner. -/
def ordersDocument : PyValue :=
  .dict [
    (.str "version", .scalar (.int 2)),
    (.str "streams", .list [.dict [
      (.str "stream_id", .str "orders"),
      (.str "instances", .list [.dict [
        (.str "env", .str "prod"),
        (.str "cluster_id", .str "c1"),
        (.str "topic_index", .dict [
          (.str "orders.raw", .dict [(.str "role", .str "SOURCE_TOPIC")])])]])]]),
    (.str "routing_directory", .list [.dict [
      (.str "routing_key", .str "team-a"),
      (.str "owning_team_id", .str "a"),
      (.str "owning_team_name", .str "Team A")]]),
    (.str "ownership_map", .dict [(.str "platform_default", .str "team-a")])]

theorem resolution_keeps_references_orders :
    let _ := asciiPlatform []
    let _ := plainBuiltins
    let rules : TopologyRegistryLoaderRulesV1 := { failOnUnknownTopicRole := true }
    ∃ registry version,
      loadTopologyRegistry "registry.yaml" ordersDocument rules "prod" "c1" =
        .ok (registry, version) ∧
      match resolveAnomalyScope (registry.forResolution fun _ => .null)
          ["prod", " c1", "orders.raw"] with
      | .unresolved _ _ _ => False
      | .resolved _ fields _ => ∃ s ∈ registry.streams, s.streamId = fields.streamId := by
  let _ := asciiPlatform []
  let _ := plainBuiltins
  let rules : TopologyRegistryLoaderRulesV1 := { failOnUnknownTopicRole := true }
  -- the document is loaded, and the scope is resolved
  have hresolved : (match loadTopologyRegistry "registry.yaml" ordersDocument rules "prod" "c1" with
      | .ok (registry, _) => match resolveAnomalyScope (registry.forResolution fun _ => .null)
          ["prod", " c1", "orders.raw"] with
        | .unresolved _ _ _ => false
        | .resolved _ _ _ => true
      | .error _ => false) = true := by decide +kernel
  cases hload : loadTopologyRegistry "registry.yaml" ordersDocument rules "prod" "c1" with
  | error _ =>
    rw [hload] at hresolved
    cases hresolved
  | ok loaded =>
    obtain ⟨registry, version⟩ := loaded
    have hkeeps := @resolution_keeps_references (asciiPlatform []) registry plainBuiltins
      "registry.yaml" rules "prod" "c1" version ordersDocument hload rfl rfl (fun _ => .null)
      ["prod", " c1", "orders.raw"]
    refine ⟨registry, version, hload, ?_⟩
    simp only [hload] at hresolved
    split
    · next heq =>
      rw [heq] at hresolved
      cases hresolved
    · next heq =>
      rw [heq] at hkeeps
      obtain ⟨_, _, _, _, _, _, -, -, -, -, ⟨s, hs, hid, -⟩, -⟩ := hkeeps
      exact ⟨s, hs, hid⟩

end Registry

end AiopsTriage
