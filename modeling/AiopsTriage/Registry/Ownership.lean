import AiopsTriage.Lib.SortByKey
import AiopsTriage.Registry.Integrity

/-!
# Who owns a scope

Owners are listed at three levels, and a platform default stands behind them.
`MostSpecific` says which owner a scope has without saying how it is looked up: the one at
the first level that has an entry for the scope. On a loaded registry, where no level has two
entries for the same names, `_select_owner_routing_key` finds it
(`selectOwnerRoutingKey_eq_some`), whatever the order of the entries in the document
(`loadTopologyRegistry_of_reordered`) and whatever the less specific levels have
(`MostSpecific.of_agreeUpTo`).
-/

namespace AiopsTriage

/-! ## Scopes that reach the lookup -/

/-- What the owner of a scope is looked up by. -/
structure OwnershipQuery where
  /-- the environment -/
  env : String
  /-- the cluster -/
  clusterId : String
  /-- the topic -/
  topic : String
  /-- the consumer group, of a scope that has one -/
  group : Option String
  /-- the stream of the topic -/
  streamId : String
  deriving DecidableEq, Repr

section Query

variable [Platform]

/-- The lookup of the owner that a resolution gets to, if it gets there. -/
def ownershipQuery (snapshot : TopologyRegistrySnapshot) (scope : Scope) : Option OwnershipQuery := do
  let (env, clusterId, topic, group) ← parseAnomalyScope scope
  let index ← snapshot.topicIndexByScope.get? (env, clusterId)
  let entry ← index.get? topic
  let stream ← snapshot.streamsById.get? entry.streamId
  let _ ← findStreamInstance stream env clusterId
  let _ ← normalizeTopicRole entry.role
  return ⟨env, clusterId, topic, group, stream.streamId⟩

/-- `selectOwnerRoutingKey` for a query. -/
def OwnershipQuery.select (q : OwnershipQuery) (owners : CanonicalOwnershipMap) :
    Option (OwnershipLookupLevel × String) :=
  selectOwnerRoutingKey owners q.env q.clusterId q.topic q.group q.streamId

/-- A resolution that gets to the lookup ends with the owner that is selected and its target, or
for want of one. -/
theorem resolveAnomalyScope_of_query {snapshot : TopologyRegistrySnapshot} {scope : Scope}
    {q : OwnershipQuery} (h : ownershipQuery snapshot scope = some q) :
    match resolveAnomalyScope snapshot scope with
    | .resolved _ fields _ => ∃ routingKey,
        q.select snapshot.ownershipMap = some (fields.ownershipRouting.lookupLevel, routingKey) ∧
        snapshot.routingDirectory.get? routingKey = some fields.ownershipRouting.target
    | .unresolved _ reasonCode _ =>
        reasonCode = "owner_not_found" ∧ q.select snapshot.ownershipMap = none ∨
        reasonCode = "routing_key_not_found" ∧ ∃ level routingKey,
          q.select snapshot.ownershipMap = some (level, routingKey) ∧
          snapshot.routingDirectory.get? routingKey = none := by
  simp only [ownershipQuery, Option.bind_eq_bind, Option.bind_eq_some_iff, Option.pure_def,
    Option.some.injEq] at h
  obtain ⟨⟨env, clusterId, topic, group⟩, hparse, index, hindex, entry, hentry, stream, hstream,
    inst, hinst, role, hrole, rfl⟩ := h
  simp only [resolveAnomalyScope, hparse, hindex, hentry, hstream, hinst, hrole,
    resolveOwnershipRouting, OwnershipQuery.select]
  cases howner : selectOwnerRoutingKey snapshot.ownershipMap env clusterId topic group
      stream.streamId with
  | none => exact .inl ⟨rfl, rfl⟩
  | some owner =>
    obtain ⟨level, routingKey⟩ := owner
    simp only
    cases htarget : snapshot.routingDirectory.get? routingKey with
    | none => exact .inr ⟨rfl, level, routingKey, rfl, htarget⟩
    | some target => exact ⟨routingKey, rfl, htarget⟩

end Query

namespace Registry

/-! ## The most specific owner -/

/-- An entry gives an owner to three names. -/
def OwnedBy (owners : List OwnerEntry) (key : String × String × String) (routingKey : String) :
    Prop :=
  ∃ owner ∈ owners, owner.key = key ∧ owner.routingKey = routingKey

/-- No entry is about three names. -/
def Unowned (owners : List OwnerEntry) (key : String × String × String) : Prop :=
  ∀ owner ∈ owners, owner.key ≠ key

/-- No entry is about the consumer group of a scope, if it has one. -/
def GroupUnowned (owners : CanonicalOwnershipMap) (q : OwnershipQuery) : Prop :=
  ∀ group, q.group = some group →
    Unowned owners.consumerGroupOwners (q.env, q.clusterId, group)

/-- The owner of a scope: that of the first level with an entry for it. -/
inductive MostSpecific (owners : CanonicalOwnershipMap) (q : OwnershipQuery) :
    OwnershipLookupLevel → String → Prop where
  /-- the scope has a consumer group, and the group has an owner -/
  | consumerGroupOwner {group routingKey : String} (hgroup : q.group = some group)
      (howner : OwnedBy owners.consumerGroupOwners (q.env, q.clusterId, group) routingKey) :
      MostSpecific owners q .consumerGroupOwner routingKey
  /-- else the topic has one -/
  | topicOwner {routingKey : String} (hgroup : GroupUnowned owners q)
      (howner : OwnedBy owners.topicOwners (q.env, q.clusterId, q.topic) routingKey) :
      MostSpecific owners q .topicOwner routingKey
  /-- else the stream has one there -/
  | streamDefaultOwner {routingKey : String} (hgroup : GroupUnowned owners q)
      (htopic : Unowned owners.topicOwners (q.env, q.clusterId, q.topic))
      (howner : OwnedBy owners.streamDefaultOwner (q.streamId, q.env, q.clusterId) routingKey) :
      MostSpecific owners q .streamDefaultOwner routingKey
  /-- else the platform has one -/
  | platformDefault {routingKey : String} (hgroup : GroupUnowned owners q)
      (htopic : Unowned owners.topicOwners (q.env, q.clusterId, q.topic))
      (hstream : Unowned owners.streamDefaultOwner (q.streamId, q.env, q.clusterId))
      (howner : owners.platformDefault = some routingKey) :
      MostSpecific owners q .platformDefault routingKey

/-- What resolution reads of an ownership map. -/
def CanonicalOwnershipMap.forResolution (owners : CanonicalOwnershipMap) :
    AiopsTriage.CanonicalOwnershipMap where
  consumerGroupOwners := owners.consumerGroupOwners.map OwnerEntry.forResolution
  topicOwners := owners.topicOwners.map OwnerEntry.forResolution
  streamDefaultOwner := owners.streamDefaultOwner.map OwnerEntry.forResolution
  platformDefault := owners.platformDefault

section Selection

variable {owners owners' : CanonicalOwnershipMap} {q : OwnershipQuery}
  {level : OwnershipLookupLevel} {routingKey : String}

theorem ownerOf_eq_none {entries : List OwnerEntry} {key : String × String × String} :
    ownerOf (entries.map OwnerEntry.forResolution) key = none ↔ Unowned entries key := by
  rw [ownerOf, Option.map_eq_none_iff, List.find?_eq_none, List.forall_mem_map]
  refine forall_congr' fun owner => forall_congr' fun _ => ?_
  rw [beq_iff_eq, OwnerEntry.forResolution]

/-- Where no two entries are about the same names, an owner is looked up by its entry. -/
theorem ownerOf_eq_some {entries : List OwnerEntry} {key : String × String × String}
    (hunique : UniqueOwners entries) :
    ownerOf (entries.map OwnerEntry.forResolution) key = some routingKey ↔
      OwnedBy entries key routingKey := by
  constructor
  · intro h
    obtain ⟨found, hfound, rfl⟩ := Option.map_eq_some_iff.mp h
    obtain ⟨owner, howner, rfl⟩ := List.mem_map.mp (List.mem_of_find?_eq_some hfound)
    exact ⟨owner, howner, by simpa [OwnerEntry.forResolution] using List.find?_some hfound, rfl⟩
  · rintro ⟨owner, howner, rfl, rfl⟩
    cases hfound : ownerOf (entries.map OwnerEntry.forResolution) owner.key with
    | none => exact absurd rfl (ownerOf_eq_none.mp hfound owner howner)
    | some routingKey =>
      obtain ⟨found, hfind, rfl⟩ := Option.map_eq_some_iff.mp hfound
      obtain ⟨owner', howner', rfl⟩ := List.mem_map.mp (List.mem_of_find?_eq_some hfind)
      have hkey : owner'.key = owner.key := by
        simpa [OwnerEntry.forResolution] using List.find?_some hfind
      rw [List.inj_on_of_nodup_map hunique howner' howner hkey]
      rfl

/-- The lookup at the consumer group. -/
theorem groupOwner_eq_none :
    (q.group.bind fun group => (ownerOf owners.forResolution.consumerGroupOwners
      (q.env, q.clusterId, group)).map (OwnershipLookupLevel.consumerGroupOwner, ·)) = none ↔
      GroupUnowned owners q := by
  rw [Option.bind_eq_none_iff]
  refine forall_congr' fun group => forall_congr' fun _ => ?_
  rw [Option.map_eq_none_iff]
  exact ownerOf_eq_none

/-- **The lookup finds the most specific owner.** -/
theorem selectOwnerRoutingKey_eq_some (hunique : UniquelyOwned owners) :
    q.select owners.forResolution = some (level, routingKey) ↔
      MostSpecific owners q level routingKey := by
  simp only [OwnershipQuery.select, selectOwnerRoutingKey, Option.orElse_eq_some,
    groupOwner_eq_none, Option.map_eq_none_iff, Option.map_eq_some_iff, Option.bind_eq_some_iff,
    Prod.mk.injEq]
  constructor
  · rintro (⟨group, hgroup, key, hkey, rfl, rfl⟩ | ⟨hgroup, ⟨key, hkey, rfl, rfl⟩ | ⟨htopic, h⟩⟩)
    · exact .consumerGroupOwner hgroup ((ownerOf_eq_some hunique.consumerGroups).mp hkey)
    · exact .topicOwner hgroup ((ownerOf_eq_some hunique.topics).mp hkey)
    · have htopic := ownerOf_eq_none.mp htopic
      rcases h with ⟨key, hkey, rfl, rfl⟩ | ⟨hstream, key, hkey, rfl, rfl⟩
      · exact .streamDefaultOwner hgroup htopic ((ownerOf_eq_some hunique.streams).mp hkey)
      · exact .platformDefault hgroup htopic (ownerOf_eq_none.mp hstream) hkey
  · intro h
    cases h with
    | consumerGroupOwner hgroup howner =>
      exact .inl ⟨_, hgroup, _, (ownerOf_eq_some hunique.consumerGroups).mpr howner, rfl, rfl⟩
    | topicOwner hgroup howner =>
      exact .inr ⟨hgroup, .inl ⟨_, (ownerOf_eq_some hunique.topics).mpr howner, rfl, rfl⟩⟩
    | streamDefaultOwner hgroup htopic howner =>
      exact .inr ⟨hgroup, .inr ⟨ownerOf_eq_none.mpr htopic,
        .inl ⟨_, (ownerOf_eq_some hunique.streams).mpr howner, rfl, rfl⟩⟩⟩
    | platformDefault hgroup htopic hstream howner =>
      exact .inr ⟨hgroup, .inr ⟨ownerOf_eq_none.mpr htopic,
        .inr ⟨ownerOf_eq_none.mpr hstream, _, howner, rfl, rfl⟩⟩⟩

/-- Two ownership maps with the same entries at a level and at all that are more specific. -/
structure AgreeUpTo (owners owners' : CanonicalOwnershipMap) (level : OwnershipLookupLevel) :
    Prop where
  /-- the same owners of consumer groups -/
  groups : ∀ o, o ∈ owners'.consumerGroupOwners ↔ o ∈ owners.consumerGroupOwners
  /-- the same owners of topics -/
  topics : level ≠ .consumerGroupOwner → ∀ o, o ∈ owners'.topicOwners ↔ o ∈ owners.topicOwners
  /-- the same owners of streams -/
  streams : level ≠ .consumerGroupOwner → level ≠ .topicOwner →
    ∀ o, o ∈ owners'.streamDefaultOwner ↔ o ∈ owners.streamDefaultOwner
  /-- the same default -/
  platform : level = .platformDefault → owners'.platformDefault = owners.platformDefault

theorem ownedBy_congr {es es' : List OwnerEntry} (h : ∀ o, o ∈ es' ↔ o ∈ es)
    {key : String × String × String} : OwnedBy es' key routingKey ↔ OwnedBy es key routingKey :=
  exists_congr fun o => and_congr_left fun _ => h o

theorem unowned_congr {es es' : List OwnerEntry} (h : ∀ o, o ∈ es' ↔ o ∈ es)
    {key : String × String × String} : Unowned es' key ↔ Unowned es key :=
  forall_congr' fun o => by rw [h o]

/-- **Less specific levels do not matter**: what is chosen at a level is chosen whatever the
levels after it have. -/
theorem MostSpecific.of_agreeUpTo (h : MostSpecific owners q level routingKey)
    (hagree : AgreeUpTo owners owners' level) : MostSpecific owners' q level routingKey := by
  have hgroups : GroupUnowned owners q → GroupUnowned owners' q :=
    fun h g hg => (unowned_congr hagree.groups).mpr (h g hg)
  cases h with
  | consumerGroupOwner hgroup howner =>
    exact .consumerGroupOwner hgroup ((ownedBy_congr hagree.groups).mpr howner)
  | topicOwner hgroup howner =>
    exact .topicOwner (hgroups hgroup) ((ownedBy_congr (hagree.topics nofun)).mpr howner)
  | streamDefaultOwner hgroup htopic howner =>
    exact .streamDefaultOwner (hgroups hgroup) ((unowned_congr (hagree.topics nofun)).mpr htopic)
      ((ownedBy_congr (hagree.streams nofun nofun)).mpr howner)
  | platformDefault hgroup htopic hstream howner =>
    exact .platformDefault (hgroups hgroup) ((unowned_congr (hagree.topics nofun)).mpr htopic)
      ((unowned_congr (hagree.streams nofun nofun)).mpr hstream)
      ((hagree.platform rfl).trans howner)

end Selection

/-! ## Owners in the document -/

/-- A document with the entries of its ownership map in another order. -/
structure Reordered (raw raw' : Entries) : Prop where
  /-- all the rest is as it was -/
  rest : ∀ key, key ≠ "ownership_map" → Dict.find (.str key) raw' = Dict.find (.str key) raw
  /-- and each list has the same entries -/
  owners : ∃ es es', ownershipEntries (getOr raw "ownership_map" (.dict [])) = some es ∧
    ownershipEntries (getOr raw' "ownership_map" (.dict [])) = some es' ∧
    get es' "platform_default" = get es "platform_default" ∧
    ∀ field ∈ ["consumer_group_owners", "topic_owners", "stream_default_owner"], ∃ items items',
      (getOr es field (.tuple [])).asSequence = some items ∧
      (getOr es' field (.tuple [])).asSequence = some items' ∧ items.Perm items'

section Document

variable [Platform] [Builtins] {sourcePath : String}

theorem coerceOwners_eq_ok {kind : OwnerKind} {value : PyValue} {owners : List OwnerEntry} :
    coerceOwners sourcePath kind value = .ok owners ↔ ∃ items, value.asSequence = some items ∧
      List.Forall₂ (fun item owner => coerceOwner sourcePath kind item = .ok owner) items owners := by
  unfold coerceOwners
  split
  · next items hitems => simp [hitems, Except.mapM_eq_ok]
  · next hnone => simp [hnone]

omit [Platform] [Builtins] in
/-- Owners with the same entries are sorted alike. -/
theorem sortOwners_eq_of_perm {owners owners' : List OwnerEntry}
    (hunique : UniqueOwners (sortOwners owners)) (h : owners.Perm owners') :
    sortOwners owners' = sortOwners owners := by
  have hkeys : (owners.map OwnerEntry.key).Nodup :=
    ((List.perm_insertionSort _ owners).map OwnerEntry.key).nodup_iff.mp hunique
  refine Eq.symm (List.sortByKey_eq_of_perm ?_ h)
  rw [List.nodup_map_iff_inj_on (List.Nodup.of_map _ hkeys)]
  intro a ha b hb hab
  refine List.inj_on_of_nodup_map hkeys ha hb ?_
  simp only [List.cons.injEq, and_true] at hab
  exact Prod.ext hab.1 (Prod.ext hab.2.1 hab.2.2)

/-- The same entries in another order are read as the same sorted owners. -/
theorem coerceOwners_of_perm {kind : OwnerKind} {value value' : PyValue}
    {owners : List OwnerEntry} {items items' : List PyValue}
    (hunique : UniqueOwners (sortOwners owners))
    (hitems : value.asSequence = some items) (hitems' : value'.asSequence = some items')
    (hperm : items.Perm items') (h : coerceOwners sourcePath kind value = .ok owners) :
    ∃ owners', coerceOwners sourcePath kind value' = .ok owners' ∧
      sortOwners owners' = sortOwners owners := by
  obtain ⟨_, hitems₀, hread⟩ := coerceOwners_eq_ok.mp h
  cases hitems.symm.trans hitems₀
  obtain ⟨owners', hread', hperm'⟩ := List.perm_comp_forall₂ hperm.symm hread
  exact ⟨owners', coerceOwners_eq_ok.mpr ⟨items', hitems', hread'⟩,
    sortOwners_eq_of_perm hunique hperm'.symm⟩

theorem canonicalizeOwnershipMap_eq_ok {raw : Entries} {owners : CanonicalOwnershipMap} :
    canonicalizeOwnershipMap sourcePath raw = .ok owners ↔ ∃ es groups topics streams,
      ownershipEntries (getOr raw "ownership_map" (.dict [])) = some es ∧
      coerceConsumerGroupOwners sourcePath (getOr es "consumer_group_owners" (.tuple [])) =
        .ok groups ∧
      coerceTopicOwners sourcePath (getOr es "topic_owners" (.tuple [])) = .ok topics ∧
      coerceStreamDefaultOwners sourcePath (getOr es "stream_default_owner" (.tuple [])) =
        .ok streams ∧
      optionalTextOf (get es "platform_default") = some owners.platformDefault ∧
      owners.consumerGroupOwners = sortOwners groups ∧ owners.topicOwners = sortOwners topics ∧
      owners.streamDefaultOwner = sortOwners streams := by
  unfold canonicalizeOwnershipMap
  split
  · next hnone => simp [hnone]
  · next es hes =>
    simp only [Except.bind_eq_ok, optionalString_eq_ok, Except.pure_eq_ok, hes]
    constructor
    · rintro ⟨groups, hgroups, topics, htopics, streams, hstreams, platform, hplatform, rfl⟩
      exact ⟨es, groups, topics, streams, rfl, hgroups, htopics, hstreams, hplatform, rfl, rfl, rfl⟩
    · rintro ⟨es', groups, topics, streams, hes', hgroups, htopics, hstreams, hplatform, h₁, h₂, h₃⟩
      cases hes'
      refine ⟨groups, hgroups, topics, htopics, streams, hstreams, _, hplatform, ?_⟩
      rw [← h₁, ← h₂, ← h₃]

/-- **The order of owners in the document** does not matter to the ownership map. -/
theorem canonicalizeOwnershipMap_of_reordered {raw raw' : Entries}
    {owners : CanonicalOwnershipMap} (hunique : UniquelyOwned owners)
    (h : canonicalizeOwnershipMap sourcePath raw = .ok owners) (hraw : Reordered raw raw') :
    canonicalizeOwnershipMap sourcePath raw' = .ok owners := by
  obtain ⟨es, groups, topics, streams, hes, hgroups, htopics, hstreams, hplatform, hg, ht, hs⟩ :=
    canonicalizeOwnershipMap_eq_ok.mp h
  obtain ⟨es₀, es', hes₀, hes', hdefault, hfields⟩ := hraw.owners
  cases hes.symm.trans hes₀
  obtain ⟨ugroups, utopics, ustreams⟩ := hunique
  rw [hg] at ugroups
  rw [ht] at utopics
  rw [hs] at ustreams
  obtain ⟨_, _, hi, hi', hperm⟩ := hfields "consumer_group_owners" (by decide)
  obtain ⟨groups', hgroups', hg'⟩ := coerceOwners_of_perm ugroups hi hi' hperm hgroups
  obtain ⟨_, _, hi, hi', hperm⟩ := hfields "topic_owners" (by decide)
  obtain ⟨topics', htopics', ht'⟩ := coerceOwners_of_perm utopics hi hi' hperm htopics
  obtain ⟨_, _, hi, hi', hperm⟩ := hfields "stream_default_owner" (by decide)
  obtain ⟨streams', hstreams', hs'⟩ := coerceOwners_of_perm ustreams hi hi' hperm hstreams
  refine canonicalizeOwnershipMap_eq_ok.mpr ⟨es', groups', topics', streams', hes', hgroups',
    htopics', hstreams', ?_, ?_, ?_, ?_⟩
  · rw [hdefault, hplatform]
  · rw [hg, hg']
  · rw [ht, ht']
  · rw [hs, hs']

variable {rules : TopologyRegistryLoaderRulesV1} {defaultEnv defaultClusterId : String}
  {registry : CanonicalTopologyRegistry} {version : RegistryVersion}

/-- A document with its owners in another order is loaded as the same registry. -/
theorem loadTopologyRegistry_of_reordered {raw raw' : Entries}
    (h : loadTopologyRegistry sourcePath (.dict raw) rules defaultEnv defaultClusterId =
      .ok (registry, version)) (hraw : Reordered raw raw') :
    loadTopologyRegistry sourcePath (.dict raw') rules defaultEnv defaultClusterId =
      .ok (registry, version) := by
  obtain ⟨_, streams, heq, hloaded⟩ := loadedFrom_of_loadTopologyRegistry h
  cases heq
  have howners := canonicalizeOwnershipMap_of_reordered hloaded.unique hloaded.owners hraw
  -- what is not about owners is read from the same fields
  have hversion : detectRegistryVersion raw' = detectRegistryVersion raw := by
    simp only [detectRegistryVersion, getOr, get, hraw.rest _ (show "version" ≠ _ by decide),
      hraw.rest _ (show "schema_version" ≠ _ by decide), hraw.rest _ (show "streams" ≠ _ by decide)]
  have hstreams : get raw' "streams" = get raw "streams" := by
    rw [get, hraw.rest _ (by decide), get]
  have hcanonical : ∀ streamsRaw n, canonicalizeStreams sourcePath raw' streamsRaw n defaultEnv
      defaultClusterId = canonicalizeStreams sourcePath raw streamsRaw n defaultEnv
      defaultClusterId := by
    intro streamsRaw n
    simp only [canonicalizeStreams, canonicalizeV0Streams, rawTopicIndex, getOr,
      hraw.rest _ (show "topic_index" ≠ _ by decide)]
  have hdirectory : canonicalizeRoutingDirectory sourcePath raw' =
      canonicalizeRoutingDirectory sourcePath raw := by
    simp only [canonicalizeRoutingDirectory, getOr,
      hraw.rest _ (show "routing_directory" ≠ _ by decide)]
  have hregistry : ∀ n, canonicalizeRegistry sourcePath raw' rules n defaultEnv defaultClusterId =
      canonicalizeRegistry sourcePath raw rules n defaultEnv defaultClusterId := by
    intro n
    simp only [canonicalizeRegistry, hstreams, hcanonical, hdirectory, howners, hloaded.owners]
  rw [← h]
  simp only [loadTopologyRegistry, hversion, hregistry]

omit [Platform] [Builtins] in
/-- A routing target stands under its own key. -/
theorem routingKey_of_get?_routingDirectory {raw : Entries}
    {directory : Dict String RoutingDirectoryEntry} {routingKey : String}
    {target : RoutingDirectoryEntry}
    (h : canonicalizeRoutingDirectory sourcePath raw = .ok directory)
    (htarget : directory.get? routingKey = some target) : target.routingKey = routingKey := by
  have hround : ∀ (directory directory' : Dict String RoutingDirectoryEntry) (item : PyValue),
      (∀ key t, directory.get? key = some t → t.routingKey = key) →
      addRoutingEntry sourcePath directory item = .ok directory' →
      ∀ key t, directory'.get? key = some t → t.routingKey = key := by
    intro directory directory' item hbefore hadd key t ht
    cases item with
    | dict fields =>
      obtain ⟨own, -, hadd⟩ := Except.bind_eq_ok.mp hadd
      obtain ⟨_, -, hadd⟩ := Except.bind_eq_ok.mp hadd
      obtain ⟨entry, hentry, hadd⟩ := Except.bind_eq_ok.mp hadd
      obtain rfl := Except.pure_eq_ok.mp hadd
      rw [Dict.get?_set] at ht
      split at ht
      · next hkey =>
        cases ht
        simp only [canonicalizeRoutingTarget, Except.bind_eq_ok, Except.pure_eq_ok] at hentry
        obtain ⟨_, -, _, -, _, -, _, -, _, -, rfl⟩ := hentry
        exact hkey
      · exact hbefore key t ht
    | scalar _ => cases hadd
    | list _ => cases hadd
    | tuple _ => cases hadd
  have hempty : ∀ key t, (Dict.empty : Dict String RoutingDirectoryEntry).get? key = some t →
      t.routingKey = key := fun _ _ ht => by cases ht
  unfold canonicalizeRoutingDirectory at h
  split at h
  · exact @Except.holds_of_foldlM _ _ _ (addRoutingEntry sourcePath)
      (fun _ d => ∀ key t, Dict.get? d key = some t → t.routingKey = key)
      (fun _ item d d' hbefore => hround d d' item hbefore) [] _ _ _ hempty h routingKey target
      htarget
  · cases h

/-- **Ownership routing**: on every registry that is loaded, and for every scope that reaches the
lookup of its owner, the resolution has the level and the routing key of the most specific
owner, or there is none, or its key is not in the routing directory. A scope without a
consumer group never has the owner of one. The same document with its owners in another order
is the same registry, and in any registry with the same owners at the level of the choice and
before it the choice is the same. -/
theorem ownership_routing_most_specific {loaded : PyValue}
    (h : loadTopologyRegistry sourcePath loaded rules defaultEnv defaultClusterId =
      .ok (registry, version)) (render : PyValue → Json) {scope : Scope} {q : OwnershipQuery}
    (hquery : ownershipQuery (registry.forResolution render) scope = some q) :
    (match resolveAnomalyScope (registry.forResolution render) scope with
      | .resolved _ fields _ =>
        MostSpecific registry.ownershipMap q fields.ownershipRouting.lookupLevel
          fields.ownershipRouting.target.routingKey ∧
        (q.group = none → fields.ownershipRouting.lookupLevel ≠ .consumerGroupOwner)
      | .unresolved _ reasonCode _ =>
        reasonCode = "owner_not_found" ∧
          (∀ level routingKey, ¬ MostSpecific registry.ownershipMap q level routingKey) ∨
        reasonCode = "routing_key_not_found" ∧ ∃ level routingKey,
          MostSpecific registry.ownershipMap q level routingKey ∧
          registry.routingDirectory.get? routingKey = none) ∧
    (∀ level routingKey,
      q.select (registry.forResolution render).ownershipMap = some (level, routingKey) ↔
        MostSpecific registry.ownershipMap q level routingKey) ∧
    (∀ raw raw', loaded = .dict raw → Reordered raw raw' →
      loadTopologyRegistry sourcePath (.dict raw') rules defaultEnv defaultClusterId =
        .ok (registry, version)) ∧
    ∀ sourcePath' loaded' rules' env' clusterId' registry' version',
      loadTopologyRegistry sourcePath' loaded' rules' env' clusterId' = .ok (registry', version') →
      ∀ level routingKey, AgreeUpTo registry.ownershipMap registry'.ownershipMap level →
        q.select (registry.forResolution render).ownershipMap = some (level, routingKey) →
        q.select (registry'.forResolution render).ownershipMap = some (level, routingKey) := by
  obtain ⟨raw, streams, hraw, hloaded⟩ := loadedFrom_of_loadTopologyRegistry h
  have hselect : ∀ level routingKey,
      q.select (registry.forResolution render).ownershipMap = some (level, routingKey) ↔
        MostSpecific registry.ownershipMap q level routingKey :=
    fun level routingKey => selectOwnerRoutingKey_eq_some hloaded.unique
  refine ⟨?_, hselect, ?_, ?_⟩
  · have hresolve := resolveAnomalyScope_of_query hquery
    split
    · next fields _ heq =>
      rw [heq] at hresolve
      obtain ⟨routingKey, hchoice, htarget⟩ := hresolve
      have hkey := routingKey_of_get?_routingDirectory hloaded.directory htarget
      have hspecific := (hselect _ _).mp hchoice
      rw [hkey]
      refine ⟨hspecific, fun hgroup hlevel => ?_⟩
      rw [hlevel] at hspecific
      cases hspecific with
      | consumerGroupOwner hsome _ => cases hgroup.symm.trans hsome
    · next heq =>
      rw [heq] at hresolve
      rcases hresolve with ⟨hreason, hnone⟩ | ⟨hreason, level, routingKey, hchoice, htarget⟩
      · refine .inl ⟨hreason, fun level routingKey hspecific => ?_⟩
        cases hnone.symm.trans ((hselect _ _).mpr hspecific)
      · exact .inr ⟨hreason, level, routingKey, (hselect _ _).mp hchoice, htarget⟩
  · intro raw raw' hdict hreordered
    rw [hdict] at h
    exact loadTopologyRegistry_of_reordered h hreordered
  · intro sourcePath' loaded' rules' env' clusterId' registry' version' h' level routingKey hagree
      hchoice
    obtain ⟨_, _, -, hloaded'⟩ := loadedFrom_of_loadTopologyRegistry h'
    exact (selectOwnerRoutingKey_eq_some hloaded'.unique).mpr
      (((hselect _ _).mp hchoice).of_agreeUpTo hagree)

end Document

/-- An entry for three names of an ownership list. -/
def ownerItem (names : List (String × String)) (routingKey : String) : PyValue :=
  .dict [(.str "match", .dict (names.map fun name => (.str name.1, .str name.2))),
    (.str "routing_key", .str routingKey)]

/-- A routing target of a directory. -/
def targetItem (routingKey : String) : PyValue :=
  .dict [(.str "routing_key", .str routingKey), (.str "owning_team_id", .str routingKey),
    (.str "owning_team_name", .str routingKey)]

/-- A stream of a few source topics in one cluster. -/
def streamItem (streamId : String) (topics : List String) : PyValue :=
  .dict [(.str "stream_id", .str streamId),
    (.str "instances", .list [.dict [(.str "env", .str "prod"), (.str "cluster_id", .str "c1"),
      (.str "topic_index", .dict (topics.map fun topic =>
        (.str topic, .dict [(.str "role", .str "SOURCE_TOPIC")])))]])]

/-- A document with owners at every level. -/
def fourLevels : PyValue :=
  .dict [
    (.str "version", .scalar (.int 2)),
    (.str "streams", .list [streamItem "orders" ["orders.raw", "orders.clean"],
      streamItem "audit" ["audit.raw"]]),
    (.str "routing_directory", .list
      (["team-platform", "team-stream", "team-topic", "team-group"].map targetItem)),
    (.str "ownership_map", .dict [
      (.str "platform_default", .str "team-platform"),
      (.str "stream_default_owner", .list [
        ownerItem [("stream_id", "orders"), ("env", "prod"), ("cluster_id", "c1")] "team-stream"]),
      (.str "topic_owners", .list [
        ownerItem [("env", "prod"), ("cluster_id", "c1"), ("topic", "orders.raw")] "team-topic",
        ownerItem [("env", "dev"), ("cluster_id", "c1"), ("topic", "audit.raw")] "team-topic"]),
      (.str "consumer_group_owners", .list [
        ownerItem [("env", "prod"), ("cluster_id", "c1"), ("group", "billing")] "team-group"])])]

/-- Scopes of the document, with the level and the key of their owners. -/
def ownedScopes : List (Scope × OwnershipLookupLevel × String) :=
  [(["prod", "c1", "billing", "orders.raw"], .consumerGroupOwner, "team-group"),
    (["prod", "c1", "shipping", "orders.raw"], .topicOwner, "team-topic"),
    (["prod", "c1", "orders.raw"], .topicOwner, "team-topic"),
    (["prod", "c1", "orders.clean"], .streamDefaultOwner, "team-stream"),
    (["prod", "c1", "audit.raw"], .platformDefault, "team-platform")]

/-- Every level is the most specific one for some scope. -/
theorem ownership_routing_most_specific_orders :
    let _ := asciiPlatform []
    let _ := plainBuiltins
    ∃ registry version,
      loadTopologyRegistry "registry.yaml" fourLevels {} "prod" "c1" = .ok (registry, version) ∧
      ∀ owned ∈ ownedScopes, ∃ q,
        ownershipQuery (registry.forResolution fun _ => .null) owned.1 = some q ∧
        MostSpecific registry.ownershipMap q owned.2.1 owned.2.2 := by
  let _ := asciiPlatform []
  let _ := plainBuiltins
  have hselected : (loadTopologyRegistry "registry.yaml" fourLevels {} "prod" "c1").toOption.map
      (fun loaded => ownedScopes.map fun owned =>
        (ownershipQuery (loaded.1.forResolution fun _ => .null) owned.1).bind fun q =>
          q.select (loaded.1.forResolution fun _ => .null).ownershipMap) =
      some (ownedScopes.map fun owned => some owned.2) := by
    decide +kernel
  obtain ⟨⟨registry, version⟩, hload, hselected⟩ := Option.map_eq_some_iff.mp hselected
  have hload := Except.toOption_eq_some.mp hload
  refine ⟨registry, version, hload, fun owned howned => ?_⟩
  obtain ⟨q, hquery, hselect⟩ :=
    Option.bind_eq_some_iff.mp (List.map_inj_left.mp hselected owned howned)
  exact ⟨q, hquery, ((@ownership_routing_most_specific (asciiPlatform []) plainBuiltins
    "registry.yaml" {} "prod" "c1" registry version fourLevels hload (fun _ => .null) _ _
      hquery).2.1 _ _).mp hselect⟩

end Registry

end AiopsTriage
