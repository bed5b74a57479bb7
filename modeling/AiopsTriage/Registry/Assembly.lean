import AiopsTriage.Lib.DictOrder
import AiopsTriage.Lib.Folds
import AiopsTriage.Registry.Loader

/-!
# What the loader puts together

The loop over the canonical streams accepts them exactly when they are `Admissible`: no
stream id twice, no scope twice in one stream, no topic twice in one scope, and known roles
where the rules ask for them. What it has then is what the streams say (`Assembled`): the
streams by id, and for every scope the topics of all instances in that scope.

`Loaded` collects what is known of a registry that was loaded.
-/

namespace AiopsTriage

namespace Registry

/-! ## Topics of a scope -/

/-- The topics of a scope over all instances in it. -/
def topicsOf (instances : List CanonicalStreamInstance) (scope : ScopeKey) :
    List (String × CanonicalTopicEntry) :=
  (instances.filter fun inst => inst.scope = scope).flatMap fun inst => inst.topicIndex.entries

/-- A role the rules allow. -/
def RoleAllowed (rules : TopologyRegistryLoaderRulesV1) (entry : CanonicalTopicEntry) : Prop :=
  rules.failOnUnknownTopicRole = true → entry.role ∈ knownTopicRoles

/-- Instances whose topics fit together: no scope has a topic twice, and every role is
allowed. -/
structure Fit (rules : TopologyRegistryLoaderRulesV1) (instances : List CanonicalStreamInstance) :
    Prop where
  /-- no topic twice -/
  topics : ∀ scope, ((topicsOf instances scope).map Prod.fst).Nodup
  /-- allowed roles only -/
  roles : ∀ inst ∈ instances, ∀ e ∈ inst.topicIndex.entries, RoleAllowed rules e.2

/-- An index by scope that has the topics of the instances. -/
def Indexed (instances : List CanonicalStreamInstance) (d : Dict ScopeKey TopicIndex) : Prop :=
  ∀ scope, (d.get? scope).map Dict.entries =
    if scope ∈ instances.map CanonicalStreamInstance.scope then some (topicsOf instances scope)
    else none

section Topics

variable {is js : List CanonicalStreamInstance} {inst : CanonicalStreamInstance} {scope : ScopeKey}

theorem topicsOf_append : topicsOf (is ++ js) scope = topicsOf is scope ++ topicsOf js scope := by
  rw [topicsOf, List.filter_append, List.flatMap_append]
  rfl

theorem topicsOf_singleton :
    topicsOf [inst] scope = if inst.scope = scope then inst.topicIndex.entries else [] := by
  by_cases h : inst.scope = scope
  · simp [topicsOf, h]
  · simp [topicsOf, h]

theorem mem_topicsOf {e : String × CanonicalTopicEntry} :
    e ∈ topicsOf is scope ↔ ∃ inst ∈ is, inst.scope = scope ∧ e ∈ inst.topicIndex.entries := by
  simp only [topicsOf, List.mem_flatMap, List.mem_filter, decide_eq_true_eq, and_assoc]

theorem topicsOf_of_notMem (h : scope ∉ is.map CanonicalStreamInstance.scope) :
    topicsOf is scope = [] := by
  rw [List.eq_nil_iff_forall_not_mem]
  intro e he
  obtain ⟨inst, hinst, rfl, -⟩ := mem_topicsOf.mp he
  exact h (List.mem_map_of_mem hinst)

variable {rules : TopologyRegistryLoaderRulesV1}

/-- A part of what fits fits. -/
theorem Fit.part (h : Fit rules (is ++ js)) : Fit rules is where
  topics scope := by
    have hnodup := h.topics scope
    rw [topicsOf_append, List.map_append] at hnodup
    exact (List.nodup_append.mp hnodup).1
  roles inst hinst := h.roles inst (List.mem_append_left js hinst)

theorem fit_nil : Fit rules [] := ⟨fun _ => List.nodup_nil, nofun⟩

/-- One more instance fits when its topics are new in its scope. -/
theorem fit_append_singleton (h : Fit rules is) : Fit rules (is ++ [inst]) ↔
    ((topicsOf is inst.scope ++ inst.topicIndex.entries).map Prod.fst).Nodup ∧
      ∀ e ∈ inst.topicIndex.entries, RoleAllowed rules e.2 := by
  constructor
  · intro hboth
    have hnodup := hboth.topics inst.scope
    rw [topicsOf_append, topicsOf_singleton, if_pos rfl] at hnodup
    exact ⟨hnodup, hboth.roles inst (List.mem_append_right is (List.mem_singleton_self inst))⟩
  · rintro ⟨hnodup, hroles⟩
    refine ⟨fun scope => ?_, fun inst' hinst' => ?_⟩
    · rw [topicsOf_append, topicsOf_singleton]
      split
      · next hscope =>
        rw [← hscope]
        exact hnodup
      · rw [List.append_nil]
        exact h.topics scope
    · rcases List.mem_append.mp hinst' with hold | hnew
      · exact h.roles inst' hold
      · rw [List.mem_singleton.mp hnew]
        exact hroles

variable {d : Dict ScopeKey TopicIndex}

theorem indexed_nil : Indexed [] .empty := fun _ => rfl

/-- The topics that an index has for a scope. -/
theorem Indexed.entries (h : Indexed is d) (scope : ScopeKey) :
    ((d.get? scope).getD .empty).entries = topicsOf is scope := by
  have hscope := h scope
  cases hd : d.get? scope with
  | none =>
    rw [hd] at hscope
    split at hscope
    · cases hscope
    · next hmem => exact (topicsOf_of_notMem hmem).symm
  | some index =>
    rw [hd] at hscope
    split at hscope
    · exact Option.some.inj hscope
    · cases hscope

/-- Setting the topics of a scope to those of one more instance in it. -/
theorem Indexed.set (h : Indexed is d) {index : TopicIndex}
    (hindex : index.entries = topicsOf is inst.scope ++ inst.topicIndex.entries) :
    Indexed (is ++ [inst]) (d.set inst.scope index) := by
  intro scope
  have hmem : scope ∈ (is ++ [inst]).map CanonicalStreamInstance.scope ↔
      scope ∈ is.map CanonicalStreamInstance.scope ∨ inst.scope = scope := by
    rw [List.map_append, List.mem_append, List.map_singleton, List.mem_singleton, eq_comm (a := scope)]
  rw [Dict.get?_set, topicsOf_append, topicsOf_singleton, if_congr hmem rfl rfl]
  by_cases hscope : inst.scope = scope
  · subst hscope
    rw [if_pos rfl, if_pos rfl, if_pos (.inr rfl), Option.map_some, hindex]
  · rw [if_neg hscope, if_neg hscope, List.append_nil, if_congr (or_iff_left hscope) rfl rfl]
    exact h scope

/-- What is found in an index is a topic of an instance in the scope. -/
theorem Indexed.get? (h : Indexed is d) {index : TopicIndex} (hindex : d.get? scope = some index)
    {topic : String} {entry : CanonicalTopicEntry} :
    index.get? topic = some entry ↔ (topic, entry) ∈ topicsOf is scope := by
  rw [Dict.get?_eq_some, ← h.entries scope, hindex, Option.getD_some]

end Topics

/-! ## The loop over the streams -/

section Loop

variable {sourcePath : String} {rules : TopologyRegistryLoaderRulesV1}

theorem addTopic_eq_ok {scope : ScopeKey} {index index' : TopicIndex}
    {e : String × CanonicalTopicEntry} : addTopic sourcePath rules scope index e = .ok index' ↔
      index.get? e.1 = none ∧ RoleAllowed rules e.2 ∧ index' = index.set e.1 e.2 := by
  simp only [addTopic, Except.bind_eq_ok, rejectIf_eq_ok, Except.pure_eq_ok, RoleAllowed,
    not_and, not_not, Option.not_isSome_iff_eq_none, exists_and_left, exists_const]
  exact and_congr_right fun _ => and_congr_right fun _ => eq_comm

/-- The topics of an instance are added when none of them is there yet. -/
theorem addTopics_eq_ok {scope : ScopeKey} {es : List (String × CanonicalTopicEntry)}
    {index index' : TopicIndex} :
    es.foldlM (addTopic sourcePath rules scope) index = .ok index' ↔
      ((index.entries ++ es).map Prod.fst).Nodup ∧ (∀ e ∈ es, RoleAllowed rules e.2) ∧
        index'.entries = index.entries ++ es := by
  induction es generalizing index with
  | nil =>
    rw [Except.foldlM_nil_eq_ok, List.append_nil]
    constructor
    · rintro rfl
      exact ⟨index.nodup, nofun, rfl⟩
    · rintro ⟨-, -, h⟩
      exact Dict.ext_entries h.symm
  | cons e es ih =>
    rw [Except.foldlM_cons_eq_ok]
    constructor
    · rintro ⟨mid, hmid, hrest⟩
      obtain ⟨hnew, hrole, rfl⟩ := addTopic_eq_ok.mp hmid
      have hentries : (index.set e.1 e.2).entries = index.entries ++ [e] :=
        Dict.setEntries_of_notMem (Dict.find_eq_none.mp hnew)
      obtain ⟨hnodup, hroles, hindex⟩ := ih.mp hrest
      rw [hentries, List.append_assoc, List.singleton_append] at hnodup hindex
      exact ⟨hnodup, List.forall_mem_cons.mpr ⟨hrole, hroles⟩, hindex⟩
    · rintro ⟨hnodup, hroles, hindex⟩
      obtain ⟨hrole, hroles⟩ := List.forall_mem_cons.mp hroles
      have hnew : e.1 ∉ index.entries.map Prod.fst := by
        rw [List.map_append] at hnodup
        exact fun hmem => (List.nodup_append.mp hnodup).2.2 _ hmem _ List.mem_cons_self rfl
      have hentries : (index.set e.1 e.2).entries = index.entries ++ [e] :=
        Dict.setEntries_of_notMem hnew
      refine ⟨index.set e.1 e.2,
        addTopic_eq_ok.mpr ⟨Dict.find_eq_none.mpr hnew, hrole, rfl⟩, ih.mpr ⟨?_, hroles, ?_⟩⟩
      · rwa [hentries, List.append_assoc, List.singleton_append]
      · rwa [hentries, List.append_assoc, List.singleton_append]

variable {streamId : String} {a a' : Assembly} {is : List CanonicalStreamInstance}
  {inst : CanonicalStreamInstance}

/-- What the assembly has within a stream: the streams up to it, the topics of all
instances so far, and the scopes of its own instances so far. -/
structure Within (streamsById : Dict String CanonicalStream) (is js : List CanonicalStreamInstance)
    (a : Assembly) : Prop where
  /-- the streams -/
  streams : a.streamsById = streamsById
  /-- the topics -/
  topics : Indexed (is ++ js) a.topicIndexByScope
  /-- the scopes -/
  seen : ∀ scope, scope ∈ a.seenScopeForStream ↔ scope ∈ js.map CanonicalStreamInstance.scope

/-- Instances of one stream that fit with those before: no scope twice. -/
def FitWithin (rules : TopologyRegistryLoaderRulesV1) (is js : List CanonicalStreamInstance) :
    Prop :=
  (js.map CanonicalStreamInstance.scope).Nodup ∧ Fit rules (is ++ js)

theorem fitWithin_append_singleton {js : List CanonicalStreamInstance}
    (h : FitWithin rules is js) : FitWithin rules is (js ++ [inst]) ↔
      inst.scope ∉ js.map CanonicalStreamInstance.scope ∧
        ((topicsOf (is ++ js) inst.scope ++ inst.topicIndex.entries).map Prod.fst).Nodup ∧
        ∀ e ∈ inst.topicIndex.entries, RoleAllowed rules e.2 := by
  rw [FitWithin, ← List.append_assoc, fit_append_singleton h.2, List.map_append, List.map_singleton,
    ← List.concat_eq_append, List.nodup_concat]
  exact ⟨fun hboth => ⟨hboth.1.1, hboth.2⟩, fun hboth => ⟨⟨hboth.1, h.1⟩, hboth.2⟩⟩

/-- One more instance: it is added exactly when it fits. -/
theorem addInstance_eq_ok {d : Dict String CanonicalStream} {js : List CanonicalStreamInstance}
    (h : Within d is js a) (hfit : FitWithin rules is js) :
    (∀ a', addInstance sourcePath rules streamId a inst = .ok a' →
      Within d is (js ++ [inst]) a' ∧ FitWithin rules is (js ++ [inst])) ∧
    (FitWithin rules is (js ++ [inst]) →
      ∃ a', addInstance sourcePath rules streamId a inst = .ok a') := by
  have hentries := h.topics.entries inst.scope
  have hstep : ∀ a', addInstance sourcePath rules streamId a inst = .ok a' ↔
      inst.scope ∉ a.seenScopeForStream ∧ ∃ index : TopicIndex,
        (((topicsOf (is ++ js) inst.scope ++ inst.topicIndex.entries).map Prod.fst).Nodup ∧
          (∀ e ∈ inst.topicIndex.entries, RoleAllowed rules e.2) ∧
          index.entries = topicsOf (is ++ js) inst.scope ++ inst.topicIndex.entries) ∧
        { a with
          topicIndexByScope := a.topicIndexByScope.set inst.scope index
          seenScopeForStream := inst.scope :: a.seenScopeForStream } = a' := by
    intro a'
    simp only [addInstance, Except.bind_eq_ok, rejectIf_eq_ok, Except.pure_eq_ok, addTopics_eq_ok,
      hentries, exists_and_left, exists_const]
  constructor
  · intro a' ha'
    obtain ⟨hseen, index, ⟨hnodup, hroles, hindex⟩, rfl⟩ := (hstep a').mp ha'
    refine ⟨⟨h.streams, ?_, fun scope => ?_⟩, (fitWithin_append_singleton hfit).mpr
      ⟨fun hmem => hseen ((h.seen inst.scope).mpr hmem), hnodup, hroles⟩⟩
    · rw [← List.append_assoc]
      exact h.topics.set hindex
    · rw [List.map_append, List.mem_append, List.mem_cons, h.seen scope, List.map_singleton,
        List.mem_singleton, or_comm]
  · intro hboth
    obtain ⟨hscope, hnodup, hroles⟩ := (fitWithin_append_singleton hfit).mp hboth
    have hseen : inst.scope ∉ a.seenScopeForStream := fun hmem => hscope ((h.seen _).mp hmem)
    exact ⟨_, (hstep _).mpr ⟨hseen, ⟨_, hnodup⟩, ⟨hnodup, hroles, rfl⟩, rfl⟩⟩

/-- The instances of a stream are added exactly when they fit. -/
theorem addInstances_eq_ok {d : Dict String CanonicalStream} {js : List CanonicalStreamInstance}
    (h : Within d is [] a) (hfit : Fit rules is) :
    (∀ a', js.foldlM (addInstance sourcePath rules streamId) a = .ok a' →
      Within d is js a' ∧ FitWithin rules is js) ∧
    (FitWithin rules is js →
      ∃ a', js.foldlM (addInstance sourcePath rules streamId) a = .ok a') := by
  have hstart : Within d is [] a ∧ FitWithin rules is [] :=
    ⟨h, List.nodup_nil, by rwa [List.append_nil]⟩
  constructor
  · intro a' ha'
    exact Except.holds_of_foldlM (P := fun js a => Within d is js a ∧ FitWithin rules is js)
      (fun js inst a a' hholds hstep => (addInstance_eq_ok hholds.1 hholds.2).1 a' hstep)
      hstart ha'
  · intro hall
    refine Except.foldlM_returns (P := fun js a => Within d is js a ∧ FitWithin rules is js)
      (Q := FitWithin rules is) (fun before after hboth => ?_)
      (fun js inst a hholds hboth => ?_) hstart hall
    · rw [FitWithin, List.map_append, ← List.append_assoc] at hboth
      exact ⟨(List.nodup_append.mp hboth.1).1, hboth.2.part⟩
    · obtain ⟨hok, hreturns⟩ := addInstance_eq_ok hholds.1 hholds.2
      obtain ⟨a', ha'⟩ := hreturns hboth
      exact ⟨a', ha', hok a' ha'⟩

/-- The instances of some streams. -/
def instancesOf (streams : List CanonicalStream) : List CanonicalStreamInstance :=
  streams.flatMap CanonicalStream.instances

/-- Streams that the loader accepts. -/
structure Admissible (rules : TopologyRegistryLoaderRulesV1) (streams : List CanonicalStream) :
    Prop where
  /-- no id twice -/
  ids : (streams.map CanonicalStream.streamId).Nodup
  /-- no scope twice in a stream -/
  scopes : ∀ s ∈ streams, (s.instances.map CanonicalStreamInstance.scope).Nodup
  /-- topics and roles fit -/
  fit : Fit rules (instancesOf streams)

/-- An assembly that says what the streams say. -/
structure Assembled (streams : List CanonicalStream) (a : Assembly) : Prop where
  /-- every stream under its id -/
  byId : a.streamsById.entries = streams.map fun s => (s.streamId, s)
  /-- every scope with its topics -/
  topics : Indexed (instancesOf streams) a.topicIndexByScope

variable {ss : List CanonicalStream} {s : CanonicalStream}

theorem instancesOf_append_singleton : instancesOf (ss ++ [s]) = instancesOf ss ++ s.instances := by
  rw [instancesOf, List.flatMap_append, List.flatMap_singleton, instancesOf]

theorem admissible_nil : Admissible rules [] := ⟨List.nodup_nil, nofun, fit_nil⟩

theorem assembled_nil : Assembled [] {} := ⟨rfl, indexed_nil⟩

/-- One more stream is admissible when its id is new and its instances fit. -/
theorem admissible_append_singleton (h : Admissible rules ss) : Admissible rules (ss ++ [s]) ↔
    s.streamId ∉ ss.map CanonicalStream.streamId ∧ FitWithin rules (instancesOf ss) s.instances := by
  constructor
  · rintro ⟨hids, hscopes, hfit⟩
    rw [List.map_append, List.map_singleton, ← List.concat_eq_append, List.nodup_concat] at hids
    rw [instancesOf_append_singleton] at hfit
    exact ⟨hids.1, hscopes s (List.mem_append_right ss (List.mem_singleton_self s)), hfit⟩
  · rintro ⟨hid, hscopes, hfit⟩
    refine ⟨?_, fun s' hs' => ?_, ?_⟩
    · rw [List.map_append, List.map_singleton, ← List.concat_eq_append, List.nodup_concat]
      exact ⟨hid, h.ids⟩
    · rcases List.mem_append.mp hs' with hold | hnew
      · exact h.scopes s' hold
      · rwa [List.mem_singleton.mp hnew]
    · rwa [instancesOf_append_singleton]

theorem Admissible.part {ss' : List CanonicalStream} (h : Admissible rules (ss ++ ss')) :
    Admissible rules ss where
  ids := by
    have hids := h.ids
    rw [List.map_append] at hids
    exact (List.nodup_append.mp hids).1
  scopes s hs := h.scopes s (List.mem_append_left ss' hs)
  fit := by
    have hfit := h.fit
    rw [instancesOf, List.flatMap_append] at hfit
    exact hfit.part

/-- One more stream: it is added exactly when it is admissible with those before. -/
theorem addStream_eq_ok (h : Assembled ss a) (hadm : Admissible rules ss) :
    (∀ a', addStream sourcePath rules a s = .ok a' →
      Assembled (ss ++ [s]) a' ∧ Admissible rules (ss ++ [s])) ∧
    (Admissible rules (ss ++ [s]) → ∃ a', addStream sourcePath rules a s = .ok a') := by
  have hkeys : a.streamsById.entries.map Prod.fst = ss.map CanonicalStream.streamId := by
    rw [h.byId, List.map_map]
    rfl
  have hnew : a.streamsById.get? s.streamId = none ↔ s.streamId ∉ ss.map CanonicalStream.streamId := by
    rw [Dict.get?, Dict.find_eq_none, hkeys]
  have hwithin : Within (a.streamsById.set s.streamId s) (instancesOf ss) []
      { a with streamsById := a.streamsById.set s.streamId s, seenScopeForStream := [] } :=
    ⟨rfl, by rw [List.append_nil]; exact h.topics, fun _ => Iff.rfl⟩
  obtain ⟨hok, hreturns⟩ := @addInstances_eq_ok sourcePath rules s.streamId _ _ _ s.instances hwithin
    hadm.fit
  have hstep : ∀ a', addStream sourcePath rules a s = .ok a' ↔
      a.streamsById.get? s.streamId = none ∧
        s.instances.foldlM (addInstance sourcePath rules s.streamId)
          { a with streamsById := a.streamsById.set s.streamId s, seenScopeForStream := [] } =
        .ok a' := by
    intro a'
    simp only [addStream, Except.bind_eq_ok, rejectIf_eq_ok, Option.not_isSome_iff_eq_none,
      exists_and_left, exists_const]
  constructor
  · intro a' ha'
    obtain ⟨hid, hloop⟩ := (hstep a').mp ha'
    obtain ⟨hthere, hfit⟩ := hok a' hloop
    refine ⟨⟨?_, ?_⟩, (admissible_append_singleton hadm).mpr ⟨hnew.mp hid, hfit⟩⟩
    · have hentries : (a.streamsById.set s.streamId s).entries =
          a.streamsById.entries ++ [(s.streamId, s)] :=
        Dict.setEntries_of_notMem (Dict.find_eq_none.mp hid)
      rw [hthere.streams, hentries, h.byId, List.map_append, List.map_singleton]
    · rw [instancesOf_append_singleton]
      exact hthere.topics
  · intro hboth
    obtain ⟨hid, hfit⟩ := (admissible_append_singleton hadm).mp hboth
    obtain ⟨a', ha'⟩ := hreturns hfit
    exact ⟨a', (hstep a').mpr ⟨hnew.mpr hid, ha'⟩⟩

/-- **The loop over the streams**: it returns exactly on admissible streams, and with what
they say. -/
theorem addStreams_eq_ok :
    (∀ a', ss.foldlM (addStream sourcePath rules) {} = .ok a' →
      Assembled ss a' ∧ Admissible rules ss) ∧
    (Admissible rules ss → ∃ a', ss.foldlM (addStream sourcePath rules) {} = .ok a') := by
  have hstart : Assembled [] {} ∧ Admissible rules [] := ⟨assembled_nil, admissible_nil⟩
  constructor
  · intro a' ha'
    exact Except.holds_of_foldlM (P := fun ss a => Assembled ss a ∧ Admissible rules ss)
      (fun ss s a a' hholds hstep => (addStream_eq_ok hholds.1 hholds.2).1 a' hstep) hstart ha'
  · intro hall
    refine Except.foldlM_returns (P := fun ss a => Assembled ss a ∧ Admissible rules ss)
      (Q := Admissible rules) (fun before after => Admissible.part) (fun ss s a hholds hboth => ?_)
      hstart hall
    obtain ⟨hok, hreturns⟩ := addStream_eq_ok hholds.1 hholds.2
    obtain ⟨a', ha'⟩ := hreturns hboth
    exact ⟨a', ha', hok a' ha'⟩

end Loop

/-! ## A loaded registry -/

/-- No two owners are about the same names. -/
def UniqueOwners (owners : List OwnerEntry) : Prop := (owners.map OwnerEntry.key).Nodup

theorem rejectDuplicateOwner_eq_ok {sourcePath category detail : String}
    {seen : List (String × String × String)} {owners : List OwnerEntry} {u : Unit} :
    rejectDuplicateOwner sourcePath category detail seen owners = .ok u ↔
      UniqueOwners owners ∧ ∀ owner ∈ owners, owner.key ∉ seen := by
  induction owners generalizing seen with
  | nil => exact ⟨fun _ => ⟨List.nodup_nil, nofun⟩, fun _ => rfl⟩
  | cons owner owners ih =>
    simp only [rejectDuplicateOwner, Except.bind_eq_ok, rejectIf_eq_ok, exists_and_left,
      exists_const, ih, UniqueOwners, List.map_cons, List.nodup_cons, List.mem_cons, not_or,
      forall_eq_or_imp, List.mem_map, not_exists, not_and]
    constructor
    · rintro ⟨hfirst, hnodup, hrest⟩
      exact ⟨⟨fun other hother heq => (hrest other hother).1 heq, hnodup⟩, hfirst,
        fun other hother => (hrest other hother).2⟩
    · rintro ⟨⟨hdiff, hnodup⟩, hfirst, hrest⟩
      exact ⟨hfirst, hnodup, fun other hother => ⟨hdiff other hother, hrest other hother⟩⟩

/-- An ownership map in which no two owners of a kind are about the same names. -/
structure UniquelyOwned (owners : CanonicalOwnershipMap) : Prop where
  /-- consumer groups -/
  consumerGroups : UniqueOwners owners.consumerGroupOwners
  /-- topics -/
  topics : UniqueOwners owners.topicOwners
  /-- streams -/
  streams : UniqueOwners owners.streamDefaultOwner

/-- Every owner is in the routing directory, where the rules ask for it. -/
def Routable (rules : TopologyRegistryLoaderRulesV1) (owners : CanonicalOwnershipMap)
    (directory : Dict String RoutingDirectoryEntry) : Prop :=
  rules.routingKeyRequired = true →
    ∀ key ∈ referencedRoutingKeys owners, (directory.get? key).isSome

theorem validateOwnershipMatrix_eq_ok {sourcePath : String} {registry : CanonicalTopologyRegistry}
    {rules : TopologyRegistryLoaderRulesV1} :
    validateOwnershipMatrix sourcePath registry rules = .ok () ↔
      UniquelyOwned registry.ownershipMap ∧
        Routable rules registry.ownershipMap registry.routingDirectory := by
  have hmissing : ((referencedRoutingKeys registry.ownershipMap).filter fun key =>
        (registry.routingDirectory.get? key).isNone).insertionSort (· ≤ ·) = [] ↔
      ∀ key ∈ referencedRoutingKeys registry.ownershipMap,
        (registry.routingDirectory.get? key).isSome := by
    rw [← List.length_eq_zero_iff, List.length_insertionSort, List.length_eq_zero_iff,
      List.filter_eq_nil_iff]
    simp [Option.isSome_iff_ne_none]
  simp only [validateOwnershipMatrix, Except.bind_eq_ok, rejectDuplicateOwner_eq_ok, rejectIf_eq_ok,
    List.not_mem_nil, not_false_eq_true, implies_true, and_true, exists_and_left, exists_const,
    not_and, not_not, ne_eq, hmissing]
  constructor
  · rintro ⟨hgroups, htopics, hstreams, hroutable⟩
    exact ⟨⟨hgroups, htopics, hstreams⟩, hroutable⟩
  · rintro ⟨⟨hgroups, htopics, hstreams⟩, hroutable⟩
    exact ⟨hgroups, htopics, hstreams, hroutable⟩

/-- What is known of a registry that was loaded from a mapping: the canonical streams, and
what the other parts are made of. -/
structure LoadedFrom [Platform] [Builtins] (sourcePath : String) (raw : Entries)
    (rules : TopologyRegistryLoaderRulesV1) (defaultEnv defaultClusterId : String)
    (streams : List CanonicalStream) (registry : CanonicalTopologyRegistry)
    (version : RegistryVersion) : Prop where
  /-- the version of the document -/
  detected : detectRegistryVersion raw = .ok version
  /-- it is one that is loaded -/
  supported : version.value ∈ rules.supportedRegistryVersions
  /-- where the streams come from -/
  canonical : ∃ streamsRaw, get raw "streams" = .list streamsRaw ∧
    canonicalizeStreams sourcePath raw streamsRaw version.value defaultEnv defaultClusterId =
      .ok streams
  /-- they are accepted -/
  admissible : Admissible rules streams
  /-- and sorted -/
  sorted : registry.streams = streams.insertionSort fun a b => a.streamId ≤ b.streamId
  /-- every stream under its id -/
  byId : registry.streamsById.entries = streams.map fun s => (s.streamId, s)
  /-- every scope with its topics -/
  topics : Indexed (instancesOf streams) registry.topicIndexByScope
  /-- the routing directory -/
  directory : canonicalizeRoutingDirectory sourcePath raw = .ok registry.routingDirectory
  /-- the owners -/
  owners : canonicalizeOwnershipMap sourcePath raw = .ok registry.ownershipMap
  /-- each name has one owner -/
  unique : UniquelyOwned registry.ownershipMap
  /-- that can be routed to -/
  routable : Routable rules registry.ownershipMap registry.routingDirectory

section Loading

variable [Platform] [Builtins] {sourcePath : String} {rules : TopologyRegistryLoaderRulesV1}
  {defaultEnv defaultClusterId : String} {registry : CanonicalTopologyRegistry}
  {version : RegistryVersion}

omit [Platform] [Builtins] in
theorem indexed_sortEntries {is : List CanonicalStreamInstance} {d : Dict ScopeKey TopicIndex} :
    Indexed is (sortEntries ScopeKey.le d) ↔ Indexed is d := by
  have hget : ∀ scope, (sortEntries ScopeKey.le d).get? scope = d.get? scope :=
    Dict.get?_eq_of_perm (List.perm_insertionSort _ _)
  exact forall_congr' fun scope => by rw [hget scope]

/-- **What is loaded** comes from a mapping, as `LoadedFrom` says. -/
theorem loadedFrom_of_loadTopologyRegistry {loaded : PyValue}
    (h : loadTopologyRegistry sourcePath loaded rules defaultEnv defaultClusterId =
      .ok (registry, version)) :
    ∃ raw streams, loaded = .dict raw ∧
      LoadedFrom sourcePath raw rules defaultEnv defaultClusterId streams registry version := by
  cases loaded with
  | dict raw =>
    obtain ⟨inputVersion, hversion, h⟩ := Except.bind_eq_ok.mp h
    obtain ⟨_, hsupported, h⟩ := Except.bind_eq_ok.mp h
    obtain ⟨registry', hregistry, h⟩ := Except.bind_eq_ok.mp h
    obtain ⟨_, hmatrix, h⟩ := Except.bind_eq_ok.mp h
    obtain ⟨rfl, rfl⟩ := Prod.mk.inj (Except.pure_eq_ok.mp h)
    obtain ⟨hunique, hroutable⟩ := validateOwnershipMatrix_eq_ok.mp hmatrix
    have hsupported : inputVersion.value ∈ rules.supportedRegistryVersions :=
      not_not.mp (rejectIf_eq_ok.mp hsupported)
    unfold canonicalizeRegistry at hregistry
    split at hregistry
    · next streamsRaw hstreamsRaw =>
      obtain ⟨streams, hstreams, hregistry⟩ := Except.bind_eq_ok.mp hregistry
      obtain ⟨assembly, hassembly, hregistry⟩ := Except.bind_eq_ok.mp hregistry
      obtain ⟨directory, hdirectory, hregistry⟩ := Except.bind_eq_ok.mp hregistry
      obtain ⟨owners, howners, hregistry⟩ := Except.bind_eq_ok.mp hregistry
      obtain rfl := Except.pure_eq_ok.mp hregistry
      obtain ⟨hassembled, hadmissible⟩ := addStreams_eq_ok.1 assembly hassembly
      exact ⟨raw, streams, rfl, hversion, hsupported, ⟨streamsRaw, hstreamsRaw, hstreams⟩,
        hadmissible, rfl, hassembled.byId, indexed_sortEntries.mpr hassembled.topics, hdirectory,
        howners, hunique, hroutable⟩
    · cases hregistry
  | scalar _ => cases h
  | list _ => cases h
  | tuple _ => cases h

/-- A mapping is loaded when each of its parts is in order. -/
theorem loadTopologyRegistry_returns {raw : Entries} {streams : List CanonicalStream}
    {streamsRaw : List PyValue} {directory : Dict String RoutingDirectoryEntry}
    {owners : CanonicalOwnershipMap} (hversion : detectRegistryVersion raw = .ok version)
    (hsupported : version.value ∈ rules.supportedRegistryVersions)
    (hstreamsRaw : get raw "streams" = .list streamsRaw)
    (hstreams : canonicalizeStreams sourcePath raw streamsRaw version.value defaultEnv
      defaultClusterId = .ok streams)
    (hadmissible : Admissible rules streams)
    (hdirectory : canonicalizeRoutingDirectory sourcePath raw = .ok directory)
    (howners : canonicalizeOwnershipMap sourcePath raw = .ok owners)
    (hunique : UniquelyOwned owners) (hroutable : Routable rules owners directory) :
    ∃ registry, loadTopologyRegistry sourcePath (.dict raw) rules defaultEnv defaultClusterId =
      .ok (registry, version) := by
  obtain ⟨assembly, hassembly⟩ :=
    (@addStreams_eq_ok sourcePath rules streams).2 hadmissible
  let registry : CanonicalTopologyRegistry :=
    { streams := streams.insertionSort fun a b => a.streamId ≤ b.streamId
      streamsById := assembly.streamsById
      topicIndexByScope := sortEntries ScopeKey.le assembly.topicIndexByScope
      routingDirectory := directory
      ownershipMap := owners }
  have hregistry : canonicalizeRegistry sourcePath raw rules version.value defaultEnv
      defaultClusterId = .ok registry := by
    simp only [canonicalizeRegistry, hstreamsRaw, hstreams, hassembly, hdirectory, howners,
      Except.ok_bind]
    rfl
  have hmatrix : validateOwnershipMatrix sourcePath registry rules = .ok () :=
    validateOwnershipMatrix_eq_ok.mpr ⟨hunique, hroutable⟩
  refine ⟨registry, Except.bind_eq_ok.mpr ⟨version, hversion, Except.bind_eq_ok.mpr
    ⟨(), rejectIf_eq_ok.mpr (not_not.mpr hsupported), ?_⟩⟩⟩
  exact Except.bind_eq_ok.mpr ⟨registry, hregistry, Except.bind_eq_ok.mpr ⟨(), hmatrix, rfl⟩⟩

end Loading

end Registry

end AiopsTriage
