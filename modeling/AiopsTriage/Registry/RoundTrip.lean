import AiopsTriage.Registry.Compat
import AiopsTriage.Registry.Topics

/-!
# The compatibility view and back

The view of a scope is loaded as the streams of the registry that have an instance in the scope,
with that instance only, and as the topic index of the scope (`v0_compat_view_round_trips`). The
order of keys is not kept, so this is up to `PyValue.Same`. Tuples are not kept either, and a
scope is looked up without the blanks around its parts (`v0_compat_view_loses`).
-/

namespace AiopsTriage

namespace Registry

/-! ## Texts of a canonical stream -/

section Texts

theorem trimmed_of_trimmed {s text : String} (h : trimmed s = some text) : Trimmed text := by
  obtain ⟨hblank, rfl⟩ := trimmed_eq_some.mp h
  rw [Trimmed, trimmed_eq_some, PyText.isBlank_strip, PyText.strip_strip]
  exact ⟨hblank, rfl⟩

theorem trimmed_of_textOf {value : PyValue} {text : String} (h : textOf value = some text) :
    Trimmed text := by
  obtain ⟨s, -, hs⟩ := textOf_eq_some.mp h
  exact trimmed_of_trimmed hs

theorem trimmed_of_optionalTextOf {value : PyValue} {text : Option String}
    (h : optionalTextOf value = some text) : ∀ t ∈ text, Trimmed t := by
  unfold optionalTextOf at h
  split at h
  · obtain rfl := Option.some.inj h
    nofun
  · obtain rfl := Option.some.inj h
    exact fun t ht => trimmed_of_trimmed ht
  · cases h

theorem trimmed_of_readsTexts {value : PyValue} {texts : Dict String String}
    (h : ReadsTexts value texts) : ∀ e ∈ texts.entries, Trimmed e.1 ∧ Trimmed e.2 := by
  rcases h with ⟨-, rfl⟩ | ⟨entries, pairs, -, hpairs, rfl⟩
  · nofun
  · intro e he
    have hmem := Dict.mem_of_get?_ofPairs (Dict.get?_eq_some.mpr he)
    obtain ⟨⟨key, v⟩, -, hread⟩ := hpairs.exists_of_mem_right hmem
    cases key with
    | str key =>
      simp only [textEntryOf, Option.bind_eq_bind, Option.bind_eq_some_iff, Option.pure_def,
        Option.some.injEq] at hread
      obtain ⟨k, hk, t, ht, heq⟩ := hread
      obtain ⟨rfl, rfl⟩ := Prod.mk.inj heq
      exact ⟨trimmed_of_trimmed hk, trimmed_of_textOf ht⟩
    | none => cases hread
    | bool _ => cases hread
    | int _ => cases hread
    | float _ => cases hread
    | other _ _ => cases hread

/-- A topic entry whose texts are as the loader leaves them. -/
structure CanonicalTopicEntry.Legible (t : CanonicalTopicEntry) : Prop where
  /-- the role -/
  role : Trimmed t.role
  /-- the system -/
  sourceSystem : ∀ text ∈ t.sourceSystem, Trimmed text

/-- An instance whose texts are as the loader leaves them. -/
structure CanonicalStreamInstance.Legible (inst : CanonicalStreamInstance) : Prop where
  /-- the topics -/
  topics : ∀ e ∈ inst.topics.entries, Trimmed e.1 ∧ Trimmed e.2
  /-- the topic index -/
  topicIndex : ∀ e ∈ inst.topicIndex.entries, e.2.Legible

/-- A stream whose texts are as the loader leaves them. -/
structure CanonicalStream.Legible (s : CanonicalStream) : Prop where
  /-- the id -/
  streamId : Trimmed s.streamId
  /-- the description -/
  description : ∀ text ∈ s.description, Trimmed text
  /-- the tier -/
  criticalityTier : ∀ text ∈ s.criticalityTier, Trimmed text
  /-- the instances -/
  instances : ∀ inst ∈ s.instances, inst.Legible

variable [Platform] {sourcePath : String} {value : PyValue} {s : CanonicalStream}
  {inst : CanonicalStreamInstance}

theorem legible_of_finishStream {streamId : String} {stream : Entries}
    {instances : List CanonicalStreamInstance} (hid : Trimmed streamId)
    (hinstances : ∀ inst ∈ instances, inst.Legible)
    (h : finishStream sourcePath streamId stream instances = .ok s) : s.Legible := by
  obtain ⟨description, hdescription, tier, htier, rfl⟩ := finishStream_iff.mp h
  exact ⟨hid, trimmed_of_optionalTextOf hdescription, trimmed_of_optionalTextOf htier,
    fun inst hinst => hinstances inst ((List.mem_insertionSort _).mp hinst)⟩

theorem legible_of_finishInstance {env clusterId category offendingKey : String}
    {topicIndex : TopicIndex} {fields : Entries} (hindex : ∀ e ∈ topicIndex.entries, e.2.Legible)
    (h : finishInstance sourcePath env clusterId topicIndex category offendingKey fields =
      .ok inst) : inst.Legible := by
  obtain ⟨texts, htexts, rfl⟩ := finishInstance_iff.mp h
  exact ⟨trimmed_of_readsTexts htexts, hindex⟩

theorem legible_of_canonicalizeInstance {streamId : String}
    (h : canonicalizeInstance sourcePath streamId value = .ok inst) : inst.Legible := by
  have hentries : ∀ e ∈ inst.topicIndex.entries, e.2.Legible := by
    obtain ⟨_, _, topics, -, -, -, -, htopics, hindex⟩ := canonicalizeInstance_eq_ok h
    intro e he
    rw [hindex] at he
    obtain ⟨_, -, hread⟩ := htopics.exists_of_mem_right (mem_indexOf he).1
    obtain ⟨_, -, -, -, -, hrole, hsystem⟩ := canonicalizeInstanceTopic_eq_ok.mp hread
    exact ⟨trimmed_of_textOf hrole, trimmed_of_optionalTextOf hsystem⟩
  cases value with
  | dict fields =>
    obtain ⟨env, -, h⟩ := Except.bind_eq_ok.mp h
    obtain ⟨clusterId, -, h⟩ := Except.bind_eq_ok.mp h
    obtain ⟨index, -, h⟩ := Except.bind_eq_ok.mp h
    obtain ⟨-, rfl⟩ := finishInstance_eq_ok h
    exact legible_of_finishInstance hentries h
  | scalar _ => cases h
  | list _ => cases h
  | tuple _ => cases h

theorem legible_of_canonicalizeV1Stream (h : canonicalizeV1Stream sourcePath value = .ok s) :
    s.Legible := by
  cases value with
  | dict stream =>
    obtain ⟨streamId, hid, h⟩ := Except.bind_eq_ok.mp h
    obtain ⟨instances, hinstances, h⟩ := Except.bind_eq_ok.mp h
    refine legible_of_finishStream (trimmed_of_textOf (requireNonEmptyString_eq_ok.mp hid))
      (fun inst hinst => ?_) h
    unfold canonicalizeInstances at hinstances
    split at hinstances
    · obtain ⟨_, -, hread⟩ := (Except.mapM_eq_ok.mp hinstances).exists_of_mem_right hinst
      exact legible_of_canonicalizeInstance hread
    · cases hinstances
  | scalar _ => cases h
  | list _ => cases h
  | tuple _ => cases h

theorem legible_of_canonicalizeV0Stream {topics : List CanonicalTopicEntry}
    {defaultEnv defaultClusterId : String} (htopics : ∀ t ∈ topics, t.Legible)
    (h : canonicalizeV0Stream sourcePath (groupByStream topics) defaultEnv defaultClusterId value =
      .ok s) : s.Legible := by
  cases value with
  | dict stream =>
    obtain ⟨streamId, hid, h⟩ := Except.bind_eq_ok.mp h
    obtain ⟨env, -, h⟩ := Except.bind_eq_ok.mp h
    obtain ⟨clusterId, -, h⟩ := Except.bind_eq_ok.mp h
    obtain ⟨only, honly, h⟩ := Except.bind_eq_ok.mp h
    refine legible_of_finishStream (trimmed_of_textOf (requireNonEmptyString_eq_ok.mp hid))
      (fun inst hinst => ?_) h
    obtain rfl := List.mem_singleton.mp hinst
    refine legible_of_finishInstance (fun e he => ?_) honly
    rw [groupByStream_getD] at he
    exact htopics _ (List.mem_filter.mp (mem_indexOf he).1).1
  | scalar _ => cases h
  | list _ => cases h
  | tuple _ => cases h

/-- **Canonical streams are legible**, in both versions. -/
theorem legible_of_canonicalizeStreams {raw : Entries} {streamsRaw : List PyValue}
    {inputVersion : Int} {defaultEnv defaultClusterId : String} {streams : List CanonicalStream}
    (h : canonicalizeStreams sourcePath raw streamsRaw inputVersion defaultEnv defaultClusterId =
      .ok streams) : ∀ s ∈ streams, s.Legible := by
  intro s hs
  unfold canonicalizeStreams at h
  split at h
  · obtain ⟨_, -, hread⟩ := (Except.mapM_eq_ok.mp h).exists_of_mem_right hs
    exact legible_of_canonicalizeV1Stream hread
  · obtain ⟨_, topics, -, htopics, hstreams, -⟩ := canonicalizeV0Streams_eq_ok.mp h
    obtain ⟨_, -, hread⟩ := hstreams.exists_of_mem_right hs
    refine legible_of_canonicalizeV0Stream (fun t ht => ?_) hread
    obtain ⟨_, -, hread⟩ := htopics.exists_of_mem_right ht
    obtain ⟨_, -, -, -, hrole, hsystem⟩ := canonicalizeV0Topic_eq_ok.mp hread
    exact ⟨trimmed_of_textOf hrole, trimmed_of_optionalTextOf hsystem⟩

end Texts

/-! ## Plain values -/

section PlainValues

variable [Platform]

theorem toPlainItems_eq (items : List PyValue) : toPlainItems items = items.map toPlainValue := by
  induction items with
  | nil => rfl
  | cons item items ih => rw [toPlainItems, ih, List.map_cons]

theorem toPlainEntries_eq (entries : Entries) :
    toPlainEntries entries = entries.map fun e => (e.1, toPlainValue e.2) := by
  induction entries with
  | nil => rfl
  | cons e entries ih => rw [toPlainEntries, ih, List.map_cons]

/-- Entries with texts for keys, none twice, are the entries of a dictionary. -/
theorem textEntries_textKeys {entries : Entries} (hkeys : ∀ e ∈ entries, ∃ key, e.1 = .str key)
    (hnodup : (entries.map Prod.fst).Nodup) : textEntries (textKeys entries) = entries := by
  have htext : ∀ e ∈ entries, PyScalar.str (scalarText e.1) = e.1 := by
    intro e he
    obtain ⟨key, hkey⟩ := hkeys e he
    rw [hkey]
    rfl
  have hpairs : ((entries.map fun e => (scalarText e.1, e.2)).map Prod.fst).Nodup := by
    rw [List.map_map]
    refine nodup_map_of_nodup_map hnodup fun x hx y hy hxy => ?_
    rw [← htext x hx, ← htext y hy]
    exact congrArg PyScalar.str hxy
  have hentries : (textKeys entries).entries = entries.map fun e => (scalarText e.1, e.2) := by
    rw [textKeys, Dict.ofPairs, Dict.entries_foldl_set hpairs]
    rfl
  rw [textEntries, hentries, List.map_map]
  refine (List.map_congr_left fun e he => ?_).trans (List.map_id entries)
  exact Prod.ext (htext e he) rfl

/-- A plain dictionary keeps its entries, with plain values and sorted. -/
theorem toPlainValue_dict {entries : Entries} (hkeys : ∀ e ∈ entries, ∃ key, e.1 = .str key)
    (hnodup : (entries.map Prod.fst).Nodup) :
    toPlainValue (.dict entries) =
      .dict (sortByText (entries.map fun e => (e.1, toPlainValue e.2))) := by
  have hperm : (sortByText (entries.map fun e => (e.1, toPlainValue e.2))).Perm
      (entries.map fun e => (e.1, toPlainValue e.2)) := List.perm_insertionSort _ _
  rw [toPlainValue, toPlainEntries_eq, textEntries_textKeys]
  · intro e he
    obtain ⟨e', he', rfl⟩ := List.mem_map.mp (hperm.mem_iff.mp he)
    exact hkeys e' he'
  · refine ((hperm.map Prod.fst).nodup_iff).mpr ?_
    rw [List.map_map]
    exact hnodup

/-- **A plain value stays the same**, and plain. -/
theorem plain_toPlainValue {v : PyValue} (h : v.Plain) :
    (toPlainValue v).Plain ∧ v.Same (toPlainValue v) := by
  induction h with
  | scalar x => exact ⟨.scalar x, .scalar x⟩
  | @list items _ ih =>
    rw [toPlainValue, toPlainItems_eq]
    refine ⟨.list fun w hw => ?_, PyValue.same_list_map fun v hv => (ih v hv).2⟩
    obtain ⟨v, hv, rfl⟩ := List.mem_map.mp hw
    exact (ih v hv).1
  | @dict entries keys nodup _ ih =>
    rw [toPlainValue_dict keys nodup]
    have hperm : (sortByText (entries.map fun e => (e.1, toPlainValue e.2))).Perm
        (entries.map fun e => (e.1, toPlainValue e.2)) := List.perm_insertionSort _ _
    refine ⟨.dict (fun e he => ?_) ?_ fun e he => ?_,
      PyValue.same_dict_of_perm nodup (fun e he => (ih e he).2) hperm⟩
    · obtain ⟨e', he', rfl⟩ := List.mem_map.mp (hperm.mem_iff.mp he)
      exact keys e' he'
    · refine ((hperm.map Prod.fst).nodup_iff).mpr ?_
      rw [List.map_map]
      exact nodup
    · obtain ⟨e', he', rfl⟩ := List.mem_map.mp (hperm.mem_iff.mp he)
      exact (ih e' he').1

omit [Platform] in
theorem get?_sortEntries {κ ν : Type} [DecidableEq κ] {r : κ → κ → Prop} [DecidableRel r]
    {d : Dict κ ν} {k : κ} : (sortEntries r d).get? k = d.get? k :=
  Dict.get?_eq_of_perm (List.perm_insertionSort _ _) k

/-- A mapping with plain values. -/
def PlainMapping (d : Dict String PyValue) : Prop := ∀ e ∈ d.entries, e.2.Plain

instance : DecidablePred PlainMapping := fun d =>
  inferInstanceAs (Decidable (∀ e ∈ d.entries, e.2.Plain))

/-- Mappings that are equal but for the order of keys. -/
abbrev SameMapping : Dict String PyValue → Dict String PyValue → Prop := Dict.Rel PyValue.Same

/-- A plain mapping stays the same, and plain. -/
theorem plain_toSortedPlainMapping {d : Dict String PyValue} (h : PlainMapping d) :
    PlainMapping (toSortedPlainMapping d) ∧ SameMapping d (toSortedPlainMapping d) := by
  have hsorted : PlainMapping (sortEntries (· ≤ ·) d) := fun e he =>
    h e ((List.mem_insertionSort _).mp he)
  constructor
  · intro e he
    obtain ⟨e', he', rfl⟩ := List.mem_map.mp he
    exact (plain_toPlainValue (hsorted e' he')).1
  · intro k
    rw [← get?_sortEntries (r := (· ≤ ·)) (d := d)]
    exact Dict.rel_mapValues (fun e he => (plain_toPlainValue (hsorted e he)).2) k

/-- The view sorts a mapping, and rendering it sorts it again. -/
theorem same_toSortedPlainMapping_twice {d : Dict String PyValue} (h : PlainMapping d) :
    SameMapping d (toSortedPlainMapping (toSortedPlainMapping d)) := by
  obtain ⟨hplain, hsame⟩ := plain_toSortedPlainMapping h
  exact hsame.trans (fun _ _ _ => .trans) (plain_toSortedPlainMapping hplain).2

end PlainValues

/-! ## The streams of a scope -/

/-- Instances that are equal but for the order of keys. -/
structure SameInstance (a b : CanonicalStreamInstance) : Prop where
  /-- the scope -/
  scope : a.scope = b.scope
  /-- the topic index -/
  topicIndex : Dict.Rel (· = ·) a.topicIndex b.topicIndex
  /-- the topics -/
  topics : Dict.Rel (· = ·) a.topics b.topics
  /-- the components -/
  sharedComponents : SameMapping a.sharedComponents b.sharedComponents
  /-- the sources, in order -/
  sources : List.Forall₂ SameMapping a.sources b.sources
  /-- the sinks, in order -/
  sinks : List.Forall₂ SameMapping a.sinks b.sinks
  /-- the peaks -/
  peakWindowPolicy : Option.Rel SameMapping a.peakWindowPolicy b.peakWindowPolicy

/-- Streams that are equal but for the order of keys. -/
structure SameStream (a b : CanonicalStream) : Prop where
  /-- the id -/
  streamId : a.streamId = b.streamId
  /-- the description -/
  description : a.description = b.description
  /-- the tier -/
  criticalityTier : a.criticalityTier = b.criticalityTier
  /-- the owners -/
  owners : SameMapping a.owners b.owners
  /-- the instances -/
  instances : List.Forall₂ SameInstance a.instances b.instances

/-- A stream with its instances in a scope, if it has any. -/
def restrictTo (scope : ScopeKey) (s : CanonicalStream) : Option CanonicalStream :=
  if ∃ inst ∈ s.instances, inst.scope = scope then
    some { s with instances := s.instances.filter fun inst => inst.scope = scope }
  else none

/-- The streams that have an instance in a scope, with their instances in the scope only. -/
def scopedStreams (registry : CanonicalTopologyRegistry) (scope : ScopeKey) :
    List CanonicalStream :=
  registry.streams.filterMap (restrictTo scope)

/-- An instance with plain metadata. -/
@[mk_iff] structure PlainInstance (inst : CanonicalStreamInstance) : Prop where
  /-- the components -/
  sharedComponents : PlainMapping inst.sharedComponents
  /-- the sources -/
  sources : ∀ source ∈ inst.sources, PlainMapping source
  /-- the sinks -/
  sinks : ∀ sink ∈ inst.sinks, PlainMapping sink
  /-- the peaks -/
  peakWindowPolicy : ∀ policy ∈ inst.peakWindowPolicy, PlainMapping policy

/-- A stream with plain metadata. -/
@[mk_iff] structure PlainStream (s : CanonicalStream) : Prop where
  /-- the owners -/
  owners : PlainMapping s.owners
  /-- the instances -/
  instances : ∀ inst ∈ s.instances, PlainInstance inst

instance : DecidablePred PlainInstance := fun inst =>
  decidable_of_iff _ (plainInstance_iff inst).symm

instance : DecidablePred PlainStream := fun s => decidable_of_iff _ (plainStream_iff s).symm

section Scoped

variable [Platform] {scope : ScopeKey} {s : CanonicalStream} {inst : CanonicalStreamInstance}

omit [Platform] in
theorem mem_of_findStreamInstanceForScope (h : findStreamInstanceForScope s scope = some inst) :
    inst ∈ s.instances ∧ inst.scope = scope := by
  have hscope := List.find?_some
    (p := fun i : CanonicalStreamInstance => decide (i.scope = scope)) h
  exact ⟨List.mem_of_find?_eq_some h, of_decide_eq_true hscope⟩

omit [Platform] in
/-- The instance that is found is the only one in the scope. -/
theorem filter_scope_eq (hscopes : (s.instances.map CanonicalStreamInstance.scope).Nodup)
    (h : findStreamInstanceForScope s scope = some inst) :
    s.instances.filter (fun inst => inst.scope = scope) = [inst] := by
  obtain ⟨hinst, hscope⟩ := mem_of_findStreamInstanceForScope h
  refine List.perm_singleton.mp ?_
  refine (List.perm_ext_iff_of_nodup ?_ (List.nodup_singleton inst)).mpr fun other => ?_
  · exact (List.Nodup.of_map _ hscopes).filter _
  · rw [List.mem_filter, decide_eq_true_eq, List.mem_singleton]
    constructor
    · rintro ⟨hother, hsame⟩
      exact List.inj_on_of_nodup_map hscopes hother hinst (hsame.trans hscope.symm)
    · rintro rfl
      exact ⟨hinst, hscope⟩

omit [Platform] in
theorem restrictTo_of_find (hscopes : (s.instances.map CanonicalStreamInstance.scope).Nodup)
    (h : findStreamInstanceForScope s scope = some inst) :
    restrictTo scope s = some { s with instances := [inst] } := by
  rw [restrictTo, if_pos, filter_scope_eq hscopes h]
  exact ⟨inst, mem_of_findStreamInstanceForScope h⟩

omit [Platform] in
theorem restrictTo_of_find_none (h : findStreamInstanceForScope s scope = none) :
    restrictTo scope s = none := by
  refine if_neg ?_
  rintro ⟨inst, hinst, hscope⟩
  exact List.find?_eq_none.mp h inst hinst (decide_eq_true hscope)

/-- What the view of an instance is read as, with a topic index of its own. -/
theorem same_reread {topicIndex : TopicIndex} (hplain : PlainStream { s with instances := [inst] })
    (hscope : inst.scope = scope) (hindex : Dict.Rel (· = ·) inst.topicIndex topicIndex) :
    SameStream { s with instances := [inst] }
      ((compatStream scope.1 s inst).reread scope.2 topicIndex) where
  streamId := rfl
  description := rfl
  criticalityTier := rfl
  owners := same_toSortedPlainMapping_twice hplain.owners
  instances := by
    obtain ⟨hshared, hsources, hsinks, hpeak⟩ :=
      hplain.instances inst (List.mem_singleton_self inst)
    have hlist : ∀ ds : List (Dict String PyValue), (∀ d ∈ ds, PlainMapping d) →
        List.Forall₂ SameMapping ds ((ds.map toSortedPlainMapping).map toSortedPlainMapping) := by
      intro ds hds
      rw [List.map_map, List.forall₂_map_right_iff, List.forall₂_same]
      exact fun d hd => same_toSortedPlainMapping_twice (hds d hd)
    refine .cons ⟨hscope, hindex, ?_, same_toSortedPlainMapping_twice hshared, hlist _ hsources,
      hlist _ hsinks, ?_⟩ .nil
    · exact Dict.rel_eq_iff.mpr fun k => (get?_sortEntries.trans get?_sortEntries).symm
    · cases hpolicy : inst.peakWindowPolicy with
      | none =>
        simp only [compatStream, hpolicy, Option.map_none]
        exact .none
      | some policy =>
        simp only [compatStream, hpolicy, Option.map_some]
        exact .some (same_toSortedPlainMapping_twice (hpeak policy hpolicy))

end Scoped

/-! ## Loading the view -/

section Reloading

variable [Platform] {sourcePath : String} {raw : Entries}
  {rules : TopologyRegistryLoaderRulesV1} {defaultEnv defaultClusterId : String}
  {streams : List CanonicalStream} {registry : CanonicalTopologyRegistry}
  {version : RegistryVersion} {scope : ScopeKey}

/-- The topic index of a scope. -/
def scopeIndex (registry : CanonicalTopologyRegistry) (scope : ScopeKey) : TopicIndex :=
  sortEntries (· ≤ ·) ((registry.topicIndexByScope.get? scope).getD .empty)

/-- The topics of a stream in a scope. -/
def scopeIndexOf (registry : CanonicalTopologyRegistry) (scope : ScopeKey) (streamId : String) :
    TopicIndex :=
  (scopeIndex registry scope).filterEntries fun _ t => t.streamId = streamId

/-- The views of the streams with an instance in the scope. -/
def compatStreams (registry : CanonicalTopologyRegistry) (scope : ScopeKey) : List V0CompatStream :=
  registry.streams.filterMap fun s =>
    (findStreamInstanceForScope s scope).map (compatStream scope.1 s)

/-- What the view of a scope is read as. -/
def rereadStreams (registry : CanonicalTopologyRegistry) (scope : ScopeKey) :
    List CanonicalStream :=
  (compatStreams registry scope).map fun v =>
    v.reread scope.2 (scopeIndexOf registry scope v.streamId)

theorem mem_compatStreams {v : V0CompatStream} : v ∈ compatStreams registry scope ↔
    ∃ s ∈ registry.streams, ∃ inst, findStreamInstanceForScope s scope = some inst ∧
      compatStream scope.1 s inst = v := by
  simp only [compatStreams, List.mem_filterMap, Option.map_eq_some_iff]

/-- The ids of the views are ids of streams, in their order. -/
theorem streamIds_sublist : ((compatStreams registry scope).map V0CompatStream.streamId).Sublist
    (registry.streams.map CanonicalStream.streamId) := by
  have hids : (compatStreams registry scope).map V0CompatStream.streamId =
      (registry.streams.filter fun s => (findStreamInstanceForScope s scope).isSome).map
        CanonicalStream.streamId := by
    rw [compatStreams]
    induction registry.streams with
    | nil => rfl
    | cons s rest ih =>
      cases hfind : findStreamInstanceForScope s scope with
      | none => simp [hfind, ih]
      | some inst => simp [hfind, ih, compatStream]
  rw [hids]
  exact List.filter_sublist.map _

theorem rereadStreams_ids : (rereadStreams registry scope).map CanonicalStream.streamId =
    (compatStreams registry scope).map V0CompatStream.streamId := by
  rw [rereadStreams, List.map_map]
  rfl

/-- The instances that are read are all in the scope. -/
theorem instancesOf_rereadStreams {inst : CanonicalStreamInstance}
    (h : inst ∈ instancesOf (rereadStreams registry scope)) :
    ∃ v ∈ compatStreams registry scope, inst.env = v.env ∧ inst.clusterId = scope.2 ∧
      inst.topicIndex = scopeIndexOf registry scope v.streamId := by
  obtain ⟨s, hs, hinst⟩ := List.mem_flatMap.mp h
  obtain ⟨v, hv, rfl⟩ := List.mem_map.mp hs
  obtain rfl := List.mem_singleton.mp hinst
  exact ⟨v, hv, rfl, rfl, rfl⟩

theorem scope_of_mem_instancesOf_rereadStreams {inst : CanonicalStreamInstance}
    (h : inst ∈ instancesOf (rereadStreams registry scope)) : inst.scope = scope := by
  obtain ⟨v, hv, henv, hcluster, -⟩ := instancesOf_rereadStreams h
  obtain ⟨s, -, inst', -, rfl⟩ := mem_compatStreams.mp hv
  exact Prod.ext henv hcluster

omit [Platform] in
theorem get?_scopeIndex {topic : String} : (scopeIndex registry scope).get? topic =
    ((registry.topicIndexByScope.get? scope).getD .empty).get? topic := get?_sortEntries

/-- The topics that are read in the scope are those of its index that name a stream in the
scope. -/
theorem mem_topicsOf_rereadStreams {e : String × CanonicalTopicEntry} :
    e ∈ topicsOf (instancesOf (rereadStreams registry scope)) scope ↔
      e ∈ (scopeIndex registry scope).entries ∧
        e.2.streamId ∈ (compatStreams registry scope).map V0CompatStream.streamId := by
  rw [mem_topicsOf]
  constructor
  · rintro ⟨inst, hinst, -, he⟩
    obtain ⟨v, hv, -, -, hindex⟩ := instancesOf_rereadStreams hinst
    rw [hindex] at he
    obtain ⟨he, hid⟩ := List.mem_filter.mp he
    exact ⟨he, List.mem_map.mpr ⟨v, hv, (of_decide_eq_true hid).symm⟩⟩
  · rintro ⟨he, hid⟩
    obtain ⟨v, hv, hid⟩ := List.mem_map.mp hid
    have hs : v.reread scope.2 (scopeIndexOf registry scope v.streamId) ∈
        rereadStreams registry scope := List.mem_map_of_mem hv
    have hmem : ∀ inst ∈ (v.reread scope.2 (scopeIndexOf registry scope v.streamId)).instances,
        inst ∈ instancesOf (rereadStreams registry scope) := fun inst hinst =>
      List.mem_flatMap.mpr ⟨_, hs, hinst⟩
    have hinst := hmem _ (List.mem_singleton_self _)
    exact ⟨_, hinst, scope_of_mem_instancesOf_rereadStreams hinst,
      List.mem_filter.mpr ⟨he, decide_eq_true hid.symm⟩⟩

/-- No topic is read twice. -/
theorem nodup_topicsOf_rereadStreams
    (hids : ((compatStreams registry scope).map V0CompatStream.streamId).Nodup) :
    ((topicsOf (instancesOf (rereadStreams registry scope)) scope).map Prod.fst).Nodup := by
  have hall : topicsOf (instancesOf (rereadStreams registry scope)) scope =
      (compatStreams registry scope).flatMap fun v =>
        (scopeIndexOf registry scope v.streamId).entries := by
    rw [topicsOf, List.filter_eq_self.mpr fun inst hinst =>
      decide_eq_true (scope_of_mem_instancesOf_rereadStreams hinst), instancesOf, rereadStreams,
      List.flatMap_map, List.flatMap_assoc]
    simp only [V0CompatStream.reread, CanonicalStream.build, List.insertionSort_cons,
      List.insertionSort_nil, List.orderedInsert_nil, List.flatMap_singleton]
  have hkeys := (scopeIndex registry scope).nodup
  refine List.Nodup.map_on (fun x hx y hy hxy => ?_) ?_
  · exact List.inj_on_of_nodup_map hkeys (mem_topicsOf_rereadStreams.mp hx).1
      (mem_topicsOf_rereadStreams.mp hy).1 hxy
  · rw [hall, List.nodup_flatMap]
    refine ⟨fun v _ => (List.Nodup.of_map _ hkeys).filter _, ?_⟩
    refine (List.pairwise_map.mp hids).imp fun {v w} hne => ?_
    intro e hv hw
    exact hne ((of_decide_eq_true (List.mem_filter.mp hv).2).symm.trans
      (of_decide_eq_true (List.mem_filter.mp hw).2))

variable [Builtins]

/-- A topic of the scope names a stream with an instance in the scope, stands under its own name,
has texts as the loader leaves them, and a role that the rules allow. -/
theorem LoadedFrom.scopeIndex_entry
    (h : LoadedFrom sourcePath raw rules defaultEnv defaultClusterId streams registry version)
    {e : String × CanonicalTopicEntry} (he : e ∈ (scopeIndex registry scope).entries) :
    e.2.topic = e.1 ∧ e.2.Legible ∧ RoleAllowed rules e.2 ∧
      ∃ s ∈ streams, s.streamId = e.2.streamId ∧ ∃ inst ∈ s.instances, inst.scope = scope ∧
        e ∈ inst.topicIndex.entries := by
  have htopic : e ∈ topicsOf (instancesOf streams) scope := by
    rw [← h.topics.entries scope]
    exact (List.mem_insertionSort _).mp he
  obtain ⟨inst, hinst, hscope, he⟩ := mem_topicsOf.mp htopic
  obtain ⟨s, hs, hmem⟩ := List.mem_flatMap.mp hinst
  obtain ⟨hid, hname⟩ := h.ownTopics s hs inst hmem e he
  obtain ⟨_, -, hstreams⟩ := h.canonical
  have hlegible := legible_of_canonicalizeStreams hstreams s hs
  exact ⟨hname, (hlegible.instances inst hmem).topicIndex e he,
    h.admissible.fit.roles inst hinst e he, s, hs, hid.symm, inst, hmem, hscope, he⟩

theorem LoadedFrom.mem_streams
    (h : LoadedFrom sourcePath raw rules defaultEnv defaultClusterId streams registry version)
    {s : CanonicalStream} : s ∈ registry.streams ↔ s ∈ streams := by
  rw [h.sorted, List.mem_insertionSort]

/-- The views have distinct ids. -/
theorem LoadedFrom.nodup_compatStreams
    (h : LoadedFrom sourcePath raw rules defaultEnv defaultClusterId streams registry version) :
    ((compatStreams registry scope).map V0CompatStream.streamId).Nodup := by
  refine List.Nodup.sublist streamIds_sublist ?_
  rw [h.sorted]
  exact ((List.perm_insertionSort _ streams).map _).nodup_iff.mpr h.admissible.ids

/-- The stream that a topic of the scope names has a view. -/
theorem LoadedFrom.named_compatStream
    (h : LoadedFrom sourcePath raw rules defaultEnv defaultClusterId streams registry version)
    {e : String × CanonicalTopicEntry} (he : e ∈ (scopeIndex registry scope).entries) :
    e.2.streamId ∈ (compatStreams registry scope).map V0CompatStream.streamId := by
  obtain ⟨-, -, -, s, hs, hid, inst, hinst, hscope, -⟩ := h.scopeIndex_entry he
  have hfound : (findStreamInstanceForScope s scope).isSome :=
    List.find?_isSome.mpr ⟨inst, hinst, decide_eq_true hscope⟩
  obtain ⟨found, hfound⟩ := Option.isSome_iff_exists.mp hfound
  exact List.mem_map.mpr ⟨compatStream scope.1 s found,
    mem_compatStreams.mpr ⟨s, h.mem_streams.mpr hs, found, hfound, rfl⟩, hid⟩

/-- **What is read is admissible.** -/
theorem LoadedFrom.admissible_rereadStreams
    (h : LoadedFrom sourcePath raw rules defaultEnv defaultClusterId streams registry version) :
    Admissible rules (rereadStreams registry scope) where
  ids := by
    rw [rereadStreams_ids]
    exact h.nodup_compatStreams
  scopes := by
    intro s hs
    obtain ⟨v, -, rfl⟩ := List.mem_map.mp hs
    exact List.nodup_singleton _
  fit := by
    refine ⟨fun scope' => ?_, fun inst hinst e he => ?_⟩
    · by_cases hscope : scope = scope'
      · subst hscope
        exact nodup_topicsOf_rereadStreams h.nodup_compatStreams
      · rw [topicsOf_of_notMem]
        · exact List.nodup_nil
        · intro hmem
          obtain ⟨inst, hinst, heq⟩ := List.mem_map.mp hmem
          exact hscope ((scope_of_mem_instancesOf_rereadStreams hinst).symm.trans heq)
    · obtain ⟨v, -, -, -, hindex⟩ := instancesOf_rereadStreams hinst
      rw [hindex] at he
      exact (h.scopeIndex_entry (List.mem_filter.mp he).1).2.2.1

/-! ### The rendered view -/

/-- The view of a scope. -/
def compatView (registry : CanonicalTopologyRegistry) (scope : ScopeKey) : V0CompatView :=
  .build (compatStreams registry scope) ((scopeIndex registry scope).mapValues fun _ => compatTopic)

omit [Builtins] in
theorem buildV0CompatView_eq_ok {env clusterId : String} (henv : Trimmed env)
    (hcluster : Trimmed clusterId) (hne : compatStreams registry (env, clusterId) ≠ []) :
    buildV0CompatView sourcePath registry (.str env) (.str clusterId) =
      .ok (compatView registry (env, clusterId)) := by
  have hsome : (compatStreams registry (env, clusterId)).isEmpty = false := by
    rw [Bool.eq_false_iff, ne_eq, List.isEmpty_iff]
    exact hne
  unfold compatStreams at hsome
  simp only [buildV0CompatView, normalizeScopeComponent, show trimmed env = some env from henv,
    show trimmed clusterId = some clusterId from hcluster, Except.ok_bind, hsome,
    Bool.false_eq_true, if_false]
  rfl

omit [Builtins] in
/-- The streams of the view come sorted from the registry. -/
theorem compatView_streams
    (hsorted : registry.streams.Pairwise fun a b => a.streamId ≤ b.streamId) :
    (compatView registry scope).streams = compatStreams registry scope := by
  refine List.sortByKey_eq_self (List.pairwise_map.mp ?_)
  exact (List.pairwise_map.mpr hsorted).sublist streamIds_sublist

omit [Platform] [Builtins] in
theorem pairwise_scopeIndex :
    (scopeIndex registry scope).entries.Pairwise fun a b => a.1 ≤ b.1 :=
  List.pairwise_sortByKey Prod.fst _

/-- The topics of the view as a document has them. -/
def legacyTopicIndex (registry : CanonicalTopologyRegistry) (scope : ScopeKey) : Entries :=
  (scopeIndex registry scope).entries.map fun e => (.str e.1, .dict (compatTopic e.2).toLegacyDict)

omit [Builtins] in
theorem getOr_toLegacyDict_topicIndex {dflt : PyValue} :
    getOr (compatView registry scope).toLegacyDict "topic_index" dflt =
      .dict (legacyTopicIndex registry scope) := by
  have hsorted : (compatView registry scope).topicIndex =
      (scopeIndex registry scope).mapValues fun _ => compatTopic := by
    refine Dict.ext_entries (List.sortByKey_eq_self (List.pairwise_map.mpr ?_))
    exact pairwise_scopeIndex
  simp only [V0CompatView.toLegacyDict, getOr_cons, hsorted, Dict.mapValues, List.map_map]
  rfl

omit [Builtins] in
theorem sortByText_legacyTopicIndex :
    sortByText (legacyTopicIndex registry scope) = legacyTopicIndex registry scope :=
  List.sortByKey_eq_self (List.pairwise_map.mpr pairwise_scopeIndex)

omit [Platform] [Builtins] in
/-- The topics that name a stream are those of the stream in the scope. -/
theorem indexOf_filter_scopeIndex {streamId : String}
    (hname : ∀ e ∈ (scopeIndex registry scope).entries, e.2.topic = e.1) :
    indexOf (((scopeIndex registry scope).entries.map Prod.snd).filter fun t =>
      t.streamId = streamId) = scopeIndexOf registry scope streamId := by
  rw [indexOf_eq_ofPairs, List.filter_map, List.map_map]
  refine Eq.trans (congrArg Dict.ofPairs ?_) (Dict.ofPairs_entries _)
  refine (List.map_congr_left fun e he => ?_).trans (List.map_id _)
  exact Prod.ext (hname e (List.mem_filter.mp he).1) rfl

/-- The views are legible. -/
theorem LoadedFrom.legible_compatStreams
    (h : LoadedFrom sourcePath raw rules defaultEnv defaultClusterId streams registry version)
    (henv : Trimmed scope.1) : ∀ v ∈ compatStreams registry scope, v.Legible := by
  intro v hv
  obtain ⟨s, hs, inst, hinst, rfl⟩ := mem_compatStreams.mp hv
  obtain ⟨_, -, hstreams⟩ := h.canonical
  obtain ⟨hid, hdescription, htier, hinstances⟩ :=
    legible_of_canonicalizeStreams hstreams s (h.mem_streams.mp hs)
  have hlegible := hinstances inst (mem_of_findStreamInstanceForScope hinst).1
  exact ⟨hid, henv, hdescription, htier, fun e he =>
    hlegible.topics e ((List.mem_insertionSort _).mp he)⟩

/-- **The rendered view is read** as the streams of the scope. -/
theorem LoadedFrom.canonicalizeV0Streams_compatView
    (h : LoadedFrom sourcePath raw rules defaultEnv defaultClusterId streams registry version)
    (henv : Trimmed scope.1) (path : String) :
    canonicalizeV0Streams path (compatView registry scope).toLegacyDict
        ((compatStreams registry scope).map fun v => .dict v.toLegacyDict) scope.1 scope.2 =
      .ok (rereadStreams registry scope) := by
  refine canonicalizeV0Streams_eq_ok.mpr ⟨legacyTopicIndex registry scope,
    (scopeIndex registry scope).entries.map Prod.snd, getOr_toLegacyDict_topicIndex, ?_, ?_, ?_⟩
  · rw [sortByText_legacyTopicIndex, legacyTopicIndex, List.forall₂_map_left_iff,
      List.forall₂_map_right_iff, List.forall₂_same]
    intro e he
    obtain ⟨hname, hlegible, -, s, hs, hid, -⟩ := h.scopeIndex_entry he
    obtain ⟨_, -, hstreams⟩ := h.canonical
    have hstream := legible_of_canonicalizeStreams hstreams s hs
    rw [← hname]
    exact canonicalizeV0Topic_toLegacyDict (hid ▸ hstream.streamId) hlegible.role
      hlegible.sourceSystem
  · rw [rereadStreams, List.forall₂_map_left_iff, List.forall₂_map_right_iff, List.forall₂_same]
    intro v hv
    rw [canonicalizeV0Stream_toLegacyDict (h.legible_compatStreams henv v hv), groupByStream_getD,
      indexOf_filter_scopeIndex fun e he => (h.scopeIndex_entry he).1]
  · intro t ht
    obtain ⟨e, he, rfl⟩ := List.mem_map.mp ht
    rw [rereadStreams_ids]
    exact h.named_compatStream he

/-- **The rendered view is loaded** with the streams of the scope. -/
theorem LoadedFrom.load_compatView
    (h : LoadedFrom sourcePath raw rules defaultEnv defaultClusterId streams registry version)
    (henv : Trimmed scope.1) (hone : 1 ∈ rules.supportedRegistryVersions) (path : String) :
    ∃ reloaded version', loadTopologyRegistry path (.dict (compatView registry scope).toLegacyDict)
        rules scope.1 scope.2 = .ok (reloaded, version') ∧
      LoadedFrom path (compatView registry scope).toLegacyDict rules scope.1 scope.2
        (rereadStreams registry scope) reloaded version' := by
  have hsorted : registry.streams.Pairwise fun a b => a.streamId ≤ b.streamId := by
    rw [h.sorted]
    exact List.pairwise_sortByKey CanonicalStream.streamId streams
  have hversion : detectRegistryVersion (compatView registry scope).toLegacyDict =
      .ok ⟨1, toString 1⟩ := rfl
  have hstreamsRaw : get (compatView registry scope).toLegacyDict "streams" =
      .list ((compatStreams registry scope).map fun v => .dict v.toLegacyDict) := by
    rw [← compatView_streams hsorted]
    rfl
  have hstreams : canonicalizeStreams path (compatView registry scope).toLegacyDict
      ((compatStreams registry scope).map fun v => .dict v.toLegacyDict) 1 scope.1 scope.2 =
        .ok (rereadStreams registry scope) := by
    rw [canonicalizeStreams, if_neg (by decide)]
    exact h.canonicalizeV0Streams_compatView henv path
  have hdirectory : canonicalizeRoutingDirectory path (compatView registry scope).toLegacyDict =
      .ok .empty := rfl
  have howners : canonicalizeOwnershipMap path (compatView registry scope).toLegacyDict =
      .ok {} := rfl
  have hroutable : Routable rules {} .empty := by
    intro _ key hkey
    cases (show key ∈ [] from hkey)
  obtain ⟨reloaded, hreloaded⟩ := loadTopologyRegistry_returns hversion hone hstreamsRaw hstreams
    h.admissible_rereadStreams hdirectory howners
    ⟨List.nodup_nil, List.nodup_nil, List.nodup_nil⟩ hroutable
  obtain ⟨raw', streams', heq, hloaded⟩ := loadedFrom_of_loadTopologyRegistry hreloaded
  obtain rfl := PyValue.dict.inj heq
  obtain ⟨streamsRaw', hstreamsRaw', hstreams'⟩ := hloaded.canonical
  rw [hstreamsRaw, PyValue.list.injEq] at hstreamsRaw'
  subst hstreamsRaw'
  obtain rfl := Except.ok.inj (hstreams.symm.trans hstreams')
  exact ⟨reloaded, _, hreloaded, hloaded⟩

/-! ### The same streams and topics -/

/-- The topics of an instance are those of its stream in the scope. -/
theorem LoadedFrom.rel_scopeIndexOf
    (h : LoadedFrom sourcePath raw rules defaultEnv defaultClusterId streams registry version)
    {s : CanonicalStream} (hs : s ∈ streams) {inst : CanonicalStreamInstance}
    (hinst : inst ∈ s.instances) (hscope : inst.scope = scope) :
    Dict.Rel (· = ·) inst.topicIndex (scopeIndexOf registry scope s.streamId) := by
  refine Dict.rel_eq_iff.mpr fun topic => Option.ext fun t => ?_
  rw [scopeIndexOf, Dict.get?_filterEntries, decide_eq_true_eq]
  constructor
  · intro ht
    obtain ⟨index, hindex, hentry⟩ := h.get?_of_instance hs hinst ht
    rw [hscope] at hindex
    refine ⟨?_, (h.ownTopics s hs inst hinst _ (Dict.get?_eq_some.mp ht)).1⟩
    rw [get?_scopeIndex, hindex, Option.getD_some, hentry]
  · rintro ⟨ht, hid⟩
    obtain ⟨-, -, -, s', hs', hid', inst', hinst', hscope', he⟩ :=
      h.scopeIndex_entry (Dict.get?_eq_some.mp ht)
    obtain rfl := List.inj_on_of_nodup_map h.admissible.ids hs' hs (hid'.trans hid)
    obtain rfl := List.inj_on_of_nodup_map (h.admissible.scopes s' hs) hinst' hinst
      (hscope'.trans hscope.symm)
    exact Dict.get?_eq_some.mpr he

/-- **The streams of the scope are read as they are**, but for the order of keys. -/
theorem LoadedFrom.same_rereadStreams
    (h : LoadedFrom sourcePath raw rules defaultEnv defaultClusterId streams registry version)
    (hplain : ∀ s ∈ scopedStreams registry scope, PlainStream s) :
    List.Forall₂ SameStream (scopedStreams registry scope) (rereadStreams registry scope) := by
  have hreread : rereadStreams registry scope = registry.streams.filterMap fun s =>
      (findStreamInstanceForScope s scope).map fun inst =>
        (compatStream scope.1 s inst).reread scope.2 (scopeIndexOf registry scope s.streamId) := by
    rw [rereadStreams, compatStreams, List.map_filterMap]
    simp only [Option.map_map]
    rfl
  have hself : List.Forall₂ (fun s s' => s = s' ∧ s ∈ registry.streams) registry.streams
      registry.streams := List.forall₂_same.mpr fun s hs => ⟨rfl, hs⟩
  rw [hreread, scopedStreams]
  refine List.rel_filterMap (fun s s' hss' => ?_) hself
  obtain ⟨rfl, hs⟩ := hss'
  have hscopes := h.admissible.scopes s (h.mem_streams.mp hs)
  cases hfind : findStreamInstanceForScope s scope with
  | none =>
    rw [restrictTo_of_find_none hfind, Option.map_none]
    exact .none
  | some inst =>
    obtain ⟨hinst, hscope⟩ := mem_of_findStreamInstanceForScope hfind
    have hrestrict := restrictTo_of_find hscopes hfind
    rw [hrestrict, Option.map_some]
    exact .some (same_reread (hplain _ (List.mem_filterMap.mpr ⟨s, hs, hrestrict⟩)) hscope
      (h.rel_scopeIndexOf (h.mem_streams.mp hs) hinst hscope))

/-- What a registry has of the topics: the index of one scope, but for the order of keys. -/
def OnlyScope (registry : CanonicalTopologyRegistry) (scope : ScopeKey)
    (reloaded : CanonicalTopologyRegistry) : Prop :=
  Option.Rel (Dict.Rel (· = ·)) (registry.topicIndexByScope.get? scope)
    (reloaded.topicIndexByScope.get? scope) ∧
  ∀ other, other ≠ scope → reloaded.topicIndexByScope.get? other = none

/-- **The topics of the scope are read as they are**, and no others. -/
theorem LoadedFrom.onlyScope_of_reread
    (h : LoadedFrom sourcePath raw rules defaultEnv defaultClusterId streams registry version)
    {path : String} {raw' : Entries} {env clusterId : String} {version' : RegistryVersion}
    {reloaded : CanonicalTopologyRegistry}
    (hreloaded : LoadedFrom path raw' rules env clusterId (rereadStreams registry scope) reloaded
      version') (hne : compatStreams registry scope ≠ []) : OnlyScope registry scope reloaded := by
  obtain ⟨v, hv⟩ := List.exists_mem_of_ne_nil _ hne
  obtain ⟨s, hs, inst, hfind, -⟩ := mem_compatStreams.mp hv
  obtain ⟨hinst, hscope⟩ := mem_of_findStreamInstanceForScope hfind
  -- both registries have an index for the scope
  have hmem : scope ∈ (instancesOf streams).map CanonicalStreamInstance.scope :=
    List.mem_map.mpr ⟨inst, List.mem_flatMap.mpr ⟨s, h.mem_streams.mp hs, hinst⟩, hscope⟩
  have hmem' : scope ∈
      (instancesOf (rereadStreams registry scope)).map CanonicalStreamInstance.scope := by
    have hstream : v.reread scope.2 (scopeIndexOf registry scope v.streamId) ∈
        rereadStreams registry scope := List.mem_map_of_mem hv
    obtain ⟨only, honly⟩ : ∃ only, only ∈ instancesOf (rereadStreams registry scope) :=
      ⟨_, List.mem_flatMap.mpr ⟨_, hstream, List.mem_cons_self⟩⟩
    exact List.mem_map.mpr ⟨only, honly, scope_of_mem_instancesOf_rereadStreams honly⟩
  have htopics := h.topics scope
  rw [if_pos hmem] at htopics
  obtain ⟨index, hindex, -⟩ := Option.map_eq_some_iff.mp htopics
  have htopics' := hreloaded.topics scope
  rw [if_pos hmem'] at htopics'
  obtain ⟨index', hindex', -⟩ := Option.map_eq_some_iff.mp htopics'
  constructor
  · rw [hindex, hindex']
    refine .some (Dict.rel_eq_iff.mpr fun topic => Option.ext fun t => ?_)
    have hscopeIndex : (topic, t) ∈ (scopeIndex registry scope).entries ↔
        index.get? topic = some t := by
      rw [← Dict.get?_eq_some, get?_scopeIndex, hindex, Option.getD_some]
    rw [hreloaded.topics.get? hindex', mem_topicsOf_rereadStreams, hscopeIndex]
    exact ⟨fun ht => ⟨ht, h.named_compatStream (hscopeIndex.mpr ht)⟩, And.left⟩
  · intro other hother
    have hnone := hreloaded.topics other
    rw [if_neg] at hnone
    · exact Option.map_eq_none_iff.mp hnone
    · intro hmem
      obtain ⟨only, honly, heq⟩ := List.mem_map.mp hmem
      exact hother (heq.symm.trans (scope_of_mem_instancesOf_rereadStreams honly))

/-- The streams that are read are sorted already. -/
theorem LoadedFrom.streams_of_reread
    (h : LoadedFrom sourcePath raw rules defaultEnv defaultClusterId streams registry version)
    {path : String} {raw' : Entries} {env clusterId : String} {version' : RegistryVersion}
    {reloaded : CanonicalTopologyRegistry}
    (hreloaded : LoadedFrom path raw' rules env clusterId (rereadStreams registry scope) reloaded
      version') : reloaded.streams = rereadStreams registry scope := by
  rw [hreloaded.sorted]
  refine List.sortByKey_eq_self (List.pairwise_map.mp ?_)
  rw [rereadStreams_ids]
  refine (List.pairwise_map.mpr ?_).sublist streamIds_sublist
  rw [h.sorted]
  exact List.pairwise_sortByKey CanonicalStream.streamId streams

/-- **The view and back**: for a scope of a loaded registry whose parts are stripped, with plain
metadata, the rendered view is loaded as the streams with an instance in the scope, with that
instance only, and as the topic index of the scope, but for the order of keys. -/
theorem v0_compat_view_round_trips {loaded : PyValue}
    (h : loadTopologyRegistry sourcePath loaded rules defaultEnv defaultClusterId =
      .ok (registry, version))
    (hone : 1 ∈ rules.supportedRegistryVersions) {env clusterId : String}
    (henv : trimmed env = some env) (hcluster : trimmed clusterId = some clusterId)
    (hscope : ∃ s ∈ registry.streams, ∃ inst ∈ s.instances, inst.scope = (env, clusterId))
    (hplain : ∀ s ∈ scopedStreams registry (env, clusterId), PlainStream s) (path : String) :
    ∃ view reloaded version',
      buildV0CompatView sourcePath registry (.str env) (.str clusterId) = .ok view ∧
      loadTopologyRegistry path (.dict view.toLegacyDict) rules env clusterId =
        .ok (reloaded, version') ∧
      List.Forall₂ SameStream (scopedStreams registry (env, clusterId)) reloaded.streams ∧
      OnlyScope registry (env, clusterId) reloaded := by
  obtain ⟨raw, streams, -, hloaded⟩ := loadedFrom_of_loadTopologyRegistry h
  have hne : compatStreams registry (env, clusterId) ≠ [] := by
    obtain ⟨s, hs, inst, hinst, heq⟩ := hscope
    have hfound : (findStreamInstanceForScope s (env, clusterId)).isSome :=
      List.find?_isSome.mpr ⟨inst, hinst, decide_eq_true heq⟩
    obtain ⟨found, hfound⟩ := Option.isSome_iff_exists.mp hfound
    exact List.ne_nil_of_mem (mem_compatStreams.mpr ⟨s, hs, found, hfound, rfl⟩)
  obtain ⟨reloaded, version', hload, hreloaded⟩ :=
    @LoadedFrom.load_compatView _ _ _ _ _ _ _ _ _ (env, clusterId) _ hloaded henv hone path
  refine ⟨compatView registry (env, clusterId), reloaded, version',
    buildV0CompatView_eq_ok henv hcluster hne, hload, ?_,
    hloaded.onlyScope_of_reread hreloaded hne⟩
  rw [hloaded.streams_of_reread hreloaded]
  exact hloaded.same_rereadStreams hplain

end Reloading

/-- A document of version 1 with one stream that has given owners. -/
def ownedDocument (owners : Entries) : Entries :=
  [(.str "version", .scalar (.int 1)),
    (.str "streams", .list [.dict [
      (.str "stream_id", .str "orders"),
      (.str "owners", .dict owners),
      (.str "topics", .dict [(.str "source", .str "orders.raw")])]]),
    (.str "topic_index", .dict [
      (.str "orders.raw", .dict [
        (.str "role", .str "SOURCE_TOPIC"), (.str "stream_id", .str "orders")])])]

/-- The value is a list that starts with a tuple. -/
def startsWithTuple : PyValue → Bool
  | .list (.tuple _ :: _) => true
  | _ => false

/-- What stands under `oncall` starts with a tuple. -/
def oncallStartsWithTuple (s : CanonicalStream) : Option Bool :=
  (s.owners.get? "oncall").map startsWithTuple

theorem startsWithTuple_of_same {v w : PyValue} (h : v.Same w) :
    startsWithTuple v = startsWithTuple w := by
  cases h with
  | scalar _ => rfl
  | tuple _ _ => rfl
  | dict _ _ => rfl
  | @list xs ys length items =>
    cases xs with
    | nil =>
      obtain rfl := List.length_eq_zero_iff.mp length.symm
      rfl
    | cons x xs =>
      cases ys with
      | nil => cases length
      | cons y ys =>
        cases items 0 x y rfl rfl with
        | scalar _ => rfl
        | list _ _ => rfl
        | tuple _ _ => rfl
        | dict _ _ => rfl

/-- A tuple in the metadata comes back as a list, and a scope with blanks around its environment
has no view. -/
theorem v0_compat_view_loses :
    let _ := asciiPlatform []
    let _ := plainBuiltins
    let pairs := ownedDocument
      [(.str "oncall", .list [.tuple [.str "primary", .str "ana"]])]
    let spaced := ownedDocument []
    (∃ registry version view reloaded version',
      loadTopologyRegistry "registry.yaml" (.dict pairs) {} "prod" "c1" = .ok (registry, version) ∧
      (∃ s ∈ registry.streams, ∃ inst ∈ s.instances, inst.scope = ("prod", "c1")) ∧
      buildV0CompatView "registry.yaml" registry (.str "prod") (.str "c1") = .ok view ∧
      loadTopologyRegistry "legacy.yaml" (.dict view.toLegacyDict) {} "prod" "c1" =
        .ok (reloaded, version') ∧
      ¬ List.Forall₂ SameStream (scopedStreams registry ("prod", "c1")) reloaded.streams) ∧
    ∃ registry version,
      loadTopologyRegistry "registry.yaml" (.dict spaced) {} " prod " "c1" =
        .ok (registry, version) ∧
      (∃ s ∈ registry.streams, ∃ inst ∈ s.instances, inst.scope = (" prod ", "c1")) ∧
      ¬ (buildV0CompatView "registry.yaml" registry (.str " prod ") (.str "c1")).Returns := by
  intro _ _ pairs spaced
  constructor
  · have hrun : ((loadTopologyRegistry "registry.yaml" (.dict pairs) {} "prod" "c1").toOption.bind
        fun r => (buildV0CompatView "registry.yaml" r.1 (.str "prod") (.str "c1")).toOption.bind
        fun view => (loadTopologyRegistry "legacy.yaml" (.dict view.toLegacyDict) {} "prod"
          "c1").toOption.map fun r' =>
        (decide (∃ s ∈ r.1.streams, ∃ inst ∈ s.instances, inst.scope = ("prod", "c1")),
          (scopedStreams r.1 ("prod", "c1")).map oncallStartsWithTuple,
          r'.1.streams.map oncallStartsWithTuple)) = some (true, [some true], [some false]) := by
      decide +kernel
    obtain ⟨⟨registry, version⟩, hload, hrun⟩ := Option.bind_eq_some_iff.mp hrun
    obtain ⟨view, hview, hrun⟩ := Option.bind_eq_some_iff.mp hrun
    obtain ⟨⟨reloaded, version'⟩, hreloaded, hfacts⟩ := Option.map_eq_some_iff.mp hrun
    obtain ⟨hscope, hfacts⟩ := Prod.mk.inj hfacts
    obtain ⟨hbefore, hafter⟩ := Prod.mk.inj hfacts
    refine ⟨registry, version, view, reloaded, version', Except.toOption_eq_some.mp hload,
      of_decide_eq_true hscope, Except.toOption_eq_some.mp hview,
      Except.toOption_eq_some.mp hreloaded, fun hsame => ?_⟩
    -- the owners of the one stream are not the same
    obtain ⟨s, hs, hown⟩ := List.map_eq_singleton_iff.mp hbefore
    obtain ⟨s', hs', hown'⟩ := List.map_eq_singleton_iff.mp hafter
    rw [hs, show reloaded.streams = [s'] from hs'] at hsame
    obtain ⟨hstream, -⟩ := List.forall₂_cons.mp hsame
    obtain ⟨v, hv, hv'⟩ := Option.map_eq_some_iff.mp hown
    obtain ⟨w, hw, hw'⟩ := Option.map_eq_some_iff.mp hown'
    have hvalue := hstream.owners "oncall"
    rw [hv, hw] at hvalue
    cases hvalue with
    | some hvw =>
      rw [startsWithTuple_of_same hvw, hw'] at hv'
      cases hv'
  · have hrun : ((loadTopologyRegistry "registry.yaml" (.dict spaced) {} " prod " "c1").toOption.map
        fun r => (decide (∃ s ∈ r.1.streams, ∃ inst ∈ s.instances, inst.scope = (" prod ", "c1")),
          decide (buildV0CompatView "registry.yaml" r.1 (.str " prod ") (.str "c1")).Returns)) =
        some (true, false) := by decide +kernel
    obtain ⟨⟨registry, version⟩, hload, hfacts⟩ := Option.map_eq_some_iff.mp hrun
    obtain ⟨hscope, hview⟩ := Prod.mk.inj hfacts
    exact ⟨registry, version, Except.toOption_eq_some.mp hload, of_decide_eq_true hscope,
      of_decide_eq_false hview⟩

theorem v0_compat_view_round_trips_orders :
    let _ := asciiPlatform []
    let _ := plainBuiltins
    ∃ registry version view reloaded version',
      loadTopologyRegistry "registry.yaml" (.dict (ownedDocument
        [(.str "team", .str "payments"),
          (.str "contacts", .dict [(.str "slack", .str "#orders"), (.str "mail", .list [])])])) {}
        "prod" "c1" = .ok (registry, version) ∧
      buildV0CompatView "registry.yaml" registry (.str "prod") (.str "c1") = .ok view ∧
      loadTopologyRegistry "legacy.yaml" (.dict view.toLegacyDict) {} "prod" "c1" =
        .ok (reloaded, version') ∧
      List.Forall₂ SameStream (scopedStreams registry ("prod", "c1")) reloaded.streams ∧
      OnlyScope registry ("prod", "c1") reloaded := by
  intro _ _
  have hrun : ((loadTopologyRegistry "registry.yaml" (.dict (ownedDocument
      [(.str "team", .str "payments"),
        (.str "contacts", .dict [(.str "slack", .str "#orders"), (.str "mail", .list [])])])) {}
      "prod" "c1").toOption.map fun r : CanonicalTopologyRegistry × RegistryVersion =>
      (decide (∃ s ∈ r.1.streams, ∃ inst ∈ s.instances, inst.scope = ("prod", "c1")),
        decide (∀ s ∈ scopedStreams r.1 ("prod", "c1"), PlainStream s))) = some (true, true) := by
    decide +kernel
  obtain ⟨⟨registry, version⟩, hload, hfacts⟩ := Option.map_eq_some_iff.mp hrun
  obtain ⟨hscope, hplain⟩ := Prod.mk.inj hfacts
  have hload := Except.toOption_eq_some.mp hload
  obtain ⟨view, reloaded, version', hview, hreloaded, hsame, honly⟩ :=
    @v0_compat_view_round_trips (asciiPlatform []) "registry.yaml" {} "prod" "c1" registry version
      plainBuiltins _ hload (by decide) "prod" "c1" (by decide +kernel) (by decide +kernel)
      (of_decide_eq_true hscope) (of_decide_eq_true hplain) "legacy.yaml"
  exact ⟨registry, version, view, reloaded, version', hload, hview, hreloaded, hsame, honly⟩

end Registry

end AiopsTriage
