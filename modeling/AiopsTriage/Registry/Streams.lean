import AiopsTriage.Registry.Assembly

/-!
# What the streams of a document are read as

What is read from a field does not depend on the texts an error would have, so each reader
comes with what it reads (`textOf`, `optionalTextOf`), and each part of a document with what
its canonical form has to say about it. In both versions the topics of an instance are an
index (`indexOf`) of entries that name the stream of the instance (`OwnTopics`).
-/

namespace AiopsTriage

namespace Registry

/-! ## Fields -/

/-- The text of a field that must have one. -/
def textOf : PyValue → Option String
  | .scalar (.str s) => trimmed s
  | _ => none

/-- The text of a field that may be without one. -/
def optionalTextOf : PyValue → Option (Option String)
  | .scalar .none => some none
  | .scalar (.str s) => some (trimmed s)
  | _ => none

section Fields

variable {sourcePath category offendingKey : String} {value : PyValue}

theorem requireNonEmptyString_eq_ok {text : String} :
    requireNonEmptyString sourcePath category offendingKey value = .ok text ↔
      textOf value = some text := by
  unfold requireNonEmptyString textOf
  split
  · next s =>
    cases htext : trimmed s with
    | none => simp [htext]
    | some t => simp [htext]
  · simp

theorem optionalString_eq_ok {text : Option String} :
    optionalString sourcePath category offendingKey value = .ok text ↔
      optionalTextOf value = some text := by
  unfold optionalString optionalTextOf
  split
  · simp
  · simp
  · simp

/-- What is trimmed is a stripped text that is not blank. -/
theorem trimmed_eq_some {s t : String} :
    trimmed s = some t ↔ PyText.isBlank s = false ∧ t = PyText.strip s := by
  unfold trimmed
  split
  · next h => simp [h]
  · next h => simp [h, eq_comm]

theorem textOf_eq_some {text : String} :
    textOf value = some text ↔ ∃ s, value = .str s ∧ trimmed s = some text := by
  unfold textOf
  split
  · simp
  · next h =>
    simp only [reduceCtorEq, false_iff, not_exists, not_and]
    exact fun s hs => absurd hs (h s)

/-- The texts of an entry of a mapping of texts. -/
def textEntryOf : PyScalar × PyValue → Option (String × String)
  | (.str key, value) => do
    let key ← trimmed key
    let text ← textOf value
    return (key, text)
  | _ => none

theorem coerceStringEntry_eq_ok {e : PyScalar × PyValue} {texts : String × String} :
    coerceStringEntry sourcePath category offendingKey e = .ok texts ↔
      textEntryOf e = some texts := by
  obtain ⟨key, value⟩ := e
  cases key with
  | str key =>
    cases hkey : trimmed key with
    | none => simp [coerceStringEntry, textEntryOf, hkey]
    | some text =>
      simp only [coerceStringEntry, textEntryOf, hkey, Option.bind_eq_bind, Option.bind_some]
      split
      · next s =>
        cases hs : trimmed s with
        | none => simp [textOf, hs]
        | some t => simp [textOf, hs]
      · next hother =>
        have hnone : textOf value = none := by
          rw [Option.eq_none_iff_forall_ne_some]
          intro t ht
          obtain ⟨s, rfl, -⟩ := textOf_eq_some.mp ht
          exact hother s rfl
        simp [hnone]
  | none => simp [coerceStringEntry, textEntryOf]
  | bool _ => simp [coerceStringEntry, textEntryOf]
  | int _ => simp [coerceStringEntry, textEntryOf]
  | float _ => simp [coerceStringEntry, textEntryOf]
  | other _ _ => simp [coerceStringEntry, textEntryOf]

/-- What a mapping of texts is read as. -/
def ReadsTexts (value : PyValue) (texts : Dict String String) : Prop :=
  value = .none ∧ texts = .empty ∨ ∃ entries pairs, value = .dict entries ∧
    List.Forall₂ (fun e p => textEntryOf e = some p) entries pairs ∧ texts = .ofPairs pairs

theorem coerceStringMapping_eq_ok {texts : Dict String String} :
    coerceStringMapping sourcePath category offendingKey value = .ok texts ↔
      ReadsTexts value texts := by
  cases value with
  | dict entries =>
    simp only [coerceStringMapping, Except.bind_eq_ok, Except.mapM_eq_ok, coerceStringEntry_eq_ok,
      Except.pure_eq_ok, ReadsTexts, PyValue.none, reduceCtorEq, false_and, false_or,
      PyValue.dict.injEq, exists_and_left, exists_eq_left']
    exact exists_congr fun pairs => and_congr_right fun _ => eq_comm
  | scalar x =>
    cases x with
    | none => simp [coerceStringMapping, ReadsTexts, eq_comm]
    | bool _ => simp [coerceStringMapping, ReadsTexts]
    | int _ => simp [coerceStringMapping, ReadsTexts]
    | float _ => simp [coerceStringMapping, ReadsTexts]
    | str _ => simp [coerceStringMapping, ReadsTexts]
    | other _ _ => simp [coerceStringMapping, ReadsTexts]
  | list _ => simp [coerceStringMapping, ReadsTexts]
  | tuple _ => simp [coerceStringMapping, ReadsTexts]

end Fields

/-! ## Topics -/

section Topics

variable [Platform] {sourcePath : String} {e : PyScalar × PyValue} {t : CanonicalTopicEntry}

theorem canonicalizeV0Topic_eq_ok : canonicalizeV0Topic sourcePath e = .ok t ↔
    ∃ fields, e.2 = .dict fields ∧ t.topic = scalarText e.1 ∧
      textOf (get fields "stream_id") = some t.streamId ∧
      textOf (get fields "role") = some t.role ∧
      optionalTextOf (get fields "source_system") = some t.sourceSystem := by
  obtain ⟨key, value⟩ := e
  cases value with
  | dict fields =>
    simp only [canonicalizeV0Topic, Except.bind_eq_ok, requireNonEmptyString_eq_ok,
      optionalString_eq_ok, Except.pure_eq_ok]
    constructor
    · rintro ⟨streamId, hid, role, hrole, system, hsystem, rfl⟩
      exact ⟨fields, rfl, rfl, hid, hrole, hsystem⟩
    · rintro ⟨_, hfields, htopic, hid, hrole, hsystem⟩
      cases hfields
      exact ⟨t.streamId, hid, t.role, hrole, t.sourceSystem, hsystem, by rw [← htopic]⟩
  | scalar _ => simp [canonicalizeV0Topic]
  | list _ => simp [canonicalizeV0Topic]
  | tuple _ => simp [canonicalizeV0Topic]

theorem canonicalizeInstanceTopic_eq_ok {streamId : String} {scope : ScopeKey} :
    canonicalizeInstanceTopic sourcePath streamId scope e = .ok t ↔
      ∃ fields, e.2 = .dict fields ∧ t.topic = scalarText e.1 ∧ t.streamId = streamId ∧
        (∃ own, optionalTextOf (get fields "stream_id") = some own ∧ own.getD streamId = streamId) ∧
        textOf (get fields "role") = some t.role ∧
        optionalTextOf (get fields "source_system") = some t.sourceSystem := by
  obtain ⟨key, value⟩ := e
  cases value with
  | dict fields =>
    simp only [canonicalizeInstanceTopic, Except.bind_eq_ok, requireNonEmptyString_eq_ok,
      optionalString_eq_ok, Except.pure_eq_ok, rejectIf_eq_ok, not_not]
    constructor
    · rintro ⟨own, hown, _, hsame, role, hrole, system, hsystem, rfl⟩
      exact ⟨fields, rfl, rfl, rfl, ⟨own, hown, hsame⟩, hrole, hsystem⟩
    · rintro ⟨_, hfields, htopic, hid, ⟨own, hown, hsame⟩, hrole, hsystem⟩
      cases hfields
      exact ⟨own, hown, (), hsame, t.role, hrole, t.sourceSystem, hsystem, by rw [← htopic, ← hid]⟩
  | scalar _ => simp [canonicalizeInstanceTopic]
  | list _ => simp [canonicalizeInstanceTopic]
  | tuple _ => simp [canonicalizeInstanceTopic]

omit [Platform] in
theorem indexOf_eq_ofPairs {topics : List CanonicalTopicEntry} :
    indexOf topics = .ofPairs (topics.map fun t => (t.topic, t)) := by
  rw [indexOf, Dict.ofPairs, List.foldl_map]

omit [Platform] in
/-- An index has its entries under their topics. -/
theorem mem_indexOf {topics : List CanonicalTopicEntry} {p : String × CanonicalTopicEntry}
    (h : p ∈ (indexOf topics).entries) : p.2 ∈ topics ∧ p.2.topic = p.1 := by
  have hfound := Dict.get?_eq_some.mpr h
  rw [indexOf_eq_ofPairs] at hfound
  obtain ⟨t, ht, heq⟩ := List.mem_map.mp (Dict.mem_of_get?_ofPairs hfound)
  obtain ⟨hkey, rfl⟩ := Prod.mk.inj heq
  exact ⟨ht, hkey⟩

omit [Platform] in
/-- The topics of a stream are an index of those that name it. -/
theorem groupByStream_getD {topics : List CanonicalTopicEntry} {streamId : String} :
    ((groupByStream topics).get? streamId).getD .empty =
      indexOf (topics.filter fun t => t.streamId = streamId) := by
  -- by induction on the topics, from any groups
  have hfold : ∀ (topics : List CanonicalTopicEntry) (groups : Dict String TopicIndex),
      ((topics.foldl (fun groups t => groups.set t.streamId
        (((groups.get? t.streamId).getD .empty).set t.topic t)) groups).get? streamId).getD .empty =
      (topics.filter fun t => t.streamId = streamId).foldl (fun index t => index.set t.topic t)
        ((groups.get? streamId).getD .empty) := by
    intro topics
    induction topics with
    | nil => intro groups; rfl
    | cons t topics ih =>
      intro groups
      rw [List.foldl_cons, ih, Dict.get?_set]
      by_cases h : t.streamId = streamId
      · simp only [h, if_true, List.filter_cons, decide_true, List.foldl_cons, Option.getD_some]
      · simp only [h, if_false, List.filter_cons, decide_false, Bool.false_eq_true]
  exact hfold topics .empty

omit [Platform] in
/-- The groups are those of the streams that topics name. -/
theorem mem_keys_groupByStream {topics : List CanonicalTopicEntry} {streamId : String} :
    streamId ∈ (groupByStream topics).keys ↔ ∃ t ∈ topics, t.streamId = streamId := by
  have hfold : ∀ (topics : List CanonicalTopicEntry) (groups : Dict String TopicIndex),
      ((topics.foldl (fun groups t => groups.set t.streamId
        (((groups.get? t.streamId).getD .empty).set t.topic t)) groups).get? streamId).isSome ↔
      (groups.get? streamId).isSome ∨ ∃ t ∈ topics, t.streamId = streamId := by
    intro topics
    induction topics with
    | nil => simp
    | cons t topics ih =>
      intro groups
      rw [List.foldl_cons, ih, Dict.get?_set]
      by_cases h : t.streamId = streamId
      · simp [h]
      · simp [h]
  rw [← Dict.isSome_get?]
  refine (hfold topics .empty).trans (or_iff_right ?_)
  simp

end Topics

/-! ## Instances and streams -/

section Streams

variable [Platform] {sourcePath : String} {value : PyValue} {s : CanonicalStream}
  {inst : CanonicalStreamInstance}

theorem finishInstance_eq_ok {env clusterId category offendingKey : String} {topicIndex : TopicIndex}
    {fields : Entries} (h : finishInstance sourcePath env clusterId topicIndex category offendingKey
      fields = .ok inst) : inst.scope = (env, clusterId) ∧ inst.topicIndex = topicIndex := by
  obtain ⟨_, -, h⟩ := Except.bind_eq_ok.mp h
  obtain rfl := Except.pure_eq_ok.mp h
  exact ⟨rfl, rfl⟩

theorem finishStream_eq_ok {streamId : String} {stream : Entries}
    {instances : List CanonicalStreamInstance}
    (h : finishStream sourcePath streamId stream instances = .ok s) :
    s.streamId = streamId ∧ s.instances.Perm instances := by
  obtain ⟨_, -, h⟩ := Except.bind_eq_ok.mp h
  obtain ⟨_, -, h⟩ := Except.bind_eq_ok.mp h
  obtain rfl := Except.pure_eq_ok.mp h
  exact ⟨rfl, List.perm_insertionSort _ _⟩

/-- An instance with the fields that both versions have. -/
def instanceOf (env clusterId : String) (topicIndex : TopicIndex) (topics : Dict String String)
    (fields : Entries) : CanonicalStreamInstance where
  env
  clusterId
  topicIndex
  topics
  sharedComponents := coerceMapping (getOr fields "shared_components" (.dict []))
  sources := coerceMappingList (getOr fields "sources" (.tuple []))
  sinks := coerceMappingList (getOr fields "sinks" (.tuple []))
  peakWindowPolicy := coerceOptionalMapping (get fields "peak_window_policy")

theorem finishInstance_iff {env clusterId category offendingKey : String} {topicIndex : TopicIndex}
    {fields : Entries} :
    finishInstance sourcePath env clusterId topicIndex category offendingKey fields = .ok inst ↔
      ∃ topics, ReadsTexts (getOr fields "topics" (.dict [])) topics ∧
        instanceOf env clusterId topicIndex topics fields = inst := by
  simp only [finishInstance, Except.bind_eq_ok, coerceStringMapping_eq_ok, Except.pure_eq_ok]
  rfl

theorem finishStream_iff {streamId : String} {stream : Entries}
    {instances : List CanonicalStreamInstance} :
    finishStream sourcePath streamId stream instances = .ok s ↔
      ∃ description, optionalTextOf (get stream "description") = some description ∧
      ∃ criticalityTier, optionalTextOf (get stream "criticality_tier") = some criticalityTier ∧
        .build streamId description criticalityTier
          (coerceMapping (getOr stream "owners" (.dict []))) instances = s := by
  simp only [finishStream, Except.bind_eq_ok, optionalString_eq_ok, Except.pure_eq_ok]

/-- An instance of version 2: the entries of its topic index, each read for its stream. -/
theorem canonicalizeInstance_eq_ok {streamId : String}
    (h : canonicalizeInstance sourcePath streamId value = .ok inst) :
    ∃ fields entries topics, value = .dict fields ∧
      textOf (get fields "env") = some inst.env ∧
      textOf (get fields "cluster_id") = some inst.clusterId ∧
      getOr fields "topic_index" (.dict []) = .dict entries ∧
      List.Forall₂ (fun e t => canonicalizeInstanceTopic sourcePath streamId inst.scope e = .ok t)
        (sortByText entries) topics ∧ inst.topicIndex = indexOf topics := by
  cases value with
  | dict fields =>
    obtain ⟨env, henv, h⟩ := Except.bind_eq_ok.mp h
    obtain ⟨clusterId, hcluster, h⟩ := Except.bind_eq_ok.mp h
    obtain ⟨index, hindex, h⟩ := Except.bind_eq_ok.mp h
    obtain ⟨hscope, rfl⟩ := finishInstance_eq_ok h
    obtain ⟨rfl, rfl⟩ := Prod.mk.inj hscope
    unfold canonicalizeInstanceTopicIndex at hindex
    split at hindex
    · next entries hentries =>
      obtain ⟨topics, htopics, hindex⟩ := Except.bind_eq_ok.mp hindex
      exact ⟨fields, entries, topics, rfl, requireNonEmptyString_eq_ok.mp henv,
        requireNonEmptyString_eq_ok.mp hcluster, hentries, Except.mapM_eq_ok.mp htopics,
        (Except.pure_eq_ok.mp hindex).symm⟩
    · cases hindex
  | scalar _ => cases h
  | list _ => cases h
  | tuple _ => cases h

/-- A stream of version 2: its instances, each read for it, in order. -/
theorem canonicalizeV1Stream_eq_ok (h : canonicalizeV1Stream sourcePath value = .ok s) :
    ∃ stream instancesRaw instances, value = .dict stream ∧
      textOf (get stream "stream_id") = some s.streamId ∧
      getOr stream "instances" (.tuple []) = .list instancesRaw ∧
      List.Forall₂ (fun v inst => canonicalizeInstance sourcePath s.streamId v = .ok inst)
        instancesRaw instances ∧ s.instances.Perm instances := by
  cases value with
  | dict stream =>
    obtain ⟨streamId, hid, h⟩ := Except.bind_eq_ok.mp h
    obtain ⟨instances, hinstances, h⟩ := Except.bind_eq_ok.mp h
    obtain ⟨rfl, hperm⟩ := finishStream_eq_ok h
    unfold canonicalizeInstances at hinstances
    split at hinstances
    · next instancesRaw hraw =>
      exact ⟨stream, instancesRaw, instances, rfl, requireNonEmptyString_eq_ok.mp hid, hraw,
        Except.mapM_eq_ok.mp hinstances, hperm⟩
    · cases hinstances
  | scalar _ => cases h
  | list _ => cases h
  | tuple _ => cases h

/-- A stream of version 1: one instance, with the topics that name the stream. -/
theorem canonicalizeV0Stream_eq_ok {groups : Dict String TopicIndex}
    {defaultEnv defaultClusterId : String}
    (h : canonicalizeV0Stream sourcePath groups defaultEnv defaultClusterId value = .ok s) :
    ∃ stream inst env clusterId, value = .dict stream ∧ s.instances = [inst] ∧
      textOf (get stream "stream_id") = some s.streamId ∧
      optionalTextOf (get stream "env") = some env ∧
      optionalTextOf (get stream "cluster_id") = some clusterId ∧
      inst.scope = (env.getD defaultEnv, clusterId.getD defaultClusterId) ∧
      inst.topicIndex = (groups.get? s.streamId).getD .empty := by
  cases value with
  | dict stream =>
    obtain ⟨streamId, hid, h⟩ := Except.bind_eq_ok.mp h
    obtain ⟨env, henv, h⟩ := Except.bind_eq_ok.mp h
    obtain ⟨clusterId, hcluster, h⟩ := Except.bind_eq_ok.mp h
    obtain ⟨inst, hinst, h⟩ := Except.bind_eq_ok.mp h
    obtain ⟨rfl, hperm⟩ := finishStream_eq_ok h
    obtain ⟨hscope, hindex⟩ := finishInstance_eq_ok hinst
    exact ⟨stream, inst, env, clusterId, rfl, List.perm_singleton.mp hperm,
      requireNonEmptyString_eq_ok.mp hid, optionalString_eq_ok.mp henv,
      optionalString_eq_ok.mp hcluster, hscope, hindex⟩
  | scalar _ => cases h
  | list _ => cases h
  | tuple _ => cases h

/-- The streams of version 1, with the entries of the topic index they come from: every entry
names a stream. -/
theorem canonicalizeV0Streams_eq_ok {raw : Entries} {streamsRaw : List PyValue}
    {defaultEnv defaultClusterId : String} {streams : List CanonicalStream} :
    canonicalizeV0Streams sourcePath raw streamsRaw defaultEnv defaultClusterId = .ok streams ↔
      ∃ entries topics, getOr raw "topic_index" (.dict []) = .dict entries ∧
        List.Forall₂ (fun e t => canonicalizeV0Topic sourcePath e = .ok t) (sortByText entries)
          topics ∧
        List.Forall₂ (fun v s => canonicalizeV0Stream sourcePath (groupByStream topics) defaultEnv
          defaultClusterId v = .ok s) streamsRaw streams ∧
        ∀ t ∈ topics, t.streamId ∈ streams.map CanonicalStream.streamId := by
  have hunknown : ∀ topics : List CanonicalTopicEntry,
      ((groupByStream topics).keys.filter fun id => id ∉ streams.map CanonicalStream.streamId
        ).insertionSort (· ≤ ·) = [] ↔
        ∀ t ∈ topics, t.streamId ∈ streams.map CanonicalStream.streamId := by
    intro topics
    rw [← List.length_eq_zero_iff, List.length_insertionSort, List.length_eq_zero_iff,
      List.filter_eq_nil_iff]
    simp only [mem_keys_groupByStream, decide_eq_true_eq, not_not, forall_exists_index, and_imp]
    exact ⟨fun h t ht => h _ t ht rfl, fun h id t ht hid => hid ▸ h t ht⟩
  simp only [canonicalizeV0Streams, Except.bind_eq_ok, Except.mapM_eq_ok, rejectIf_eq_ok,
    Except.pure_eq_ok]
  constructor
  · rintro ⟨entries, hentries, topics, htopics, streams, hstreams, _, hknown, rfl⟩
    unfold rawTopicIndex at hentries
    split at hentries
    · next entries' hraw =>
      obtain rfl := Except.ok.inj hentries
      exact ⟨entries', topics, hraw, htopics, hstreams, (hunknown topics).mp (not_not.mp hknown)⟩
    · cases hentries
  · rintro ⟨entries, topics, hraw, htopics, hstreams, hknown⟩
    refine ⟨entries, ?_, topics, htopics, streams, hstreams, (),
      not_not.mpr ((hunknown topics).mpr hknown), rfl⟩
    rw [rawTopicIndex, hraw]

/-- The topics of every instance name its stream, and stand under their own name. -/
def OwnTopics (streams : List CanonicalStream) : Prop :=
  ∀ s ∈ streams, ∀ inst ∈ s.instances, ∀ e ∈ inst.topicIndex.entries,
    e.2.streamId = s.streamId ∧ e.2.topic = e.1

/-- **Canonical streams** have topics of their own, in both versions. -/
theorem ownTopics_of_canonicalizeStreams {raw : Entries} {streamsRaw : List PyValue}
    {inputVersion : Int} {defaultEnv defaultClusterId : String} {streams : List CanonicalStream}
    (h : canonicalizeStreams sourcePath raw streamsRaw inputVersion defaultEnv defaultClusterId =
      .ok streams) : OwnTopics streams := by
  intro s hs inst hinst e he
  unfold canonicalizeStreams at h
  split at h
  · obtain ⟨v, -, hv⟩ := (Except.mapM_eq_ok.mp h).exists_of_mem_right hs
    obtain ⟨_, _, instances, -, -, -, hinstances, hperm⟩ := canonicalizeV1Stream_eq_ok hv
    obtain ⟨v', -, hv'⟩ := hinstances.exists_of_mem_right (hperm.mem_iff.mp hinst)
    obtain ⟨_, _, topics, -, -, -, -, htopics, hindex⟩ := canonicalizeInstance_eq_ok hv'
    rw [hindex] at he
    obtain ⟨htopic, hname⟩ := mem_indexOf he
    obtain ⟨_, -, hread⟩ := htopics.exists_of_mem_right htopic
    obtain ⟨_, -, -, hid, -⟩ := canonicalizeInstanceTopic_eq_ok.mp hread
    exact ⟨hid, hname⟩
  · obtain ⟨_, topics, -, -, hstreams, -⟩ := canonicalizeV0Streams_eq_ok.mp h
    obtain ⟨v, -, hv⟩ := hstreams.exists_of_mem_right hs
    obtain ⟨_, inst', _, _, -, honly, -, -, -, -, hindex⟩ := canonicalizeV0Stream_eq_ok hv
    rw [honly, List.mem_singleton] at hinst
    rw [hinst, hindex, groupByStream_getD] at he
    obtain ⟨htopic, hname⟩ := mem_indexOf he
    exact ⟨of_decide_eq_true (List.mem_filter.mp htopic).2, hname⟩

end Streams

end Registry

end AiopsTriage
