import AiopsTriage.Gating.Inputs
import AiopsTriage.Lib.Segments

/-!
# Action fingerprints

The fingerprint of a gate input stands for its action: it is what AG5 remembers, what
PagerDuty dedupes by and what the case id is derived from. It joins eight names with
slashes, three or four of which are free-form. Two actions have the same fingerprint
exactly when their names have the same segments at the slashes (`fingerprint_eq_iff`).

So a fingerprint identifies its action exactly when its segments can be read as names in
one way only (`fingerprint_identifies_iff`): no slash in the cluster or the stream, no
role among the segments of the topic with more to come, and no family, tier and group in
a row that could be the end of a shorter topic or, in the group, of a longer one.
-/

namespace AiopsTriage

open Segments

/-- What a fingerprint is made of. -/
structure ActionIdentity where
  /-- the environment -/
  env : Environment
  /-- the cluster -/
  clusterId : String
  /-- the stream -/
  streamId : String
  /-- the role of the topic -/
  topicRole : TopicRole
  /-- the topic -/
  topic : String
  /-- the kind of anomaly -/
  anomalyFamily : AnomalyFamily
  /-- the tier of the stream -/
  criticalityTier : CriticalityTier
  /-- the consumer group of a lag anomaly -/
  consumerGroup : Option String
  deriving DecidableEq, Repr

/-- What the fingerprint of a gate input is made of. -/
def GateInputV1.actionIdentity (g : GateInputV1) : ActionIdentity where
  env := g.env
  clusterId := g.clusterId
  streamId := g.streamId
  topicRole := g.topicRole
  topic := g.topic
  anomalyFamily := g.anomalyFamily
  criticalityTier := g.criticalityTier
  consumerGroup := g.consumerGroup

namespace ActionIdentity

variable (i : ActionIdentity)

/-- The fingerprint, `_action_fingerprint` on the names. -/
def fingerprint : String :=
  PyText.join "/"
    ([StrEnum.value i.env, i.clusterId, i.streamId, StrEnum.value i.topicRole, i.topic,
        StrEnum.value i.anomalyFamily, StrEnum.value i.criticalityTier] ++
      (i.consumerGroup.map fun group => s!"group:{group}").toList)

/-! ## Segments of a fingerprint -/

/-- The segments of a group at the end of a fingerprint. -/
def groupSegments : Option String → List (List Char)
  | none => []
  | some group => split '/' s!"group:{group}"

/-- Segments that can be those of a group. -/
def GroupLike (segments : List (List Char)) : Prop :=
  segments = [] ∨ ∃ name rest, segments = ("group:".toList ++ name) :: rest

/-- The segments after the role. -/
def tail : List (List Char) :=
  split '/' i.topic ++ (StrEnum.value i.anomalyFamily).toList ::
    (StrEnum.value i.criticalityTier).toList :: groupSegments i.consumerGroup

/-- All segments. -/
def segments : List (List Char) :=
  (StrEnum.value i.env).toList :: (split '/' i.clusterId ++ (split '/' i.streamId ++
    (StrEnum.value i.topicRole).toList :: i.tail))

variable {i}

theorem split_env (e : Environment) : split '/' (StrEnum.value e) = [(StrEnum.value e).toList] :=
  split_of_notMem (by cases e <;> decide)

theorem split_role (r : TopicRole) : split '/' (StrEnum.value r) = [(StrEnum.value r).toList] :=
  split_of_notMem (by cases r <;> decide)

theorem split_family (f : AnomalyFamily) :
    split '/' (StrEnum.value f) = [(StrEnum.value f).toList] :=
  split_of_notMem (by cases f <;> decide)

theorem split_tier (t : CriticalityTier) :
    split '/' (StrEnum.value t) = [(StrEnum.value t).toList] :=
  split_of_notMem (by cases t <;> decide)

/-- A fingerprint has the segments of its names. -/
theorem split_fingerprint : split '/' i.fingerprint = i.segments := by
  rw [fingerprint, show ("/" : String) = String.singleton '/' from rfl, split_join (by simp)]
  simp only [List.flatMap_cons, split_env, split_role, split_family, split_tier, segments, tail,
    List.cons_append, List.nil_append]
  cases i.consumerGroup with
  | none => rfl
  | some group => simp [groupSegments]

/-- Two actions have the same fingerprint exactly when they have the same segments. -/
theorem fingerprint_eq_iff {i' : ActionIdentity} :
    i'.fingerprint = i.fingerprint ↔ i'.segments = i.segments := by
  rw [← split_fingerprint, ← split_fingerprint]
  exact ⟨congrArg _, split_injective⟩

/-- The segments of a group start as a group does. -/
theorem split_group (group : String) : ∃ name rest,
    split '/' s!"group:{group}" = ("group:".toList ++ name) :: rest := by
  rw [show s!"group:{group}" = "group:" ++ group from rfl, split_append (by decide)]
  cases h : split '/' group with
  | nil => exact absurd h (clean_split group).1
  | cons name rest => exact ⟨name, rest, rfl⟩

theorem groupLike_groupSegments (group : Option String) : GroupLike (groupSegments group) := by
  cases group with
  | none => exact .inl rfl
  | some group => exact .inr (split_group group)

/-- Segments that can be those of a group are. -/
theorem exists_group {segments : List (List Char)} (h : GroupLike segments)
    (hfree : ∀ x ∈ segments, '/' ∉ x) : ∃ group, groupSegments group = segments := by
  rcases h with rfl | ⟨name, rest, rfl⟩
  · exact ⟨none, rfl⟩
  · have hclean : Clean '/' (name :: rest) := by
      refine ⟨List.cons_ne_nil _ _, fun x hx => ?_⟩
      rcases List.mem_cons.mp hx with rfl | hx
      · exact fun hmem => hfree _ List.mem_cons_self (List.mem_append_right _ hmem)
      · exact hfree x (List.mem_cons_of_mem _ hx)
    refine ⟨some (glue '/' (name :: rest)), ?_⟩
    have hname : ∀ group : String, s!"group:{group}" = "group:" ++ group := fun _ => rfl
    rw [groupSegments, hname, split_append (by decide), split_glue hclean]
    rfl

theorem groupSegments_injective {group group' : Option String}
    (h : groupSegments group = groupSegments group') : group = group' := by
  cases group with
  | none =>
    cases group' with
    | none => rfl
    | some g' => exact absurd h.symm (clean_split _).1
  | some g =>
    cases group' with
    | none => exact absurd h (clean_split _).1
    | some g' =>
      have hsame : "group:" ++ g = "group:" ++ g' := split_injective h
      have hchars := congrArg String.toList hsame
      rw [String.toList_append, String.toList_append] at hchars
      exact congrArg some (String.toList_inj.mp (List.append_cancel_left hchars))

/-- No segment of a fingerprint has a slash in it. -/
theorem free_segments : ∀ x ∈ i.segments, '/' ∉ x := by
  rw [← split_fingerprint]
  exact (clean_split _).2

/-! ## Readings -/

/-- A way to read the segments of a fingerprint as those of names. -/
structure Reading where
  /-- of the cluster -/
  cluster : List (List Char)
  /-- of the stream -/
  stream : List (List Char)
  /-- the role -/
  role : TopicRole
  /-- of the topic -/
  topic : List (List Char)
  /-- the kind of anomaly -/
  family : AnomalyFamily
  /-- the tier -/
  tier : CriticalityTier
  /-- of the group -/
  group : List (List Char)
  /-- no name is without segments -/
  nonempty : cluster ≠ [] ∧ stream ≠ [] ∧ topic ≠ []
  /-- the group is marked as one -/
  group_like : GroupLike group

namespace Reading

variable (r : Reading)

/-- The segments after the role. -/
def tail : List (List Char) :=
  r.topic ++ (StrEnum.value r.family).toList :: (StrEnum.value r.tier).toList :: r.group

/-- The segments after the environment. -/
def segments : List (List Char) :=
  r.cluster ++ (r.stream ++ (StrEnum.value r.role).toList :: r.tail)

end Reading

/-- The reading by the names that were joined. -/
def reading (i : ActionIdentity) : Reading where
  cluster := split '/' i.clusterId
  stream := split '/' i.streamId
  role := i.topicRole
  topic := split '/' i.topic
  family := i.anomalyFamily
  tier := i.criticalityTier
  group := groupSegments i.consumerGroup
  nonempty := ⟨(clean_split _).1, (clean_split _).1, (clean_split _).1⟩
  group_like := groupLike_groupSegments _

theorem segments_eq : i.segments = (StrEnum.value i.env).toList :: i.reading.segments := rfl

/-- An action is known by its environment and the reading of its names. -/
theorem eq_of_reading {i' : ActionIdentity} (henv : i'.env = i.env)
    (h : i'.reading = i.reading) : i' = i := by
  obtain ⟨env, cluster, stream, role, topic, family, tier, group⟩ := i
  obtain ⟨env', cluster', stream', role', topic', family', tier', group'⟩ := i'
  simp only [reading, Reading.mk.injEq] at h
  obtain ⟨hcluster, hstream, rfl, htopic, rfl, rfl, hgroup⟩ := h
  obtain rfl : env' = env := henv
  rw [split_injective hcluster, split_injective hstream, split_injective htopic,
    groupSegments_injective hgroup]

/-- Every reading of a fingerprint is the one of some action with that fingerprint. -/
theorem exists_of_reading {r : Reading} (h : r.segments = i.reading.segments) :
    ∃ i' : ActionIdentity, i'.fingerprint = i.fingerprint ∧ i'.reading = r := by
  have hfree : ∀ x ∈ r.segments, '/' ∉ x := fun x hx =>
    free_segments (i := i) x (segments_eq ▸ List.mem_cons_of_mem _ (h ▸ hx))
  simp only [Reading.segments, Reading.tail, List.forall_mem_append, List.forall_mem_cons] at hfree
  obtain ⟨hcluster, hstream, -, htopic, -, -, hgroup⟩ := hfree
  obtain ⟨group, hgroup'⟩ := exists_group r.group_like hgroup
  let i' : ActionIdentity :=
    { env := i.env
      clusterId := glue '/' r.cluster
      streamId := glue '/' r.stream
      topicRole := r.role
      topic := glue '/' r.topic
      anomalyFamily := r.family
      criticalityTier := r.tier
      consumerGroup := group }
  have hreading : i'.reading = r := by
    obtain ⟨hc, hs, ht⟩ := r.nonempty
    simp only [i', reading, split_glue ⟨hc, hcluster⟩, split_glue ⟨hs, hstream⟩,
      split_glue ⟨ht, htopic⟩, hgroup']
  refine ⟨i', fingerprint_eq_iff.mpr ?_, hreading⟩
  rw [segments_eq, segments_eq, hreading, h]

/-- The fingerprint belongs to one action exactly when it has one reading. -/
theorem unique_iff_reading :
    (∀ i' : ActionIdentity, i'.fingerprint = i.fingerprint → i' = i) ↔
      ∀ r : Reading, r.segments = i.reading.segments → r = i.reading := by
  constructor
  · intro h r hr
    obtain ⟨i', hfingerprint, rfl⟩ := exists_of_reading hr
    rw [h i' hfingerprint]
  · intro h i' hfingerprint
    have hsegments := fingerprint_eq_iff.mp hfingerprint
    rw [segments_eq, segments_eq] at hsegments
    obtain ⟨henv, hrest⟩ := List.cons_eq_cons.mp hsegments
    exact eq_of_reading (StrEnum.injective _ _ (String.toList_inj.mp henv)) (h _ hrest)

/-! ## One reading only -/

/-- The names leave no choice where one of them ends and the next begins. -/
structure Unambiguous (i : ActionIdentity) : Prop where
  /-- the cluster has one segment -/
  cluster : '/' ∉ i.clusterId.toList
  /-- the stream has one segment -/
  stream : '/' ∉ i.streamId.toList
  /-- no role stands in the topic with more of the topic to come -/
  role : ∀ before (role : TopicRole) after,
    split '/' i.topic = before ++ (StrEnum.value role).toList :: after → after = []
  /-- no family, tier and group stand in the topic after its first segment -/
  topic : ∀ before (family : AnomalyFamily) (tier : CriticalityTier) name after,
    split '/' i.topic = before ++ (StrEnum.value family).toList ::
      (StrEnum.value tier).toList :: ("group:".toList ++ name) :: after → before = []
  /-- no family and tier stand in the group with another group after them, or nothing -/
  group : ∀ before (family : AnomalyFamily) (tier : CriticalityTier) after,
    groupSegments i.consumerGroup = before ++ (StrEnum.value family).toList ::
      (StrEnum.value tier).toList :: after → ¬ GroupLike after

theorem tier_ne_family (tier : CriticalityTier) (family : AnomalyFamily) :
    (StrEnum.value tier).toList ≠ (StrEnum.value family).toList := by
  cases tier <;> cases family <;> decide

theorem family_ne_group (family : AnomalyFamily) (name : List Char) :
    (StrEnum.value family).toList ≠ "group:".toList ++ name := by
  intro h
  have hhead := congrArg List.head? h
  cases family <;> exact absurd hhead (by simp [StrEnum.value])

/-- **Tail lemma**: under such names the topic ends where it was joined, however the segments
after it are read. -/
theorem Unambiguous.topic_of_tail (h : i.Unambiguous) {topic : List (List Char)}
    {family : AnomalyFamily} {tier : CriticalityTier} {group : List (List Char)} (hne : topic ≠ [])
    (hgroup : GroupLike group)
    (heq : i.tail = topic ++ (StrEnum.value family).toList :: (StrEnum.value tier).toList :: group) :
    topic = split '/' i.topic := by
  rcases List.append_eq_append_iff.mp heq with ⟨z, htopic, hrest⟩ | ⟨z, htopic, hrest⟩
  · -- a longer topic would take a family and a tier from the group
    match z with
    | [] => rw [htopic, List.append_nil]
    | [x] =>
      obtain ⟨-, hrest⟩ := List.cons_eq_cons.mp hrest
      exact absurd (List.cons_eq_cons.mp hrest).1 (tier_ne_family _ _)
    | x :: y :: before =>
      obtain ⟨-, hrest⟩ := List.cons_eq_cons.mp hrest
      obtain ⟨-, hrest⟩ := List.cons_eq_cons.mp hrest
      exact absurd hgroup (h.group before family tier group hrest)
  · -- a shorter one would leave a group inside the topic
    match z with
    | [] => rw [htopic, List.append_nil]
    | [x] =>
      obtain ⟨-, hrest⟩ := List.cons_eq_cons.mp hrest
      exact absurd (List.cons_eq_cons.mp hrest).1 (tier_ne_family _ _)
    | x :: y :: w =>
      obtain ⟨hx, hrest⟩ := List.cons_eq_cons.mp hrest
      obtain ⟨hy, hrest⟩ := List.cons_eq_cons.mp hrest
      rw [← hx, ← hy] at htopic
      rcases hgroup with rfl | ⟨name, rest, rfl⟩
      · exact absurd hrest.symm (by simp)
      · cases w with
        | nil => exact absurd (List.cons_eq_cons.mp hrest).1.symm (family_ne_group _ _)
        | cons v after =>
          obtain ⟨rfl, -⟩ := List.cons_eq_cons.mp hrest
          exact absurd (h.topic topic family tier name after htopic) hne

/-- No later segment is read as the role. -/
theorem Unambiguous.role_of_tail (h : i.Unambiguous) (r : Reading) (before : List (List Char)) :
    i.tail ≠ before ++ (StrEnum.value r.role).toList :: r.tail := by
  intro heq
  have htail : i.tail = (before ++ (StrEnum.value r.role).toList :: r.topic) ++
      (StrEnum.value r.family).toList :: (StrEnum.value r.tier).toList :: r.group := by
    rw [heq, Reading.tail, List.append_assoc]
    rfl
  have htopic := h.topic_of_tail (by simp) r.group_like htail
  exact r.nonempty.2.2 (h.role before r.role r.topic htopic.symm)

/-- Such names are read in one way only. -/
theorem Unambiguous.reading_unique (h : i.Unambiguous) {r : Reading}
    (hr : r.segments = i.reading.segments) : r = i.reading := by
  have hsegments : r.segments = i.clusterId.toList :: i.streamId.toList ::
      (StrEnum.value i.topicRole).toList :: i.tail := by
    rw [hr, Reading.segments]
    simp only [reading, split_of_notMem h.cluster, split_of_notMem h.stream]
    rfl
  obtain ⟨cluster, stream, role, topic, family, tier, group, ⟨hcluster, hstream, htopic⟩, hgroup⟩ := r
  have hdeep := h.role_of_tail
    ⟨cluster, stream, role, topic, family, tier, group, ⟨hcluster, hstream, htopic⟩, hgroup⟩
  cases cluster with
  | nil => exact absurd rfl hcluster
  | cons a as =>
  cases stream with
  | nil => exact absurd rfl hstream
  | cons b bs =>
  simp only [Reading.segments, List.cons_append, List.cons_eq_cons] at hsegments
  obtain ⟨rfl, hsegments⟩ := hsegments
  -- the cluster is one segment, and so is the stream
  match as, bs with
  | [], [] =>
    simp only [List.nil_append, List.cons_eq_cons] at hsegments
    obtain ⟨rfl, hrole, htail⟩ := hsegments
    obtain rfl : role = i.topicRole := StrEnum.injective _ _ (String.toList_inj.mp hrole)
    have htopic' := h.topic_of_tail htopic hgroup htail.symm
    subst htopic'
    have hrest := List.append_cancel_left htail
    obtain ⟨hfamily, hrest⟩ := List.cons_eq_cons.mp hrest
    obtain ⟨htier, hrest⟩ := List.cons_eq_cons.mp hrest
    obtain rfl := StrEnum.injective _ _ (String.toList_inj.mp hfamily)
    obtain rfl := StrEnum.injective _ _ (String.toList_inj.mp htier)
    obtain rfl : group = groupSegments i.consumerGroup := hrest
    simp only [reading, split_of_notMem h.cluster, split_of_notMem h.stream]
  | [], c :: cs =>
    simp only [List.nil_append, List.cons_append, List.cons_eq_cons] at hsegments
    exact absurd hsegments.2.2.symm (hdeep cs)
  | [c], bs =>
    simp only [List.cons_append, List.nil_append, List.cons_eq_cons] at hsegments
    exact absurd hsegments.2.2.symm (hdeep bs)
  | c :: d :: ds, bs =>
    simp only [List.cons_append, List.cons_eq_cons] at hsegments
    refine absurd hsegments.2.2.symm ?_
    rw [← List.cons_append, ← List.append_assoc]
    exact hdeep (ds ++ b :: bs)

/-- Names that are read in one way only are such. -/
theorem unambiguous_of_unique
    (h : ∀ r : Reading, r.segments = i.reading.segments → r = i.reading) : i.Unambiguous := by
  obtain ⟨hcluster, hstream, htopic⟩ := i.reading.nonempty
  constructor
  · -- the last segment of the cluster could be the first of the stream
    rw [← length_split]
    obtain hnil | ⟨init, x, hsplit⟩ := List.eq_nil_or_concat (split '/' i.clusterId)
    · exact absurd hnil hcluster
    by_contra hlong
    have hinit : init ≠ [] := by
      rintro rfl
      exact hlong (congrArg List.length hsplit)
    have hr := h { i.reading with
      cluster := init
      stream := x :: i.reading.stream
      nonempty := ⟨hinit, List.cons_ne_nil _ _, htopic⟩ } (by
        simp only [Reading.segments, Reading.tail, reading, hsplit, List.concat_eq_append,
          List.append_assoc, List.cons_append, List.nil_append])
    have hlength := congrArg (fun r => r.cluster.length) hr
    simp [reading, hsplit] at hlength
  · -- the first segment of the stream could be the last of the cluster
    rw [← length_split]
    cases hsplit : split '/' i.streamId with
    | nil => exact absurd hsplit hstream
    | cons x rest =>
      by_contra hlong
      have hrest : rest ≠ [] := by
        rintro rfl
        exact hlong rfl
      have hr := h { i.reading with
        cluster := i.reading.cluster ++ [x]
        stream := rest
        nonempty := ⟨by simp, hrest, htopic⟩ } (by
          simp only [Reading.segments, Reading.tail, reading, hsplit, List.append_assoc,
            List.cons_append, List.nil_append])
      have hlength := congrArg (fun r => r.cluster.length) hr
      simp [reading] at hlength
  · -- a later role could be the role
    intro before role after hsplit
    by_contra hafter
    have hr := h { i.reading with
      stream := i.reading.stream ++ (StrEnum.value i.topicRole).toList :: before
      role := role
      topic := after
      nonempty := ⟨hcluster, by simp, hafter⟩ } (by
        simp only [Reading.segments, Reading.tail, reading, hsplit, List.append_assoc,
          List.cons_append])
    have hlength := congrArg (fun r => r.topic.length) hr
    simp only [reading, hsplit, List.length_append, List.length_cons] at hlength
    omega
  · -- a group inside the topic could be the group
    intro before family tier name after hsplit
    by_contra hbefore
    have hr := h { i.reading with
      topic := before
      family := family
      tier := tier
      group := ("group:".toList ++ name) :: (after ++ (StrEnum.value i.anomalyFamily).toList ::
        (StrEnum.value i.criticalityTier).toList :: groupSegments i.consumerGroup)
      nonempty := ⟨hcluster, hstream, hbefore⟩
      group_like := .inr ⟨name, _, rfl⟩ } (by
        simp only [Reading.segments, Reading.tail, reading, hsplit, List.append_assoc,
          List.cons_append])
    have hlength := congrArg (fun r => r.topic.length) hr
    simp only [reading, hsplit, List.length_append, List.length_cons] at hlength
    omega
  · -- a family and a tier inside the group could be the family and the tier
    intro before family tier after hsplit hafter
    have hr := h { i.reading with
      topic := split '/' i.topic ++ (StrEnum.value i.anomalyFamily).toList ::
        (StrEnum.value i.criticalityTier).toList :: before
      family := family
      tier := tier
      group := after
      nonempty := ⟨hcluster, hstream, by simp⟩
      group_like := hafter } (by
        simp only [Reading.segments, Reading.tail, reading, hsplit, List.append_assoc,
          List.cons_append])
    have hlength := congrArg (fun r => r.topic.length) hr
    simp only [reading, List.length_append, List.length_cons] at hlength
    omega

/-- **Uniqueness**: a fingerprint belongs to one action exactly when its names leave no choice. -/
theorem fingerprint_unique_iff :
    (∀ i' : ActionIdentity, i'.fingerprint = i.fingerprint → i' = i) ↔ i.Unambiguous :=
  unique_iff_reading.trans ⟨unambiguous_of_unique, fun h _ => h.reading_unique⟩

/-- Names without slashes do. -/
theorem unambiguous_of_noSlash (hcluster : '/' ∉ i.clusterId.toList)
    (hstream : '/' ∉ i.streamId.toList) (htopic : '/' ∉ i.topic.toList)
    (hgroup : (groupSegments i.consumerGroup).length ≤ 1) : i.Unambiguous := by
  have hone : (split '/' i.topic).length = 1 := length_split.mpr htopic
  refine ⟨hcluster, hstream, ?_, ?_, ?_⟩
  · intro before role after h
    rw [h, List.length_append, List.length_cons] at hone
    exact List.length_eq_zero_iff.mp (by omega)
  · intro before family tier name after h
    rw [h, List.length_append, List.length_cons, List.length_cons] at hone
    omega
  · intro before family tier after h
    rw [h, List.length_append, List.length_cons, List.length_cons] at hgroup
    omega

end ActionIdentity

section Collected

variable [Platform]

/-- What `collect_gate_inputs_by_scope` can produce. -/
def Collected (g : GateInputV1) : Prop :=
  ∃ evidenceOutput peakOutput contextByScope maxSafeAction collected, ∃ entry ∈ collected,
    collectGateInputsByScope evidenceOutput peakOutput contextByScope maxSafeAction =
      .ok collected ∧ g ∈ entry.2

/-- Its fingerprint is that of its names. -/
theorem Collected.actionFingerprint_eq {g : GateInputV1} (h : Collected g) :
    g.actionFingerprint = g.actionIdentity.fingerprint := by
  obtain ⟨evidenceOutput, peakOutput, contextByScope, maxSafeAction, result, entry, hentry, h, hg⟩ := h
  obtain ⟨collected, hcollected, h⟩ := Except.bind_eq_ok.mp h
  cases h
  obtain ⟨⟨scope, findings⟩, -, hsource⟩ :=
    (Except.mapM_eq_ok.mp hcollected).exists_of_mem_right (List.mem_filter.mp hentry).1
  unfold collectScopeGateInputs at hsource
  simp only at hsource
  split at hsource
  · cases hsource
  obtain ⟨topic, -, hsource⟩ := Except.bind_eq_ok.mp hsource
  obtain ⟨env, -, hsource⟩ := Except.bind_eq_ok.mp hsource
  obtain ⟨gateInputs, hgateInputs, hsource⟩ := Except.bind_eq_ok.mp hsource
  cases hsource
  obtain ⟨finding, -, hfinding⟩ := (Except.mapM_eq_ok.mp hgateInputs).exists_of_mem_right hg
  obtain ⟨family, -, hfinding⟩ := Except.bind_eq_ok.mp hfinding
  obtain ⟨key, -, hfinding⟩ := Except.bind_eq_ok.mp hfinding
  obtain ⟨confidence, -, hfinding⟩ := Except.bind_eq_ok.mp hfinding
  cases hfinding
  rfl

namespace ActionIdentity

/-- The scope of an action. -/
def scope (i : ActionIdentity) : Scope :=
  match i.consumerGroup with
  | none => [StrEnum.value i.env, i.clusterId, i.topic]
  | some group => [StrEnum.value i.env, i.clusterId, group, i.topic]

/-- A finding of its family. -/
def finding (i : ActionIdentity) : Finding where
  findingId := "f"
  name := StrEnum.value i.anomalyFamily
  isAnomalous := true
  evidenceRequired := []
  allowedNonPresentStatusesByEvidence := .empty
  isPrimary := none
  severity := none
  reasonCodes := []
  allowances_ok := rfl

/-- An evidence stage that found it. -/
def evidenceOutput (i : ActionIdentity) : EvidenceStageOutput where
  rows := []
  gateFindingsByScope := Dict.empty.set i.scope [i.finding]

/-- What the topology stage knows of it. -/
def contextByScope (i : ActionIdentity) : Dict Scope GateInputContext :=
  Dict.empty.set i.scope
    { streamId := i.streamId, topicRole := i.topicRole, criticalityTier := i.criticalityTier }

/-- Every action is that of a gate input which can be produced. -/
theorem exists_collected (i : ActionIdentity) : ∃ g, Collected g ∧ g.actionIdentity = i := by
  have hresolve : resolveContextForScope i.scope i.contextByScope = some
      { streamId := i.streamId, topicRole := i.topicRole, criticalityTier := i.criticalityTier } := by
    simp only [resolveContextForScope, resolveScopeMapping, contextByScope, Dict.get?_set, if_pos]
  have hfamily : anomalyFamilyFromGateFindingName i.finding.name = .ok i.anomalyFamily :=
    anomalyFamilyFromGateFindingName_eq_ok.mpr (upper_strip_family _).symm
  have hconfidence : validateConfidence (.finite 0) = .ok ⟨0, le_refl _, zero_le_one⟩ := rfl
  have hcollect : ∃ g, collectScopeGateInputs i.evidenceOutput {} i.contextByScope none
      (i.scope, [i.finding]) = .ok (i.scope, [g]) ∧ g.actionIdentity = i := by
    unfold collectScopeGateInputs
    simp only [hresolve]
    obtain ⟨env, clusterId, streamId, topicRole, topic, family, tier, group⟩ := i
    -- the two shapes of a scope are read alike
    cases group <;>
      simp only [scope, topicFromScope, environmentOf, List.headD_cons, StrEnum.ofValue?_value,
        List.mapM_cons, List.mapM_nil, gateInputOf, hfamily, sustainedIdentityKey, hconfidence,
        Except.ok_bind] <;>
      exact ⟨_, rfl, rfl⟩
  obtain ⟨g, hg, hi⟩ := hcollect
  refine ⟨g, ⟨i.evidenceOutput, {}, i.contextByScope, none, [(i.scope, [g])], (i.scope, [g]),
    List.mem_singleton_self _, ?_, List.mem_singleton_self _⟩, hi⟩
  have hsole : i.evidenceOutput.gateFindingsByScope.entries.insertionSort
      (fun a b => a.1 ≤ b.1) = [(i.scope, [i.finding])] := rfl
  rw [collectGateInputsByScope, hsole, List.mapM_cons, hg]
  rfl

end ActionIdentity

/-- **Action fingerprints**: the fingerprint of a gate input is that of no other action exactly
when the names of its action leave no choice where one of them ends and the next begins. -/
theorem fingerprint_identifies_iff {g : GateInputV1} (hg : Collected g) :
    (∀ g', Collected g' → g'.actionFingerprint = g.actionFingerprint →
      g'.actionIdentity = g.actionIdentity) ↔ g.actionIdentity.Unambiguous := by
  rw [← ActionIdentity.fingerprint_unique_iff]
  constructor
  · intro h i' hfingerprint
    obtain ⟨g', hg', rfl⟩ := i'.exists_collected
    exact h g' hg' (by rw [hg'.actionFingerprint_eq, hg.actionFingerprint_eq, hfingerprint])
  · intro h g' hg' hfingerprint
    rw [hg'.actionFingerprint_eq, hg.actionFingerprint_eq] at hfingerprint
    exact h _ hfingerprint

end Collected

/-- A drop in the volume of a topic whose cluster has a slash in its name. -/
def slashInCluster : ActionIdentity where
  env := .prod
  clusterId := "eu/west"
  streamId := "orders"
  topicRole := .source
  topic := "orders.raw"
  anomalyFamily := .volumeDrop
  criticalityTier := .tier0
  consumerGroup := none

/-- The same of another cluster, whose stream has one. -/
def slashInStream : ActionIdentity :=
  { slashInCluster with clusterId := "eu", streamId := "west/orders" }

/-- The first one without the slash. -/
def withoutSlash : ActionIdentity := { slashInCluster with clusterId := "eu-west" }

theorem fingerprint_identifies_iff_without_slash :
    ∃ g, @Collected (asciiPlatform []) g ∧ g.actionIdentity = withoutSlash ∧
      ∀ g', @Collected (asciiPlatform []) g' → g'.actionFingerprint = g.actionFingerprint →
        g'.actionIdentity = g.actionIdentity := by
  obtain ⟨g, hg, hi⟩ := @ActionIdentity.exists_collected (asciiPlatform []) withoutSlash
  refine ⟨g, hg, hi, (@fingerprint_identifies_iff (asciiPlatform []) g hg).mpr ?_⟩
  rw [hi]
  exact ActionIdentity.unambiguous_of_noSlash (by decide) (by decide) (by decide) (by decide)

/-- Two clusters share a fingerprint. -/
theorem fingerprint_shared :
    ∃ g g', @Collected (asciiPlatform []) g ∧ @Collected (asciiPlatform []) g' ∧
      g.actionIdentity = slashInCluster ∧ g'.actionIdentity = slashInStream ∧
      g.actionFingerprint = g'.actionFingerprint ∧ g.actionIdentity ≠ g'.actionIdentity := by
  obtain ⟨g, hg, hi⟩ := @ActionIdentity.exists_collected (asciiPlatform []) slashInCluster
  obtain ⟨g', hg', hi'⟩ := @ActionIdentity.exists_collected (asciiPlatform []) slashInStream
  refine ⟨g, g', hg, hg', hi, hi', ?_, ?_⟩
  · rw [@Collected.actionFingerprint_eq (asciiPlatform []) g hg,
      @Collected.actionFingerprint_eq (asciiPlatform []) g' hg', hi, hi']
    decide +kernel
  · rw [hi, hi']
    decide

end AiopsTriage
