import AiopsTriage.Lib.Runs
import AiopsTriage.Platform
import Mathlib.Logic.Function.Basic

/-!
# Reloading the topology registry

`TopologyRegistryLoader` keeps a snapshot of the registry file and reloads it when the
modification time of the file is no longer that of the snapshot. A load reads the file,
canonicalises what it read and only then asks for the modification time, so a rewrite
that lands in between pairs the old content with the new time, and no later
`reload_if_changed` sees a difference (`reload_sticks`).

Here the steps of any number of calls alternate with rewrites of the file. In a run
whose installs are current, every `reload_if_changed` that no rewrite came in between
leaves the registry of the file's content (`reload_not_stale`). What canonicalisation
makes of a content is a parameter.
-/

namespace AiopsTriage

variable {Content Registry : Type} {canonicalize : Content → Except Failure Registry}

/-- A registry file with valid content. -/
structure RegistryFile (canonicalize : Content → Except Failure Registry) where
  /-- its content -/
  content : Content
  /-- its modification time, in nanoseconds -/
  mtime : Int
  /-- what the content means -/
  registry : Registry
  /-- the content is valid -/
  valid : canonicalize content = .ok registry

/-- `TopologyRegistrySnapshot`, with the part of its metadata that a reload compares. -/
structure RegistrySnapshot (Registry : Type) where
  /-- the canonical registry -/
  registry : Registry
  /-- `source_mtime_ns` -/
  sourceMtime : Int
  deriving DecidableEq, Repr

/-- Where a call is. A reload carries the number of rewrites there had been when it
started; a `load` carries none. -/
inductive ReloadPhase (Content Registry : Type) where
  /-- no call is under way -/
  | idle
  /-- a reload is about to look at the snapshot -/
  | looking (since : Nat)
  /-- a reload has seen the modification time of the snapshot -/
  | looked (since : Nat) (mtime : Int)
  /-- the file is about to be read -/
  | reading (since : Option Nat)
  /-- the content is read -/
  | canonicalizing (since : Option Nat) (content : Content)
  /-- the content is canonicalised -/
  | statting (since : Option Nat) (registry : Registry)
  /-- the new snapshot is complete -/
  | installing (since : Option Nat) (registry : Registry) (mtime : Int)
  deriving DecidableEq

/-- The registry and the time that a call is about to install. -/
def ReloadPhase.complete? : ReloadPhase Content Registry → Option (Registry × Int)
  | .installing _ registry mtime => some (registry, mtime)
  | _ => none

/-- A `reload_if_changed` that has completed. -/
structure ReloadDone (canonicalize : Content → Except Failure Registry) where
  /-- the rewrites before it started -/
  since : Nat
  /-- the rewrites before it completed -/
  version : Nat
  /-- the active registry when it completed -/
  active : Option Registry
  /-- the file then -/
  file : RegistryFile canonicalize

/-- One step of a writer or of a call. -/
inductive ReloadStep (ι : Type) (canonicalize : Content → Except Failure Registry) where
  /-- the file is rewritten -/
  | write (file : RegistryFile canonicalize)
  /-- call `i` is a `load` -/
  | load (i : ι)
  /-- call `i` is a `reload_if_changed` -/
  | reload (i : ι)
  /-- a reload looks at the snapshot -/
  | look (i : ι)
  /-- a reload compares modification times, or a load takes that of its snapshot -/
  | stat (i : ι)
  /-- a load reads the file -/
  | read (i : ι)
  /-- a load canonicalises what it read -/
  | canonicalize (i : ι)
  /-- a load installs its snapshot -/
  | install (i : ι)

/-- The file, the snapshot and where the calls are. -/
structure ReloadState (ι : Type) (canonicalize : Content → Except Failure Registry) where
  /-- the file as it is -/
  file : RegistryFile canonicalize
  /-- the modification times the file has had -/
  mtimes : List Int
  /-- the number of rewrites -/
  version : Nat
  /-- the active snapshot -/
  snapshot : Option (RegistrySnapshot Registry)
  /-- where each call is -/
  phase : ι → ReloadPhase Content Registry
  /-- the reloads that have completed -/
  log : List (ReloadDone canonicalize)

namespace ReloadState

variable {ι : Type} [DecidableEq ι]

/-- Nothing is loaded yet. -/
def start (file : RegistryFile canonicalize) : ReloadState ι canonicalize where
  file := file
  mtimes := [file.mtime]
  version := 0
  snapshot := none
  phase _ := .idle
  log := []

/-- The state with call `i` moved to a phase. -/
def moved (s : ReloadState ι canonicalize) (i : ι) (p : ReloadPhase Content Registry) :
    ReloadState ι canonicalize :=
  { s with phase := Function.update s.phase i p }

/-- The entry of a reload that completes in the state. -/
def entry (s : ReloadState ι canonicalize) (since : Nat) : ReloadDone canonicalize where
  since := since
  version := s.version
  active := s.snapshot.map RegistrySnapshot.registry
  file := s.file

/-- Call `i` completes. -/
def finish (s : ReloadState ι canonicalize) (i : ι) (since : Option Nat) :
    ReloadState ι canonicalize :=
  { s.moved i .idle with log := s.log ++ since.toList.map s.entry }

/-- The state with a new snapshot. -/
def installed (s : ReloadState ι canonicalize) (snapshot : RegistrySnapshot Registry) :
    ReloadState ι canonicalize :=
  { s with snapshot := some snapshot }

/-- One step. A rewrite has a modification time the file has not had before. -/
def step (s : ReloadState ι canonicalize) :
    ReloadStep ι canonicalize → Option (ReloadState ι canonicalize)
  | .write file =>
    if file.mtime ∈ s.mtimes then none
    else some { s with
      file := file
      mtimes := file.mtime :: s.mtimes
      version := s.version + 1 }
  | .load i =>
    match s.phase i with
    | .idle => some (s.moved i (.reading none))
    | _ => none
  | .reload i =>
    match s.phase i with
    | .idle => some (s.moved i (.looking s.version))
    | _ => none
  | .look i =>
    match s.phase i with
    | .looking since =>
      match s.snapshot with
      | none => some (s.moved i (.reading (some since)))
      | some current => some (s.moved i (.looked since current.sourceMtime))
    | _ => none
  | .stat i =>
    match s.phase i with
    | .looked since mtime =>
      if s.file.mtime = mtime then some (s.finish i (some since))
      else some (s.moved i (.reading (some since)))
    | .statting since registry => some (s.moved i (.installing since registry s.file.mtime))
    | _ => none
  | .read i =>
    match s.phase i with
    | .reading since => some (s.moved i (.canonicalizing since s.file.content))
    | _ => none
  | .canonicalize i =>
    match s.phase i with
    | .canonicalizing since content =>
      match canonicalize content with
      | .ok registry => some (s.moved i (.statting since registry))
      | .error _ => some (s.finish i since)
    | _ => none
  | .install i =>
    match s.phase i with
    | .installing since registry mtime =>
      some ((s.installed ⟨registry, mtime⟩).finish i since)
    | _ => none

/-- An install is current: what it installs is what the content of the file means, or else
its modification time is not that of the file and no reload that started after the last rewrite
has seen the time of the file in the snapshot it replaces. -/
def InstallsCurrent (s : ReloadState ι canonicalize) : ReloadStep ι canonicalize → Prop
  | .install i => ∀ registry mtime, (s.phase i).complete? = some (registry, mtime) →
      registry = s.file.registry ∨
        (mtime ≠ s.file.mtime ∧ ∀ j, s.phase j ≠ .looked s.version s.file.mtime)
  | _ => True

/-- Whether an install is current can be read off the phases. -/
instance [Fintype ι] [DecidableEq Content] [DecidableEq Registry]
    (s : ReloadState ι canonicalize) : (l : ReloadStep ι canonicalize) →
      Decidable (s.InstallsCurrent l)
  | .install i => decidable_of_iff (∀ new ∈ (s.phase i).complete?, new.1 = s.file.registry ∨
        (new.2 ≠ s.file.mtime ∧ ∀ j, s.phase j ≠ .looked s.version s.file.mtime))
      ⟨fun h _ _ hnew => h _ hnew, fun h _ hnew => h _ _ hnew⟩
  | .write _ | .load _ | .reload _ | .look _ | .stat _ | .read _ | .canonicalize _ => .isTrue trivial

/-! ## Runs of current installs -/

/-- What a call may hold in a phase: modification times the file has had, and, when the
file is not rewritten any more since the reload started, its content or what it means. -/
def PhaseSound (s : ReloadState ι canonicalize) : ReloadPhase Content Registry → Prop
  | .idle => True
  | .looking since => since ≤ s.version
  | .looked since mtime => since ≤ s.version ∧ mtime ∈ s.mtimes ∧
      (since = s.version → mtime = s.file.mtime →
        s.snapshot.map RegistrySnapshot.registry = some s.file.registry)
  | .reading since => ∀ v ∈ since, v ≤ s.version
  | .canonicalizing since content => ∀ v ∈ since, v ≤ s.version ∧
      (v = s.version → content = s.file.content)
  | .statting since registry => ∀ v ∈ since, v ≤ s.version ∧
      (v = s.version → registry = s.file.registry)
  | .installing since registry mtime => mtime ∈ s.mtimes ∧ ∀ v ∈ since, v ≤ s.version ∧
      (v = s.version → registry = s.file.registry)

/-- What a run of current installs keeps: a snapshot with the modification time of the file
is what the file means, and every reload that met no rewrite left that. -/
structure Fresh (s : ReloadState ι canonicalize) : Prop where
  /-- each call holds what it may -/
  phases : ∀ i, s.PhaseSound (s.phase i)
  /-- the snapshot is not stale under the time of the file -/
  snapshot : ∀ c, s.snapshot = some c → c.sourceMtime ∈ s.mtimes ∧
    (c.sourceMtime = s.file.mtime → c.registry = s.file.registry)
  /-- the file has had the time it has -/
  current : s.file.mtime ∈ s.mtimes
  /-- the reloads so far -/
  logged : ∀ d ∈ s.log, d.since = d.version → d.active = some d.file.registry

variable {s s' : ReloadState ι canonicalize} {i : ι} {p : ReloadPhase Content Registry}

theorem phase_moved {j : ι} : (s.moved i p).phase j = if j = i then p else s.phase j :=
  Function.update_apply s.phase i p j

omit [DecidableEq ι] in
theorem fresh_start (file : RegistryFile canonicalize) :
    Fresh (start file : ReloadState ι canonicalize) := by
  constructor <;> simp [start, PhaseSound]

/-- A call may move to what it may hold. -/
theorem Fresh.moved (hs : Fresh s) (hp : s.PhaseSound p) : Fresh (s.moved i p) := by
  refine ⟨fun j => ?_, hs.snapshot, hs.current, hs.logged⟩
  rw [phase_moved]
  split
  · exact hp
  · exact hs.phases j

/-- A call may complete when the active snapshot is what a reload without rewrites is to
leave. -/
theorem Fresh.finish {since : Option Nat} (hs : Fresh s)
    (hactive : ∀ v ∈ since, v = s.version →
      s.snapshot.map RegistrySnapshot.registry = some s.file.registry) :
    Fresh (s.finish i since) := by
  have hmoved : Fresh (s.moved i .idle) := hs.moved trivial
  refine ⟨hmoved.phases, hmoved.snapshot, hmoved.current, fun d hd => ?_⟩
  rcases List.mem_append.mp hd with hd | hd
  · exact hs.logged d hd
  · obtain ⟨v, hv, rfl⟩ := List.mem_map.mp hd
    exact hactive v (Option.mem_toList.mp hv)

omit [DecidableEq ι] in
/-- A rewrite makes every snapshot and every step of a reload one of an older file. -/
theorem Fresh.written {file : RegistryFile canonicalize} (hs : Fresh s)
    (hnew : file.mtime ∉ s.mtimes) :
    Fresh { s with
      file := file
      mtimes := file.mtime :: s.mtimes
      version := s.version + 1 } := by
  have hold : ∀ {m : Int}, m ∈ s.mtimes → m ≠ file.mtime := by
    rintro m hm rfl
    exact hnew hm
  refine ⟨fun j => ?_, fun c hc => ?_, List.mem_cons_self, hs.logged⟩
  · have hphase := hs.phases j
    change PhaseSound _ (s.phase j)
    cases hj : s.phase j with
    | idle => trivial
    | looking since =>
      rw [hj] at hphase
      exact Nat.le_succ_of_le hphase
    | looked since mtime =>
      rw [hj] at hphase
      exact ⟨Nat.le_succ_of_le hphase.1, List.mem_cons_of_mem _ hphase.2.1,
        fun _ h => absurd h (hold hphase.2.1)⟩
    | reading since =>
      rw [hj] at hphase
      exact fun v hv => Nat.le_succ_of_le (hphase v hv)
    | canonicalizing since content =>
      rw [hj] at hphase
      exact fun v hv => ⟨Nat.le_succ_of_le (hphase v hv).1,
        fun h => absurd (hphase v hv).1 (by rw [h]; exact Nat.not_succ_le_self _)⟩
    | statting since registry =>
      rw [hj] at hphase
      exact fun v hv => ⟨Nat.le_succ_of_le (hphase v hv).1,
        fun h => absurd (hphase v hv).1 (by rw [h]; exact Nat.not_succ_le_self _)⟩
    | installing since registry mtime =>
      rw [hj] at hphase
      exact ⟨List.mem_cons_of_mem _ hphase.1, fun v hv =>
        ⟨Nat.le_succ_of_le (hphase.2 v hv).1,
          fun h => absurd (hphase.2 v hv).1 (by rw [h]; exact Nat.not_succ_le_self _)⟩⟩
  · obtain ⟨hmem, -⟩ := hs.snapshot c hc
    exact ⟨List.mem_cons_of_mem _ hmem, fun h => absurd h (hold hmem)⟩

omit [DecidableEq ι] in
/-- A current install keeps the calls and the snapshot sound. -/
theorem Fresh.installed {registry : Registry} {mtime : Int} (hs : Fresh s)
    (hmtime : mtime ∈ s.mtimes)
    (hcurrent : registry = s.file.registry ∨
      (mtime ≠ s.file.mtime ∧ ∀ j, s.phase j ≠ .looked s.version s.file.mtime)) :
    Fresh (s.installed ⟨registry, mtime⟩) := by
  refine ⟨fun j => ?_, fun c hc => ?_, hs.current, hs.logged⟩
  · have hphase := hs.phases j
    change PhaseSound _ (s.phase j)
    cases hj : s.phase j with
    | looked since mtime' =>
      rw [hj] at hphase
      rcases hcurrent with rfl | ⟨-, hnone⟩
      · exact ⟨hphase.1, hphase.2.1, fun _ _ => rfl⟩
      · refine ⟨hphase.1, hphase.2.1, ?_⟩
        rintro rfl rfl
        exact absurd hj (hnone j)
    | _ =>
      rw [hj] at hphase
      exact hphase
  · cases hc
    refine ⟨hmtime, fun h => ?_⟩
    rcases hcurrent with hsame | ⟨hne, -⟩
    · exact hsame
    · exact absurd h hne

/-- **Step lemma**: a rewrite, and a step of a call whose installs are current. -/
theorem Fresh.step {l : ReloadStep ι canonicalize} (hs : Fresh s) (hl : s.InstallsCurrent l)
    (h : s.step l = some s') : Fresh s' := by
  cases l with
  | write file =>
    simp only [ReloadState.step] at h
    split at h
    · cases h
    · next hnew =>
      cases h
      exact hs.written hnew
  | load i =>
    simp only [ReloadState.step] at h
    split at h
    · cases h
      exact hs.moved (by simp [PhaseSound])
    · cases h
  | reload i =>
    simp only [ReloadState.step] at h
    split at h
    · cases h
      exact hs.moved le_rfl
    · cases h
  | look i =>
    simp only [ReloadState.step] at h
    split at h
    · next since hlooking =>
      have hphase := hs.phases i
      rw [hlooking] at hphase
      split at h
      · cases h
        exact hs.moved (by simpa [PhaseSound] using hphase)
      · next current hsnapshot =>
        cases h
        obtain ⟨hmem, hsame⟩ := hs.snapshot current hsnapshot
        refine hs.moved ⟨hphase, hmem, fun _ hmtime => ?_⟩
        rw [hsnapshot, Option.map_some, hsame hmtime]
    · cases h
  | stat i =>
    simp only [ReloadState.step] at h
    split at h
    · next since mtime hlooked =>
      have hphase := hs.phases i
      rw [hlooked] at hphase
      split at h
      · next hsame =>
        -- the file still has the time of the snapshot
        cases h
        refine hs.finish fun v hv hquiet => ?_
        cases hv
        exact hphase.2.2 hquiet hsame.symm
      · cases h
        exact hs.moved (by simpa [PhaseSound] using hphase.1)
    · next since registry hstatting =>
      have hphase := hs.phases i
      rw [hstatting] at hphase
      cases h
      exact hs.moved ⟨hs.current, hphase⟩
    · cases h
  | read i =>
    simp only [ReloadState.step] at h
    split at h
    · next since hreading =>
      have hphase := hs.phases i
      rw [hreading] at hphase
      cases h
      exact hs.moved fun v hv => ⟨hphase v hv, fun _ => rfl⟩
    · cases h
  | canonicalize i =>
    simp only [ReloadState.step] at h
    split at h
    · next since content hcontent =>
      have hphase := hs.phases i
      rw [hcontent] at hphase
      split at h
      · next registry hregistry =>
        cases h
        refine hs.moved fun v hv => ⟨(hphase v hv).1, fun hv' => ?_⟩
        rw [(hphase v hv).2 hv', s.file.valid] at hregistry
        exact (Except.ok.inj hregistry).symm
      · next e herror =>
        -- only content that was overwritten can be invalid here, and none is
        cases h
        refine hs.finish fun v hv hv' => ?_
        rw [(hphase v hv).2 hv', s.file.valid] at herror
        cases herror
    · cases h
  | install i =>
    simp only [ReloadState.step] at h
    split at h
    · next since registry mtime hinstalling =>
      have hphase := hs.phases i
      rw [hinstalling] at hphase
      cases h
      refine (hs.installed hphase.1 (hl registry mtime (by rw [hinstalling]; rfl))).finish
        fun v hv hv' => ?_
      exact congrArg some ((hphase.2 v hv).2 hv')
    · cases h

end ReloadState

open ReloadState

/-- **Registry reload.** In a run whose every install is current, every `reload_if_changed`
that no rewrite came in between left the canonicalisation of the file's content as the
active registry. -/
theorem reload_not_stale {ι : Type} [DecidableEq ι] {file : RegistryFile canonicalize}
    {s : ReloadState ι canonicalize} {ls : List (ReloadStep ι canonicalize)}
    (hrun : Runs.run ReloadState.step (start file) ls = some s)
    (hP : Runs.Along ReloadState.step InstallsCurrent (start file) ls) :
    ∀ d ∈ s.log, d.since = d.version →
      ∃ registry, d.active = some registry ∧ canonicalize d.file.content = .ok registry := by
  have hfresh : Fresh s :=
    Runs.run_inv_along (I := Fresh) (fun _ _ _ hs hl h => Fresh.step hs hl h) hP hrun
      (fresh_start file)
  intro d hd hquiet
  exact ⟨d.file.registry, hfresh.logged d hd hquiet, d.file.valid⟩

/-! ## A rewrite between the read and the second stat -/

/-- A file of the canonicalisation that keeps every text. -/
def plainFile (content : String) (mtime : Int) : RegistryFile (Except.ok : String → _) where
  content := content
  mtime := mtime
  registry := content
  valid := rfl

/-- The first load. -/
def firstLoad : List (ReloadStep Unit (Except.ok : String → Except Failure String)) :=
  [.load (), .read (), .canonicalize (), .stat (), .install ()]

/-- A rewrite is reloaded, and another one lands after its content is read. -/
def tornReload : List (ReloadStep Unit (Except.ok : String → Except Failure String)) :=
  [.write (plainFile "b" 2), .reload (), .look (), .stat (), .read (), .canonicalize (),
    .write (plainFile "c" 3), .stat (), .install ()]

/-- A reload that finds the file unchanged. -/
def idleReload : List (ReloadStep Unit (Except.ok : String → Except Failure String)) :=
  [.reload (), .look (), .stat ()]

/-- The snapshot has the time of the last rewrite and the content of the one before, so the
next reload leaves it, and so does each one after. -/
theorem reload_sticks :
    ∃ s, Runs.run ReloadState.step (start (plainFile "a" 1))
        (firstLoad ++ tornReload ++ idleReload) = some s ∧
      ∃ d ∈ s.log, d.since = d.version ∧ d.active = some "b" ∧ d.file.content = "c" ∧
        ¬ ∃ registry, d.active = some registry ∧
          (Except.ok d.file.content : Except Failure String) = .ok registry := by
  refine ⟨_, rfl, _, List.mem_append_right _ (List.mem_singleton_self _), rfl, rfl, rfl, ?_⟩
  rintro ⟨registry, hactive, hcontent⟩
  cases hactive
  exact absurd (Except.ok.inj hcontent) (by decide)

/-- Nothing is torn here, but a `load` installs the older snapshot after a reload has seen the time of
the file in the newer one. -/
def overtaken : List (ReloadStep Bool (Except.ok : String → Except Failure String)) :=
  [.load true, .read true, .canonicalize true, .stat true, .write (plainFile "b" 2),
    .reload false, .look false, .read false, .canonicalize false, .stat false, .install false,
    .reload false, .look false, .install true, .stat false]

example : (Runs.run ReloadState.step (start (plainFile "a" 1)) overtaken).map
    (fun s => s.log.map fun d => (d.since, d.version, d.active)) =
      some [(1, 1, some "b"), (1, 1, some "a")] := rfl

/-- A rewrite is reloaded, and another one lands before the snapshot is installed, but after its
modification time is taken; that one is reloaded by the next call, and a third one between two calls
by the one after. -/
def rewritesReloaded : List (ReloadStep Unit (Except.ok : String → Except Failure String)) :=
  [.write (plainFile "b" 2), .reload (), .look (), .stat (), .read (), .canonicalize (), .stat (),
    .write (plainFile "c" 3), .install (),
    .reload (), .look (), .stat (), .read (), .canonicalize (), .stat (), .install (),
    .write (plainFile "d" 4),
    .reload (), .look (), .stat (), .read (), .canonicalize (), .stat (), .install ()]

/-- The first reload met a rewrite and leaves `b`; those that met none leave what the file means
then. -/
theorem reload_not_stale_plain :
    ∃ s, Runs.run ReloadState.step (start (plainFile "a" 1))
        (firstLoad ++ rewritesReloaded ++ idleReload) = some s ∧
      (∀ d ∈ s.log, d.since = d.version →
        ∃ registry, d.active = some registry ∧
          (Except.ok d.file.content : Except Failure String) = .ok registry) ∧
      s.log.map (fun d => (d.since, d.version, d.active)) =
        [(1, 2, some "b"), (2, 2, some "c"), (3, 3, some "d"), (3, 3, some "d")] := by
  obtain ⟨s, hs, hlog⟩ : ∃ s, Runs.run ReloadState.step (start (plainFile "a" 1))
      (firstLoad ++ rewritesReloaded ++ idleReload) = some s ∧
      s.log.map (fun d => (d.since, d.version, d.active)) =
        [(1, 2, some "b"), (2, 2, some "c"), (3, 3, some "d"), (3, 3, some "d")] := ⟨_, rfl, rfl⟩
  exact ⟨s, hs, reload_not_stale hs (by decide +kernel), hlog⟩

end AiopsTriage
