import AiopsTriage.Integrations.ServiceNow
import AiopsTriage.Lib.CheckThenAct

/-!
# Concurrent and repeated upserts

Upserts of one external id look up and write at different times. A `POST` that follows
another one's after its own lookup makes a second record, and so does every further `POST` of
an id that holds the separator, because the lookup asks for another text than the one
posted; what it finds is a record of another id, which a `PATCH` then takes over. A `POST`
whose answer was lost does no harm: the next lookup finds its record.

The number of records that carry the id never falls, and grows with each write that
gives it to one more record (`carriers_run`). So there is at most one exactly when every
`POST`, and every `PATCH` of a record of another id, takes effect while no record carries the
id (`upserts_at_most_one_iff`). For an id without the separator only the `POST`s matter
(`keepsToOne_plain`).
-/

namespace AiopsTriage

open CheckThenAct

/-- One completed upsert. -/
abbrev UpsertDone := Done SnTable (Except String (List SysId)) UpsertCall ServiceNowUpsertResult

/-- The state of the upserts on one table. -/
abbrev UpsertState (ι : Type) :=
  State SnTable (Except String (List SysId)) UpsertCall ServiceNowUpsertResult ι

/-- The upsert found no record and its `POST` took effect. -/
def Posts (d : UpsertDone) : Prop :=
  d.seen.bind extractExistingSysId = .ok none ∧ d.arg.fate.tookEffect = true

/-- The upsert found a record and its `PATCH` took effect. -/
def Patches (d : UpsertDone) (sysId : SysId) : Prop :=
  d.seen.bind extractExistingSysId = .ok (some sysId) ∧ d.arg.fate.tookEffect = true

/-- Whether a write gives the id to a record that does not carry it. -/
def givesId (id : String) (fate : WriteFate) (existing : Except String (Option SysId))
    (table : SnTable) : Bool :=
  fate.tookEffect &&
    match existing with
    | .ok none => true
    | .ok (some sysId) => (table.get? sysId).any (· ≠ id)
    | .error _ => false

/-- Whether the write of an upsert gave the id to a record that did not carry it. -/
def gains (id : String) (d : UpsertDone) : Bool :=
  givesId id d.arg.fate (d.seen.bind extractExistingSysId) d.before

/-- At most one record carries the id. -/
def AtMostOneRecord (id : String) (table : SnTable) : Prop := (carriers id table).length ≤ 1

/-! ## One upsert -/

section Write

variable {server : SysIdSource} {id : String} {fate : WriteFate}
  {existing : Except String (Option SysId)} {table : SnTable}

/-- A write leaves the table alone or sets the id of one record. -/
theorem upsertTable_cases :
    upsertTable server id fate existing table = table ∨
      ∃ sysId, upsertTable server id fate existing table = table.set sysId id := by
  unfold upsertTable WriteFate.apply
  split
  · exact .inl rfl
  · split
    · exact .inr ⟨server.next table, rfl⟩
    · exact .inl rfl
  · next sysId =>
    split
    · split
      · exact .inr ⟨sysId, rfl⟩
      · exact .inl rfl
    · exact .inl rfl

/-- What gives the id to a record: a `POST`, or a `PATCH` of a record of another id. -/
theorem gains_iff {d : UpsertDone} :
    gains id d = true ↔ Posts d ∨
      ∃ sysId other, Patches d sysId ∧ d.before.get? sysId = some other ∧ other ≠ id := by
  simp only [gains, givesId, Posts, Patches, Bool.and_eq_true]
  cases hexisting : d.seen.bind extractExistingSysId with
  | error e => simp
  | ok found =>
    cases found with
    | none => simp
    | some sysId =>
      rw [Option.any_eq_true]
      constructor
      · rintro ⟨heffect, other, hget, hother⟩
        exact .inr ⟨sysId, other, ⟨rfl, heffect⟩, hget, of_decide_eq_true hother⟩
      · rintro (⟨hnone, -⟩ | ⟨sysId', other, ⟨hsome, heffect⟩, hget, hother⟩)
        · cases hnone
        · cases hsome
          exact ⟨heffect, other, hget, decide_eq_true hother⟩

/-- **One write** adds a record that carries the id exactly when it gives it to one. -/
theorem length_carriers_upsertTable :
    (carriers id (upsertTable server id fate existing table)).length =
      (carriers id table).length + (givesId id fate existing table).toNat := by
  rcases existing with error | found
  · simp [upsertTable, givesId]
  · cases heffect : fate.tookEffect with
    | false => cases found <;> simp [upsertTable, givesId, WriteFate.apply, heffect]
    | true =>
      cases found with
      | none =>
        -- the server names the new record
        simp [upsertTable, givesId, WriteFate.apply, heffect, carriers, Dict.length_keysOf_set,
          server.fresh]
      | some sysId =>
        cases hget : table.get? sysId with
        | none => simp [upsertTable, givesId, WriteFate.apply, hget]
        | some old =>
          by_cases hold : old = id
          · simp [upsertTable, givesId, WriteFate.apply, heffect, hget, carriers,
              Dict.length_keysOf_set, hold]
          · simp [upsertTable, givesId, WriteFate.apply, heffect, hget, carriers,
              Dict.length_keysOf_set, hold]

end Write

section Protocol

variable [Platform]

/-- `_upsert_record` in its two halves. -/
def upsertProtocol (server : SysIdSource) (contract : UpsertContract) (key : UpsertKey) :
    Protocol SnTable (Except String (List SysId)) UpsertCall ServiceNowUpsertResult where
  check call table := upsertGet contract key.externalId call table
  act call seen table :=
    let existing := seen.bind extractExistingSysId
    (upsertTable server key.externalId call.fate existing table,
      upsertAnswer contract key call existing)

variable (server : SysIdSource) (contract : UpsertContract) (key : UpsertKey)

/-- One upsert of a run. -/
theorem carriers_perform (call : UpsertCall) (seen : Except String (List SysId))
    (table : SnTable) :
    (carriers key.externalId
        ((upsertProtocol server contract key).perform call seen table).after).length =
      (carriers key.externalId table).length + (gains key.externalId
        ((upsertProtocol server contract key).perform call seen table)).toNat :=
  length_carriers_upsertTable

/-! ## Runs -/

variable {server : SysIdSource} {contract : UpsertContract} {key : UpsertKey}
variable {ι : Type} [DecidableEq ι] {table : SnTable} {s : UpsertState ι}
  {ls : List (Label ι UpsertCall)}

/-- **Run lemma**: the records that carry the id are those at the start and those gained,
and no upsert ever saw more of them than there are at the end. -/
theorem carriers_run
    (hrun : Runs.run (upsertProtocol server contract key).step (Protocol.start table) ls = some s) :
    (carriers key.externalId s.cell).length =
        (carriers key.externalId table).length + s.log.countP (gains key.externalId) ∧
      ∀ d ∈ s.log, (carriers key.externalId d.after).length ≤
        (carriers key.externalId s.cell).length := by
  refine Runs.run_inv (I := fun s : UpsertState ι =>
    (carriers key.externalId s.cell).length =
        (carriers key.externalId table).length + s.log.countP (gains key.externalId) ∧
      ∀ d ∈ s.log, (carriers key.externalId d.after).length ≤
        (carriers key.externalId s.cell).length) ?_ hrun ?_
  · rintro t l t' ⟨hcount, hgrown⟩ hstep
    cases l with
    | check i call =>
      obtain ⟨hcell, hlog, -⟩ := Protocol.step_check hstep
      rw [hcell, hlog]
      exact ⟨hcount, hgrown⟩
    | act i call =>
      obtain ⟨seen, -, hcell, hlog, -⟩ := Protocol.step_act hstep
      have hperform := carriers_perform server contract key call seen t.cell
      rw [hcell, hlog]
      refine ⟨?_, fun d hd => ?_⟩
      · rw [hperform, hcount, List.countP_append, List.countP_singleton, Nat.add_assoc]
        cases gains key.externalId
          ((upsertProtocol server contract key).perform call seen t.cell) <;> rfl
      · rcases List.mem_append.mp hd with hd | hd
        · have := hgrown d hd
          omega
        · rw [List.mem_singleton.mp hd]
  · exact ⟨rfl, by simp [Protocol.start]⟩

/-- An id without the separator is looked up as it is posted. -/
theorem upsertLookup_plain (hplain : '^' ∉ key.externalId.toList) (table : SnTable) :
    upsertLookup contract key.externalId table =
      (carriers key.externalId table).take contract.maxUpsertLookupResults := by
  rw [upsertLookup, escapeQueryValue_eq_self.mpr hplain]

/-- What a lookup of such an id finds carries the id. -/
theorem get?_of_upsertGet (hplain : '^' ∉ key.externalId.toList) {call : UpsertCall}
    {table : SnTable} {found : List SysId}
    (h : upsertGet contract key.externalId call table = .ok found) :
    ∀ k ∈ found, table.get? k = some key.externalId := by
  intro k hk
  unfold upsertGet at h
  split at h
  · cases h
    rw [upsertLookup_plain hplain] at hk
    exact Dict.mem_keysOf.mp (List.mem_of_mem_take hk)
  · split at h
    · cases h
      cases hk
    · cases h

/-- **Run lemma**: for an id without the separator, only a `POST` gives it to a record. -/
theorem posts_of_gains (hplain : '^' ∉ key.externalId.toList)
    (hrun : Runs.run (upsertProtocol server contract key).step (Protocol.start table) ls = some s) :
    ∀ d ∈ s.log, gains key.externalId d = true → Posts d := by
  -- what a pending lookup found keeps the id, since every write sets that one
  refine (Runs.run_inv (I := fun s : UpsertState ι =>
    (∀ i found, s.pending i = some (.ok found) →
        ∀ k ∈ found, s.cell.get? k = some key.externalId) ∧
      ∀ d ∈ s.log, gains key.externalId d = true → Posts d) ?_ hrun ?_).2
  · rintro t l t' ⟨hpending, hlog⟩ hstep
    cases l with
    | check i call =>
      obtain ⟨hcell, hsame, hnew⟩ := Protocol.step_check hstep
      rw [hcell, hsame]
      refine ⟨fun j found hj => ?_, hlog⟩
      rw [hnew, Function.update_apply] at hj
      split at hj
      · exact get?_of_upsertGet hplain (Option.some.inj hj)
      · exact hpending j found hj
    | act i call =>
      obtain ⟨seen, hseen, hcell, hgrown, hnew⟩ := Protocol.step_act hstep
      refine ⟨fun j found hj k hk => ?_, fun d hd hgains => ?_⟩
      · rw [hnew, Function.update_apply] at hj
        split at hj
        · cases hj
        · have hk' := hpending j found hj k hk
          rw [hcell]
          simp only [Protocol.perform, upsertProtocol]
          have hcases : let existing := seen.bind extractExistingSysId
              upsertTable server key.externalId call.fate existing t.cell = t.cell ∨
                ∃ sysId, upsertTable server key.externalId call.fate existing t.cell =
                  t.cell.set sysId key.externalId :=
            upsertTable_cases
          rcases hcases with hafter | ⟨sysId, hafter⟩
          · rw [hafter]
            exact hk'
          · rw [hafter, Dict.get?_set]
            split
            · rfl
            · exact hk'
      · rw [hgrown, List.mem_append, List.mem_singleton] at hd
        rcases hd with hd | rfl
        · exact hlog d hd hgains
        · simp only [gains, givesId, Bool.and_eq_true, Protocol.perform] at hgains
          obtain ⟨heffect, hgains⟩ := hgains
          refine ⟨?_, heffect⟩
          show seen.bind extractExistingSysId = .ok none
          rcases seen with error | found
          · cases hgains
          · rcases found with _ | ⟨k, _ | ⟨k', found⟩⟩
            · rfl
            · have hk := hpending i [k] hseen k (List.mem_singleton_self k)
              simp [Except.bind, extractExistingSysId, hk] at hgains
            · cases hgains
  · refine ⟨fun i found hi => ?_, fun d hd => ?_⟩
    · cases hi
    · cases hd

/-- **Run lemma**: when every gain is on a table without a record that carries the id, one
record at most does. -/
theorem one_of_gains
    (hrun : Runs.run (upsertProtocol server contract key).step (Protocol.start table) ls = some s)
    (hstart : AtMostOneRecord key.externalId table)
    (hgains : ∀ d ∈ s.log, gains key.externalId d = true →
      (carriers key.externalId d.before).length = 0) : AtMostOneRecord key.externalId s.cell := by
  refine Runs.run_inv (I := fun s : UpsertState ι =>
    (∀ d ∈ s.log, gains key.externalId d = true →
      (carriers key.externalId d.before).length = 0) → AtMostOneRecord key.externalId s.cell)
    ?_ hrun (fun _ => hstart) hgains
  intro t l t' ht hstep
  cases l with
  | check i call =>
    obtain ⟨hcell, hlog, -⟩ := Protocol.step_check hstep
    rw [hcell, hlog]
    exact ht
  | act i call =>
    obtain ⟨seen, -, hcell, hlog, -⟩ := Protocol.step_act hstep
    intro hall
    rw [hlog] at hall
    have hone : (carriers key.externalId t.cell).length ≤ 1 :=
      ht fun d hd => hall d (List.mem_append_left _ hd)
    have hlast := hall _ (List.mem_append_right _ (List.mem_singleton_self _))
    rw [AtMostOneRecord, hcell, carriers_perform]
    cases hgain : gains key.externalId
        ((upsertProtocol server contract key).perform call seen t.cell) with
    | false => exact hone
    | true =>
      have hzero : (carriers key.externalId t.cell).length = 0 := hlast hgain
      rw [hzero]
      rfl

/-- A run keeps to one record: whatever gives the id to a record takes effect while no record
carries it. -/
structure KeepsToOne (id : String) (log : List UpsertDone) : Prop where
  /-- each `POST` does -/
  posts : ∀ d ∈ log, Posts d → carriers id d.before = []
  /-- and each `PATCH` of a record of another id -/
  patches : ∀ d ∈ log, ∀ sysId other, Patches d sysId → d.before.get? sysId = some other →
    other ≠ id → carriers id d.before = []

omit [Platform] in
theorem keepsToOne_iff {id : String} {log : List UpsertDone} :
    KeepsToOne id log ↔ ∀ d ∈ log, gains id d = true → (carriers id d.before).length = 0 := by
  constructor
  · intro h d hd hgain
    rw [List.length_eq_zero_iff]
    rcases gains_iff.mp hgain with hposts | ⟨sysId, other, hpatches, hget, hother⟩
    · exact h.posts d hd hposts
    · exact h.patches d hd sysId other hpatches hget hother
  · intro h
    refine ⟨fun d hd hposts => ?_, fun d hd sysId other hpatches hget hother => ?_⟩
    · exact List.length_eq_zero_iff.mp (h d hd (gains_iff.mpr (.inl hposts)))
    · exact List.length_eq_zero_iff.mp
        (h d hd (gains_iff.mpr (.inr ⟨sysId, other, hpatches, hget, hother⟩)))

/-- **Plain ids**: for an id without the separator only the `POST`s matter, each of which has to
take effect while a lookup still finds nothing. -/
theorem keepsToOne_plain (hplain : '^' ∉ key.externalId.toList)
    (hrun : Runs.run (upsertProtocol server contract key).step (Protocol.start table) ls = some s) :
    KeepsToOne key.externalId s.log ↔
      ∀ d ∈ s.log, Posts d → upsertLookup contract key.externalId d.before = [] := by
  have hlookup : ∀ t : SnTable, upsertLookup contract key.externalId t = [] ↔
      carriers key.externalId t = [] := by
    intro t
    have hlimit := contract.lookup_ok.1
    rw [upsertLookup_plain hplain, List.take_eq_nil_iff]
    exact or_iff_right (by omega)
  constructor
  · exact fun h d hd hposts => (hlookup d.before).mpr (h.posts d hd hposts)
  · intro h
    rw [keepsToOne_iff]
    intro d hd hgain
    rw [List.length_eq_zero_iff, ← hlookup]
    exact h d hd (posts_of_gains hplain hrun d hd hgain)

/-- **Upserts.** After any interleaving of upserts of one Problem or PIR task, with any fate
of their requests, at most one record carries its external id exactly when the run keeps
to one. -/
theorem upserts_at_most_one_iff (hstart : AtMostOneRecord key.externalId table)
    (hrun : Runs.run (upsertProtocol server contract key).step (Protocol.start table) ls = some s) :
    AtMostOneRecord key.externalId s.cell ↔ KeepsToOne key.externalId s.log := by
  rw [keepsToOne_iff]
  refine ⟨fun hone d hd hgain => ?_, one_of_gains hrun hstart⟩
  -- the write leaves one record more, and so does the run
  have hadd := carriers_perform server contract key d.arg d.seen d.before
  rw [← Protocol.log_performed hrun d hd, hgain, Bool.toNat_true] at hadd
  have hle := ((carriers_run hrun).2 d hd).trans hone
  omega

end Protocol

/-! ## Two upserts of one Problem -/

/-- A server that names each record by a letter and all the names so far. -/
def longerSysIds : SysIdSource where
  next table := ⟨String.ofList ('r' :: (table.keys.map fun k => k.val.toList).flatten), by
    intro h
    simpa using congrArg String.toList h⟩
  fresh table := by
    refine Dict.find_eq_none.mpr fun hmem => ?_
    have hsub := List.sublist_flatten_of_mem
      (List.mem_map_of_mem (f := fun k : SysId => k.val.toList) hmem)
    have hle := hsub.length_le
    rw [String.toList_ofList, List.length_cons] at hle
    exact absurd hle (Nat.not_succ_le_self _)

/-- An upsert whose requests are answered. -/
def answeredUpsert : UpsertCall := ⟨"req-1", none, .answered (some "r")⟩

/-- Both upserts look up before either writes. -/
def bothSearchFirst : List (Label Bool UpsertCall) :=
  [.check false answeredUpsert, .check true answeredUpsert, .act false answeredUpsert,
    .act true answeredUpsert]

/-- Two upserts, one after the other, of which the first write has a fate. -/
def oneAfterAnother (fate : WriteFate) : List (Label Bool UpsertCall) :=
  [.check false answeredUpsert, .act false { answeredUpsert with fate }, .check true answeredUpsert,
    .act true answeredUpsert]

/-- One upsert after the other. -/
def oneUpsertAfterTheOther : List (Label Bool UpsertCall) := oneAfterAnother answeredUpsert.fate

/-- Two upserts that look up at once create two records; and for a case whose name holds the
separator two upserts do so one after the other. -/
theorem upserts_create_two :
    let := asciiPlatform []
    (∃ s, Runs.run (upsertProtocol longerSysIds {} (.problem "case-1" "pd-1")).step
        (Protocol.start Dict.empty) bothSearchFirst = some s ∧
      ¬ AtMostOneRecord (UpsertKey.problem "case-1" "pd-1").externalId s.cell) ∧
    ∃ s, Runs.run (upsertProtocol longerSysIds {} (.problem "case^1" "pd-1")).step
        (Protocol.start Dict.empty) oneUpsertAfterTheOther = some s ∧
      ¬ AtMostOneRecord (UpsertKey.problem "case^1" "pd-1").externalId s.cell := by
  intro _
  have hrace : (Runs.run (upsertProtocol longerSysIds {} (.problem "case-1" "pd-1")).step
      (Protocol.start Dict.empty) bothSearchFirst).map
        (fun s => (carriers (UpsertKey.problem "case-1" "pd-1").externalId s.cell).length) =
          some 2 := by decide +kernel
  have hcaret : (Runs.run (upsertProtocol longerSysIds {} (.problem "case^1" "pd-1")).step
      (Protocol.start Dict.empty) oneUpsertAfterTheOther).map
        (fun s => (carriers (UpsertKey.problem "case^1" "pd-1").externalId s.cell).length) =
          some 2 := by decide +kernel
  obtain ⟨s, hs, htwo⟩ := Option.map_eq_some_iff.mp hrace
  obtain ⟨s', hs', htwo'⟩ := Option.map_eq_some_iff.mp hcaret
  refine ⟨⟨s, hs, ?_⟩, s', hs', ?_⟩
  · rw [AtMostOneRecord, htwo]
    decide
  · rw [AtMostOneRecord, htwo']
    decide

/-- Two runs that keep to one record. The second upsert of a plain case finds the record of the
first, whose answer was lost; and of a case whose name holds the separator the first write is
refused. -/
theorem upserts_at_most_one_case1 :
    let := asciiPlatform []
    (∃ s, Runs.run (upsertProtocol longerSysIds {} (.problem "case-1" "pd-1")).step
        (Protocol.start Dict.empty) (oneAfterAnother (.lost "timed out")) = some s ∧
      KeepsToOne (UpsertKey.problem "case-1" "pd-1").externalId s.log) ∧
    ∃ s, Runs.run (upsertProtocol longerSysIds {} (.problem "case^1" "pd-1")).step
        (Protocol.start Dict.empty) (oneAfterAnother (.refused "timed out")) = some s ∧
      KeepsToOne (UpsertKey.problem "case^1" "pd-1").externalId s.log := by
  intro _
  have hempty : ∀ id, AtMostOneRecord id Dict.empty := fun _ => Nat.zero_le 1
  have hplain : (Runs.run (upsertProtocol longerSysIds {} (.problem "case-1" "pd-1")).step
      (Protocol.start Dict.empty) (oneAfterAnother (.lost "timed out"))).map
        (fun s => (carriers (UpsertKey.problem "case-1" "pd-1").externalId s.cell).length) =
          some 1 := by decide +kernel
  have hcaret : (Runs.run (upsertProtocol longerSysIds {} (.problem "case^1" "pd-1")).step
      (Protocol.start Dict.empty) (oneAfterAnother (.refused "timed out"))).map
        (fun s => (carriers (UpsertKey.problem "case^1" "pd-1").externalId s.cell).length) =
          some 1 := by decide +kernel
  obtain ⟨s, hs, hone⟩ := Option.map_eq_some_iff.mp hplain
  obtain ⟨s', hs', hone'⟩ := Option.map_eq_some_iff.mp hcaret
  exact ⟨⟨s, hs, (upserts_at_most_one_iff (hempty _) hs).mp hone.le⟩,
    s', hs', (upserts_at_most_one_iff (hempty _) hs').mp hone'.le⟩

end AiopsTriage
