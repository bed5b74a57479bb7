import AiopsTriage.Diagnosis.Chain
import AiopsTriage.Lib.JsonNull

/-!
# Sealed files and tampering

The hash of a stage file is blind to its own field, and finalizing puts the right one there
(`StageModel.computeHash_withHash`, `StageModel.stageHash_finalize`). Whether a later change
shows is a question of the bytes that are hashed: it does exactly when no other record with the
same hash field has the same ones (`StageModel.sealsSoundly_iff`). A diagnosis, linkage or labels
file can be read back from its bytes, so every change shows. The bytes of a triage file hold
`null` for `None`, for infinities and for not-a-number alike. So every change of it shows exactly
when none of these is in it where another of them is valid too: no infinity and no not-a-number
among its typed floats, and none of the three in its decision basis (`casefile_seals_iff`).
-/

namespace AiopsTriage

open Json

/-! ## Digests -/

theorem hexByte_inj : ∀ {b c : Fin 256}, hexByte b = hexByte c → b = c := by
  have hdigit : ∀ m < 16, ∀ n < 16, Nat.digitChar m = Nat.digitChar n → m = n := by decide
  intro b c h
  obtain ⟨hhigh, h⟩ := List.cons.inj h
  obtain ⟨hlow, -⟩ := List.cons.inj h
  have hhigh := hdigit _ (by omega) _ (by omega) hhigh
  have hlow := hdigit _ (by omega) _ (by omega) hlow
  exact Fin.ext (by omega)

/-- A digest is read off its hex text. -/
theorem hexDigest_inj {d e : Digest} (h : hexDigest d = hexDigest e) : d = e := by
  have hlist : ∀ bs cs : List (Fin 256), bs.flatMap hexByte = cs.flatMap hexByte → bs = cs := by
    intro bs
    induction bs with
    | nil =>
      intro cs h
      cases cs with
      | nil => rfl
      | cons c cs => cases h
    | cons b bs ih =>
      intro cs h
      cases cs with
      | nil => cases h
      | cons c cs =>
        rw [List.flatMap_cons, List.flatMap_cons] at h
        obtain ⟨hhead, htail⟩ := List.append_inj h rfl
        rw [hexByte_inj hhead, ih cs htail]
  have htext := congrArg String.toList h
  rw [hexDigest, hexDigest, String.toList_ofList, String.toList_ofList] at htext
  exact Vector.toList_inj.mp (hlist _ _ htext)

/-! ## Seals -/

namespace StageModel

variable {α : Type} (M : StageModel α) [Platform]

/-- `has_valid_casefile_*_hash`. -/
def hasValidHash (a : α) : Bool := decide (M.stageHash a = M.computeHash a)

/-- The canonical bytes, which the hash is taken of. -/
def hashedBytes (a : α) : Bytes := M.serialize (M.withHash a hashPlaceholder)

/-- SHA-256 does not collide on the bytes of two records. -/
def NoCollision (a b : α) : Prop :=
  Platform.sha256 (M.hashedBytes a) = Platform.sha256 (M.hashedBytes b) →
    M.hashedBytes a = M.hashedBytes b

/-- Finalizing a record seals it against changes. -/
structure SealsSoundly (a : α) : Prop where
  /-- the hash does not depend on the one that is stored -/
  blind : ∀ h, M.computeHash (M.withHash a h) = M.computeHash a
  /-- storing it makes the check succeed -/
  valid : M.hasValidHash (M.finalize a) = true
  /-- and changing any other field makes it fail -/
  changed : ∀ b, M.stageHash b = M.stageHash (M.finalize a) → b ≠ M.finalize a →
    M.NoCollision b (M.finalize a) → M.hasValidHash b = false

variable {M}

theorem hasValidHash_finalize (a : α) : M.hasValidHash (M.finalize a) = true :=
  decide_eq_true (stageHash_finalize a)

/-- Every change shows exactly when no other record has the same hash field and the same
canonical bytes. -/
theorem sealsSoundly_iff {a : α} :
    M.SealsSoundly a ↔ ∀ b, M.stageHash b = M.stageHash (M.finalize a) →
      M.hashedBytes b = M.hashedBytes (M.finalize a) → b = M.finalize a := by
  constructor
  · intro hseals b hhash hbytes
    by_contra hne
    have hinvalid := hseals.changed b hhash hne fun _ => hbytes
    have hcompute : M.computeHash b = M.computeHash (M.finalize a) := congrArg sha256Hex hbytes
    rw [hasValidHash, hhash, hcompute, ← hasValidHash, hasValidHash_finalize] at hinvalid
    cases hinvalid
  · intro honly
    refine ⟨computeHash_withHash a, hasValidHash_finalize a, ?_⟩
    intro b hhash hne hcollision
    refine decide_eq_false fun hvalid => hne (honly b hhash (hcollision ?_))
    have hcompute : M.computeHash b = M.computeHash (M.finalize a) :=
      hvalid.symm.trans (hhash.trans (stageHash_finalize a))
    exact hexDigest_inj (congrArg Subtype.val hcompute)

omit [Platform] in
/-- JSON text keeps the hash field. -/
theorem wired_withHash_stageHash (a : α) : M.withHash (M.wired a) (M.stageHash a) = M.wired a := by
  rw [← M.wired_withHash, M.withHash_stageHash]

omit [Platform] in
/-- The canonical bytes of a sound record are read back, so they tell what JSON text makes of
it. -/
theorem wired_eq_of_hashedBytes {a b : α} (hsound : M.sound a = true)
    (hhash : M.stageHash b = M.stageHash a) (hbytes : M.hashedBytes b = M.hashedBytes a) :
    M.wired b = M.wired a := by
  have hsound' : M.sound (M.withHash a hashPlaceholder) = true :=
    (M.sound_withHash a _).trans hsound
  have htree : wire (M.codec.enc (M.withHash b hashPlaceholder)) =
      M.codec.enc (M.wired (M.withHash a hashPlaceholder)) :=
    (Bytes.json.inj hbytes).trans (M.wire_enc _ hsound')
  have hread : M.codec.dec (wire (M.codec.enc (M.withHash b hashPlaceholder))) =
      .ok (M.wired (M.withHash a hashPlaceholder)) := by
    rw [htree, M.codec.dec_enc]
  have hwired : M.wired (M.withHash b hashPlaceholder) =
      M.wired (M.withHash a hashPlaceholder) := by
    rw [M.wire_enc _ (M.sound_of_dec _ _ hread), M.codec.dec_enc] at hread
    exact Except.ok.inj hread
  rw [M.wired_withHash, M.wired_withHash] at hwired
  calc M.wired b = M.withHash (M.withHash (M.wired b) hashPlaceholder) (M.stageHash b) := by
        rw [M.withHash_withHash, wired_withHash_stageHash]
    _ = M.withHash (M.withHash (M.wired a) hashPlaceholder) (M.stageHash a) := by
        rw [hwired, hhash]
    _ = M.wired a := by rw [M.withHash_withHash, wired_withHash_stageHash]

/-- A record that JSON text does not change is sealed soundly. -/
theorem sealsSoundly_of_wired {a : α} (hsound : ∀ a, M.sound a = true)
    (hwired : ∀ a, M.wired a = a) : M.SealsSoundly a := by
  refine sealsSoundly_iff.mpr fun b hhash hbytes => ?_
  have h := wired_eq_of_hashedBytes (hsound _) hhash hbytes
  rwa [hwired, hwired] at h

end StageModel

/-! ## Triage files -/

/-- The snapshot with its infinities and not-a-numbers altered. -/
def CaseFileEvidenceSnapshot.alter (s : CaseFileEvidenceSnapshot) : CaseFileEvidenceSnapshot :=
  { s with
    rows := s.rows.map fun r => { r with value := PyFloat.alter r.value }
    peakContext := s.peakContext.map fun p => { p with confidence := PyFloat.alter p.confidence } }

theorem wire_snapshot_alter (s : CaseFileEvidenceSnapshot) :
    wire (snapshotCodec.enc s.alter) = wire (snapshotCodec.enc s) := by
  have hrow : ∀ r : EvidenceRow, wire (rowCodec.enc { r with value := PyFloat.alter r.value }) =
      wire (rowCodec.enc r) := by
    intro r
    have hvalue : wire (Codec.float.enc (PyFloat.alter r.value)) = wire (Codec.float.enc r.value) :=
      wire_float_alter _
    simp only [rowCodec, wire, wireFields, hvalue]
  have hrows : wire (rowCodec.list.enc s.alter.rows) = wire (rowCodec.list.enc s.rows) := by
    show wire (.arr (s.alter.rows.map rowCodec.enc)) = wire (.arr (s.rows.map rowCodec.enc))
    rw [wire, wire, Codec.wireItems_map, Codec.wireItems_map, CaseFileEvidenceSnapshot.alter,
      List.map_map]
    exact congrArg Json.arr (List.map_congr_left fun r _ => hrow r)
  have hpeak : wire (optPeak.enc s.alter.peakContext) = wire (optPeak.enc s.peakContext) := by
    rw [CaseFileEvidenceSnapshot.alter]
    cases s.peakContext with
    | none => rfl
    | some p =>
      have hconfidence : wire (Codec.float.enc (PyFloat.alter p.confidence)) =
          wire (Codec.float.enc p.confidence) := wire_float_alter _
      show wire (peakCodec.enc { p with confidence := PyFloat.alter p.confidence }) =
        wire (peakCodec.enc p)
      simp only [peakCodec, wire, wireFields, hconfidence]
  simp only [snapshotCodec, wire, wireFields, hrows, hpeak]
  rfl

theorem finite_of_alter {s : CaseFileEvidenceSnapshot} (h : s.alter = s) : s.finite = true := by
  have hrows : s.rows.map (fun r => { r with value := PyFloat.alter r.value }) = s.rows :=
    congrArg CaseFileEvidenceSnapshot.rows h
  have hpeak : s.peakContext.map (fun p => { p with confidence := PyFloat.alter p.confidence }) =
      s.peakContext := congrArg CaseFileEvidenceSnapshot.peakContext h
  rw [CaseFileEvidenceSnapshot.finite, Bool.and_eq_true, List.all_eq_true]
  constructor
  · intro r hr
    have hsame := List.map_inj_left.mp (hrows.trans (List.map_id _).symm) r hr
    exact PyFloat.isFinite_of_alter (congrArg EvidenceRow.value hsame)
  · cases hp : s.peakContext with
    | none => rfl
    | some p =>
      rw [hp] at hpeak
      exact PyFloat.isFinite_of_alter
        (congrArg PeakWindowContext.confidence (Option.some.inj hpeak))

/-- The gate input with its decision basis altered. -/
def GateInputV1.alter (g : GateInputV1) : GateInputV1 :=
  { g with decisionBasis := g.decisionBasis.map fun b => b.mapValues fun _ => Json.alter }

/-- Nothing in the decision basis is written as `null`. -/
def GateInputV1.basisHasNoNull (g : GateInputV1) : Bool :=
  g.decisionBasis.all fun b => b.entries.all fun e => hasNoNull e.2

theorem wire_gateInput_alter (g : GateInputV1) :
    wire (GateInputV1.codec.enc g.alter) = wire (GateInputV1.codec.enc g) := by
  rw [wire_gateInput, wire_gateInput]
  have hbasis : g.alter.wired = g.wired := by
    simp only [GateInputV1.wired, GateInputV1.alter, Option.map_map]
    cases g.decisionBasis with
    | none => rfl
    | some b =>
      have hentries : (b.mapValues fun _ => Json.alter).mapValues (fun _ => wire) =
          b.mapValues fun _ => wire := by
        refine Dict.ext_entries ?_
        simp only [Dict.mapValues, List.map_map]
        exact List.map_congr_left fun e _ => congrArg (e.1, ·) (wire_alter e.2)
      exact congrArg (fun d => { g with decisionBasis := some d }) hentries
  rw [hbasis]

theorem basisHasNoNull_of_alter {g : GateInputV1} (h : g.alter = g) : g.basisHasNoNull = true := by
  have hbasis := congrArg GateInputV1.decisionBasis h
  simp only [GateInputV1.alter] at hbasis
  rw [GateInputV1.basisHasNoNull]
  cases hb : g.decisionBasis with
  | none => rfl
  | some b =>
    rw [hb] at hbasis
    have hentries := congrArg Dict.entries (Option.some.inj hbasis)
    refine List.all_eq_true.mpr fun e he => hasNoNull_of_alter e.2 ?_
    exact congrArg Prod.snd (List.map_inj_left.mp (hentries.trans (List.map_id _).symm) e he)

/-- A gate input without `null` in its basis is the only one with its text. -/
theorem gateInput_eq_of_wired {g g' : GateInputV1} (hnull : g.basisHasNoNull = true)
    (h : g'.wired = g.wired) : g' = g := by
  have hbasis : g'.decisionBasis.map (fun b => b.mapValues fun _ => wire) =
      g.decisionBasis.map fun b => b.mapValues fun _ => wire := congrArg GateInputV1.decisionBasis h
  have hsame : g'.decisionBasis = g.decisionBasis := by
    rw [GateInputV1.basisHasNoNull] at hnull
    cases hb : g.decisionBasis with
    | none =>
      rw [hb] at hbasis
      exact Option.map_eq_none_iff.mp hbasis
    | some b =>
      rw [hb] at hbasis hnull
      obtain ⟨b', hb', hentries⟩ := Option.map_eq_some_iff.mp hbasis
      have hfields : ∀ fs gs : List (String × Json), (gs.all fun e => hasNoNull e.2) = true →
          fs.map (fun e => (e.1, wire e.2)) = gs.map (fun e => (e.1, wire e.2)) → fs = gs := by
        intro fs
        induction fs with
        | nil =>
          intro gs _ h
          exact (List.map_eq_nil_iff.mp h.symm).symm
        | cons f fs ih =>
          intro gs hall h
          cases gs with
          | nil => cases h
          | cons e gs =>
            rw [List.all_cons, Bool.and_eq_true] at hall
            obtain ⟨hhead, htail⟩ := List.cons.inj h
            obtain ⟨hkey, hvalue⟩ := Prod.mk.inj hhead
            rw [ih gs hall.2 htail, Prod.ext hkey (eq_of_wire_eq _ _ hall.1 hvalue)]
      rw [hb']
      exact congrArg some
        (Dict.ext_entries (hfields _ _ hnull (congrArg Dict.entries hentries)))
  calc g' = { g'.wired with decisionBasis := g'.decisionBasis } := rfl
    _ = { g.wired with decisionBasis := g.decisionBasis } := by rw [h, hsame]
    _ = g := rfl

section Triage

variable [Platform]

/-- The canonical bytes of a triage file do not tell infinities from not-a-number. -/
theorem hashedBytes_alter_snapshot (c : CaseFileTriageV1) :
    triageModel.hashedBytes { c with evidenceSnapshot := c.evidenceSnapshot.alter } =
      triageModel.hashedBytes c := by
  refine congrArg Bytes.json ?_
  simp only [triageModel, CaseFileTriageV1.codec, CaseFileTriageV1.fields, wire, wireFields,
    wire_snapshot_alter]

/-- Nor, in the decision basis, these from `None`. -/
theorem hashedBytes_alter_gateInput (c : CaseFileTriageV1) :
    triageModel.hashedBytes { c with gateInput := c.gateInput.alter } =
      triageModel.hashedBytes c := by
  refine congrArg Bytes.json ?_
  simp only [triageModel, CaseFileTriageV1.codec, CaseFileTriageV1.fields, wire, wireFields,
    wire_gateInput_alter]

omit [Platform] in
/-- What JSON text does to a triage file it does to the gate input. -/
theorem CaseFileTriageV1.eq_of_wired {b c : CaseFileTriageV1}
    (h : { b with gateInput := b.gateInput.wired } = { c with gateInput := c.gateInput.wired })
    (hgate : b.gateInput = c.gateInput) : b = c := by
  cases b
  cases c
  simp only [CaseFileTriageV1.mk.injEq] at h hgate ⊢
  tauto

/-- A triage file is sealed soundly exactly when its typed floats are finite and nothing in its
decision basis is written as `null`. -/
theorem triage_sealsSoundly_iff {c : CaseFileTriageV1} :
    triageModel.SealsSoundly c ↔
      c.evidenceSnapshot.finite = true ∧ c.gateInput.basisHasNoNull = true := by
  rw [StageModel.sealsSoundly_iff]
  -- the finalized file differs from the file in its hash only
  obtain ⟨f, hf⟩ : ∃ f, triageModel.finalize c = f := ⟨_, rfl⟩
  have hsnapshot : f.evidenceSnapshot = c.evidenceSnapshot := hf ▸ rfl
  have hinput : f.gateInput = c.gateInput := hf ▸ rfl
  rw [hf, ← hsnapshot, ← hinput]
  constructor
  · intro honly
    constructor
    · have hsame := honly { f with evidenceSnapshot := f.evidenceSnapshot.alter } rfl
        (hashedBytes_alter_snapshot f)
      exact finite_of_alter (congrArg CaseFileTriageV1.evidenceSnapshot hsame)
    · have hsame := honly { f with gateInput := f.gateInput.alter } rfl
        (hashedBytes_alter_gateInput f)
      exact basisHasNoNull_of_alter (congrArg CaseFileTriageV1.gateInput hsame)
  · rintro ⟨hfinite, hnull⟩ b hhash hbytes
    have hwired : triageModel.wired b = triageModel.wired f :=
      StageModel.wired_eq_of_hashedBytes hfinite hhash hbytes
    have hgate : b.gateInput.wired = f.gateInput.wired :=
      congrArg CaseFileTriageV1.gateInput hwired
    exact CaseFileTriageV1.eq_of_wired hwired (gateInput_eq_of_wired hnull hgate)

/-- What is written as `null` in the decision basis of a finalized file can be altered. -/
theorem exists_unnoticed {c : CaseFileTriageV1} (h : c.gateInput.basisHasNoNull = false) :
    ∃ b, b ≠ triageModel.finalize c ∧
      triageModel.stageHash b = triageModel.stageHash (triageModel.finalize c) ∧
      b.gateInput = c.gateInput.alter ∧ triageModel.hasValidHash b = true := by
  have hvalid := @StageModel.stageHash_finalize _ triageModel _ c
  obtain ⟨f, hf⟩ : ∃ f, triageModel.finalize c = f := ⟨_, rfl⟩
  have hinput : f.gateInput = c.gateInput := hf ▸ rfl
  rw [hf] at hvalid ⊢
  rw [← hinput] at h ⊢
  refine ⟨{ f with gateInput := f.gateInput.alter }, ?_, rfl, rfl, decide_eq_true ?_⟩
  · intro hsame
    have hnull := basisHasNoNull_of_alter (congrArg CaseFileTriageV1.gateInput hsame)
    rw [hnull] at h
    cases h
  · exact hvalid.trans (congrArg sha256Hex (hashedBytes_alter_gateInput f)).symm

/-- **Seals.** Every diagnosis, linkage and labels file is sealed soundly, and a triage file
exactly when its evidence values and its peak confidence are finite and its decision basis holds
no `None`, no infinity and no not-a-number at any depth. -/
theorem casefile_seals_iff :
    (∀ c, diagnosisModel.SealsSoundly c) ∧ (∀ c, linkageModel.SealsSoundly c) ∧
      (∀ c, labelsModel.SealsSoundly c) ∧
      ∀ c : CaseFileTriageV1, triageModel.SealsSoundly c ↔
        c.evidenceSnapshot.finite = true ∧ c.gateInput.basisHasNoNull = true :=
  ⟨fun _ => StageModel.sealsSoundly_of_wired (fun _ => rfl) fun _ => rfl,
    fun _ => StageModel.sealsSoundly_of_wired (fun _ => rfl) fun _ => rfl,
    fun _ => StageModel.sealsSoundly_of_wired (fun _ => rfl) fun _ => rfl,
    fun _ => triage_sealsSoundly_iff⟩

end Triage

/-- The triage file of the orders topic with a decision basis of one entry. -/
def ordersTriageWith (value : Json) : CaseFileTriageV1 :=
  { ordersTriage with gateInput :=
    { ordersTriage.gateInput with decisionBasis := some (.ofPairs [("prior", value)]) } }

/-- A finalized file whose basis holds `None`: not-a-number in its place goes unnoticed. -/
theorem casefile_change_unnoticed :
    let := asciiPlatform []
    ∃ b, b ≠ triageModel.finalize (ordersTriageWith .null) ∧
      triageModel.stageHash b =
        triageModel.stageHash (triageModel.finalize (ordersTriageWith .null)) ∧
      b.gateInput = (ordersTriageWith (.float .nan)).gateInput ∧
      triageModel.hasValidHash b = true :=
  @exists_unnoticed (asciiPlatform []) (ordersTriageWith .null) rfl

end AiopsTriage
