import CityG.Accept.Committed

/-!
# How far one anchor moves the epoch counter of its group

A verified device chain keeps the counter of an anchor within `anchor_max` of
the group's last accepted one. Joins always verify it; merges do when their
header names a device.
-/

namespace CityG

structure Acceptance where
  input : AnchorInput
  before : AcceptanceContext
  outcome : AcceptanceOutcome
  after : AcceptanceContext

def acceptances (codec : AnchorCodec) (verifiers : AnchorProofs) :
    AcceptanceContext → List AnchorInput → List Acceptance
  | _, [] => []
  | ctx, input :: rest =>
    match acceptAnchor codec verifiers input ctx with
    | .ok outcome after => ⟨input, ctx, outcome, after⟩ :: acceptances codec verifiers after rest
    | .error _ after => acceptances codec verifiers after rest

variable {codec : AnchorCodec} {verifiers : AnchorProofs} {ctx after : AcceptanceContext}
  {parts : AnchorInstanceParts} {header : HeaderMap} {mhNote : Option String} {now : Nat}
  {outcome : AcceptanceOutcome} {mhHeads : List Bytes32}

theorem acceptances_all {guard : AnchorInput → Prop} {P : Acceptance → Prop}
    (hstep : ∀ input ctx outcome after, guard input →
      acceptAnchor codec verifiers input ctx = .ok outcome after → P ⟨input, ctx, outcome, after⟩)
    (inputs : List AnchorInput) (hguard : ∀ input ∈ inputs, guard input) (ctx : AcceptanceContext) :
    ∀ a ∈ acceptances codec verifiers ctx inputs, P a := by
  induction inputs generalizing ctx with
  | nil => simp [acceptances]
  | cons input rest ih =>
    have hrest := fun next => ih (fun i hi => hguard i (List.mem_cons_of_mem _ hi)) next
    intro a ha
    rw [acceptances] at ha
    cases hrun : acceptAnchor codec verifiers input ctx with
    | error e after =>
      rw [hrun] at ha
      exact hrest after a ha
    | ok outcome after =>
      rw [hrun] at ha
      rcases List.mem_cons.mp ha with rfl | ha
      · exact hstep input ctx outcome after (hguard input List.mem_cons_self) hrun
      · exact hrest after a ha

def capView (gid : Bytes) (ctx : AcceptanceContext) : Nat × FsCaps :=
  (ctx.lastAcceptedEc gid, ctx.fsCaps)

namespace AcceptanceContext

theorem capView_modify (ctx : AcceptanceContext) (gid gid' : Bytes)
    {f : BarrierGroupState → BarrierGroupState}
    (hf : ∀ state, (f state).lastAcceptedEc = state.lastAcceptedEc) :
    capView gid' (ctx.modifyBarrierGroup gid f) = capView gid' ctx := by
  simp only [capView, lastAcceptedEc, barrierGroupStateEntry_modify]
  split
  · subst_vars
    rw [hf]
    rfl
  · rfl

theorem lastAcceptedEc_record (ctx : AcceptanceContext) (gid : Bytes) (ec : Nat) :
    (ctx.recordAcceptedEc gid ec).lastAcceptedEc gid = max (ctx.lastAcceptedEc gid) ec := by
  simp only [recordAcceptedEc, lastAcceptedEc, barrierGroupStateEntry_modify, if_true]
  split <;> omega

theorem lastAcceptedEc_checkpoint (ctx : AcceptanceContext) (gid : Bytes) {ec : Nat}
    (h : ec ≤ ctx.lastAcceptedEc gid) :
    (ctx.setLastCheckpointEc gid ec).lastAcceptedEc gid = ctx.lastAcceptedEc gid := by
  simp only [setLastCheckpointEc, lastAcceptedEc, barrierGroupStateEntry_modify, if_true]
  rw [if_neg (by simpa [lastAcceptedEc] using h)]

end AcceptanceContext

open AcceptanceContext

theorem capView_blind (gid : Bytes) : Blind (capView gid) where
  start _ := rfl
  window _ _ := rfl
  rhoGuard _ _ := rfl
  vckCache _ _ := rfl
  pivotStore _ _ := rfl
  policyVersion _ _ := rfl
  baseTs _ _ := rfl
  acceptSeq _ := rfl
  witness _ := rfl
  deviceChain _ _ _ _ := rfl
  srxRoot ctx gid' := ctx.capView_modify gid' gid fun _ => rfl

theorem verifyDeviceChainState_cap {hL : HashL} {gid : Bytes} {v : DeviceChainVerification}
    {u : Unit} (h : ctx.verifyDeviceChainState hL gid v = .ok u) :
    v.fsEc ≤ ctx.lastAcceptedEc gid + ctx.fsCaps.anchorMax := by
  simp only [verifyDeviceChainState, Except.bind_eq_ok, Except.ensure_eq_ok] at h
  obtain ⟨_, hcap, _⟩ := h
  exact hcap.trans (min_le_left _ _)

theorem applyBarrierAcceptanceCommit_capView (ctx : AcceptanceContext) (gid gid' : Bytes)
    (header : HeaderMap) (gate : Accept.BarrierGateDecision) :
    capView gid' (ctx.applyBarrierAcceptanceCommit gid header gate) = capView gid' ctx := by
  unfold applyBarrierAcceptanceCommit
  split
  · rw [(capView_blind gid').commitRefresh]
    exact ctx.capView_modify gid gid' fun _ => rfl
  · rfl

structure Advances (gid : Bytes) (before : AcceptanceContext) (outcome : AcceptanceOutcome)
    (after : AcceptanceContext) (ec : Nat) : Prop where
  fs_ec : outcome.fsEc = some ec
  last : after.lastAcceptedEc gid = max (before.lastAcceptedEc gid) ec

theorem joinCommit_advances {c : JoinChecked}
    (h : joinCommit codec parts header mhNote now c ctx = .ok outcome after) :
    Advances parts.gid ctx outcome after c.fs.fsEc := by
  simp only [joinCommit, EStateM.bind_eq_ok, EStateM.modify_eq_ok, EStateM.check_eq_ok,
    EStateM.pure_eq_ok] at h
  obtain ⟨_, _, rfl, _, _, rfl, _, window, hwindow, _, _, ⟨_, rfl⟩, _, _, ⟨_, rfl⟩, _, _, rfl, rfl,
    rfl⟩ := h
  have hkeep := congrArg Prod.fst (((capView_blind parts.gid).onWindow _).of_ok hwindow)
  exact ⟨rfl, hkeep.trans (lastAcceptedEc_record _ parts.gid c.fs.fsEc)⟩

theorem acceptAnchorJoin_advances {claim digest : Bytes32}
    (h : acceptAnchorJoin codec verifiers parts claim header mhNote digest now ctx =
      .ok outcome after) :
    ∃ ec, Advances parts.gid ctx outcome after ec ∧
      ec ≤ ctx.lastAcceptedEc parts.gid + ctx.fsCaps.anchorMax := by
  simp only [acceptAnchorJoin, EStateM.bind_eq_ok, EStateM.check_eq_ok] at h
  obtain ⟨c, checked, hchecks, _, _, ⟨hverify, rfl⟩, hcommit⟩ := h
  have hkeep := ((capView_blind parts.gid).joinChecks codec verifiers parts header claim digest
    now).of_ok hchecks
  have hec : checked.lastAcceptedEc parts.gid = ctx.lastAcceptedEc parts.gid :=
    congrArg Prod.fst hkeep
  have hcaps : checked.fsCaps = ctx.fsCaps := congrArg Prod.snd hkeep
  have hcap := verifyDeviceChainState_cap hverify
  have hadv := joinCommit_advances hcommit
  refine ⟨c.fs.fsEc, ⟨hadv.fs_ec, hec ▸ hadv.last⟩, ?_⟩
  rw [← hec, ← hcaps]
  exact hcap

theorem mergeFs_cap {fs : MergeFs} {popPk : Bytes}
    (hpop : (header.get? HDR_POP_PK).bind Value.asBytes = some popPk)
    (h : mergeFs codec parts header ctx = .ok fs after) :
    fs.fsEc ≤ after.lastAcceptedEc parts.gid + after.fsCaps.anchorMax := by
  simp only [mergeFs, EStateM.bind_eq_ok, EStateM.check_eq_ok, EStateM.pure_eq_ok] at h
  obtain ⟨_, _, _, _, _, _, _, _, _, read, _, ⟨hread, rfl⟩, _, _, ⟨hverify, rfl⟩, rfl, rfl⟩ := h
  have hfs : read.popPk = some popPk := by
    simp only [readMergeFs, Except.bind_eq_ok, Except.pure_eq_ok] at hread
    obtain ⟨_, _, _, _, _, _, _, _, _, _, _, _, _, _, _, _, _, _, rfl⟩ := hread
    exact hpop
  rw [verifyMergeDevice, hfs] at hverify
  exact verifyDeviceChainState_cap hverify

theorem checkCheckpoint_le {parities : ParityMap} {ec : Nat} {u : Unit}
    (h : checkCheckpoint parts mhHeads parities ec ctx = .ok u) :
    ec ≤ ctx.lastAcceptedEc parts.gid := by
  simp only [checkCheckpoint, Except.bind_eq_ok, Except.ensure_eq_ok] at h
  obtain ⟨_, _, _, _, _, _, _, _, hle⟩ := h
  exact hle

theorem commitSrxRoot_capView (parts : AnchorInstanceParts) (required : Bool) (root : Bytes32)
    (gid : Bytes) (ctx : AcceptanceContext) :
    capView gid (commitSrxRoot parts required root ctx) = capView gid ctx := by
  unfold commitSrxRoot
  split
  · exact ctx.capView_modify parts.gid gid fun _ => rfl
  · rfl

theorem commitMergeDevice_capView (parts : AnchorInstanceParts) (fs : MergeFs) (gid : Bytes)
    (ctx : AcceptanceContext) : capView gid (commitMergeDevice parts fs ctx) = capView gid ctx := by
  unfold commitMergeDevice
  split <;> rfl

theorem mergeCommit_advances {fs : MergeFs} {c : MergeChecked} {required : Bool} {root : Bytes32}
    (hcheckpoint : fs.fsCheckpointEc ≤ ctx.lastAcceptedEc parts.gid)
    (h : mergeCommit codec parts header mhHeads mhNote now fs c required root ctx =
      .ok outcome after) :
    Advances parts.gid ctx outcome after fs.fsEc := by
  simp only [mergeCommit, acceptMergeHead, EStateM.bind_eq_ok, EStateM.modify_eq_ok,
    EStateM.check_eq_ok, EStateM.pure_eq_ok] at h
  obtain ⟨_, window, ⟨_, _, ⟨_, rfl⟩, hwindow⟩, _, _, rfl, _, _, ⟨_, rfl⟩, _, _, ⟨_, rfl⟩, srx, _,
    ⟨_, rfl⟩, _, rooted, hrooted, _, stored, rfl, _, device, hdevice, _, _, rfl, _, _, rfl, rfl,
    rfl⟩ := h
  -- Only the last two edits touch the counter.
  have hbase : capView parts.gid device = capView parts.gid ctx := by
    calc capView parts.gid device
        = capView parts.gid rooted := hdevice ▸ commitMergeDevice_capView parts fs parts.gid _
      _ = capView parts.gid window := hrooted ▸ commitSrxRoot_capView parts required _ parts.gid _
      _ = capView parts.gid ctx := ((capView_blind parts.gid).onWindow _).of_ok hwindow
  have hec : device.lastAcceptedEc parts.gid = ctx.lastAcceptedEc parts.gid :=
    congrArg Prod.fst hbase
  refine ⟨rfl, ?_⟩
  rw [lastAcceptedEc_record, lastAcceptedEc_checkpoint device parts.gid (hec ▸ hcheckpoint), hec]

theorem acceptAnchorMerge_advances {claim : Bytes32} {popPk : Bytes}
    (hpop : (header.get? HDR_POP_PK).bind Value.asBytes = some popPk)
    (h : acceptAnchorMerge codec verifiers parts header claim mhHeads mhNote now ctx =
      .ok outcome after) :
    ∃ ec, Advances parts.gid ctx outcome after ec ∧
      ec ≤ ctx.lastAcceptedEc parts.gid + ctx.fsCaps.anchorMax := by
  simp only [acceptAnchorMerge, EStateM.bind_eq_ok, EStateM.check_eq_ok] at h
  obtain ⟨fs, read, hfs, c, checked, hchecks, _, _, ⟨hcheckpoint, rfl⟩, root, srx, hsrx, _, _,
    ⟨_, rfl⟩, _, witnessed, hwitness, hcommit⟩ := h
  have hread := ((capView_blind parts.gid).mergeFs codec parts header).of_ok hfs
  have hchecked := ((capView_blind parts.gid).mergeChecks codec parts header claim mhHeads
    now).of_ok hchecks
  have hview : capView parts.gid witnessed = capView parts.gid checked :=
    ((capView_blind parts.gid).takeWitness.of_ok hwitness).trans
      (((capView_blind parts.gid).mergeSrx codec verifiers parts header _ _ _ _ _).of_ok hsrx)
  have hle : fs.fsCheckpointEc ≤ witnessed.lastAcceptedEc parts.gid := by
    have heq : witnessed.lastAcceptedEc parts.gid = checked.lastAcceptedEc parts.gid :=
      congrArg Prod.fst hview
    rw [heq]
    exact checkCheckpoint_le hcheckpoint
  have hadv := mergeCommit_advances hle hcommit
  have hec : witnessed.lastAcceptedEc parts.gid = ctx.lastAcceptedEc parts.gid :=
    congrArg Prod.fst (hview.trans (hchecked.trans hread))
  have hcap := mergeFs_cap hpop hfs
  have hec' : read.lastAcceptedEc parts.gid = ctx.lastAcceptedEc parts.gid := congrArg Prod.fst hread
  have hcaps : read.fsCaps = ctx.fsCaps := congrArg Prod.snd hread
  rw [hec', hcaps] at hcap
  exact ⟨fs.fsEc, ⟨hadv.fs_ec, hec ▸ hadv.last⟩, hcap⟩

/-- A merge names its device: `hdr.pop_pk` is a byte string. -/
def AnchorInput.NamesDevice (input : AnchorInput) : Prop :=
  isMergeAnchor input.header = true →
    ((input.header.get? HDR_POP_PK).bind Value.asBytes).isSome = true

def Acceptance.Capped (a : Acceptance) : Prop :=
  (∃ ec ∈ a.outcome.fsEc,
    ec ≤ a.before.lastAcceptedEc a.input.parts.gid + a.before.fsCaps.anchorMax) ∧
  a.after.lastAcceptedEc a.input.parts.gid ≤
    a.before.lastAcceptedEc a.input.parts.gid + a.before.fsCaps.anchorMax

instance (a : Acceptance) : Decidable a.Capped := inferInstanceAs (Decidable (_ ∧ _))

instance (input : AnchorInput) : Decidable input.NamesDevice :=
  inferInstanceAs (Decidable (_ → _))

theorem acceptAnchorPipeline_advances {input : AnchorInput} {digest : Bytes32}
    (hnames : input.NamesDevice)
    (h : acceptAnchorPipeline codec verifiers input mhNote digest now ctx = .ok outcome after) :
    ∃ ec, Advances input.parts.gid ctx outcome after ec ∧
      ec ≤ ctx.lastAcceptedEc input.parts.gid + ctx.fsCaps.anchorMax := by
  unfold acceptAnchorPipeline at h
  split at h
  · next hmerge =>
      simp only [EStateM.bind_eq_ok, EStateM.check_eq_ok] at h
      obtain ⟨_, _, ⟨_, rfl⟩, h⟩ := h
      obtain ⟨popPk, hpop⟩ := Option.isSome_iff_exists.mp (hnames hmerge)
      exact acceptAnchorMerge_advances hpop h
  · exact acceptAnchorJoin_advances h

theorem acceptAnchor_capped {input : AnchorInput} (hnames : input.NamesDevice)
    (h : acceptAnchor codec verifiers input ctx = .ok outcome after) :
    Acceptance.Capped ⟨input, ctx, outcome, after⟩ := by
  simp only [acceptAnchor, EStateM.bind_eq_ok, EStateM.modify_eq_ok, EStateM.check_eq_ok,
    EStateM.pure_eq_ok] at h
  obtain ⟨_, _, rfl, _, _, ⟨_, rfl⟩, gate, _, ⟨_, rfl⟩, _, done, hpipeline, _, _, rfl, rfl, rfl⟩ := h
  obtain ⟨ec, hadv, hcap⟩ := acceptAnchorPipeline_advances hnames hpipeline
  -- The clock and the pruning before the pipeline are not seen by the caps.
  change ec ≤ ctx.lastAcceptedEc input.parts.gid + ctx.fsCaps.anchorMax at hcap
  have hlast : done.lastAcceptedEc input.parts.gid =
      max (ctx.lastAcceptedEc input.parts.gid) ec := hadv.last
  have hcommit := congrArg Prod.fst (applyBarrierAcceptanceCommit_capView done input.parts.gid
    input.parts.gid input.header gate.1)
  refine ⟨⟨ec, hadv.fs_ec, hcap⟩, ?_⟩
  calc _ = max (ctx.lastAcceptedEc input.parts.gid) ec := hcommit.trans hlast
    _ ≤ _ := max_le (Nat.le_add_right _ _) hcap

/-- In every run in which the merges name their device, every accepted anchor
stays within `anchor_max` of the group's last accepted counter, and moves that
counter by at most as much. -/
theorem accepted_anchors_capped (codec : AnchorCodec) (verifiers : AnchorProofs)
    (ctx : AcceptanceContext) (inputs : List AnchorInput)
    (hnames : ∀ input ∈ inputs, input.NamesDevice) :
    ∀ a ∈ acceptances codec verifiers ctx inputs, a.Capped :=
  acceptances_all (fun _ _ _ _ => acceptAnchor_capped) inputs hnames ctx

section Jump

def zeroValue : Value := .bytes Bytes32.zero.val

def hpEnvelope (context : String) : Value :=
  .array [.text BARRIER_HP_MODE, .text context, .bytes (List.replicate 16 0), .text HP_AEAD_SUITE]

/-- Every hash is zero, and the one update on the wire refreshes a tree of one
leaf from version 0 to version 1. -/
def zeroCodec : AnchorCodec where
  hL := fun _ _ => .zero
  toCbor := fun _ => [0]
  fromReader := fun _ => some (hpEnvelope BARRIER_HP_CONTEXT_AUTHOR_LOCAL)
  fromUtf8 := fun _ => none
  asBytes := fun _ => []
  wire :=
    { barrierUpdate := fun _ => some ⟨"barrier-v1", 1, 0, 1, Bytes32.zero.val, Bytes32.zero.val,
        Bytes32.zero.val, []⟩
      coverPayload := fun _ => some ⟨0, 0, [0], none, [], []⟩
      historyCommitment := fun _ => none }

def lenientProofs : AnchorProofs where
  merkle := ⟨fun _ _ => .zero, fun _ _ _ _ _ _ => .zero⟩
  verifySignature := fun _ _ _ => true
  capssVerify := fun _ _ => .ok ()
  recomputeCapssWitness := fun _ => .ok []
  vrfVerify := fun _ _ _ _ => true
  parseSrxPayload := fun _ => freezeWith freezeSrxInvalid
  smallwoodVerify := fun _ _ => .ok ()
  validateWitness := fun _ _ => .ok ()

def jumpParts : AnchorInstanceParts :=
  ⟨[1], [], Bytes32.zero.val, Bytes32.zero.val, Bytes32.zero.val, Bytes32.zero.val,
    Bytes32.zero.val, none⟩

def jumpContext : AcceptanceContext where
  mhWindow := .new 16 120
  rhoGuard := ⟨64, 120, .empty⟩
  vckCache := ⟨120, .empty⟩
  bootstrapPolicy := .disabled
  srxMaxBytes := 1024 * 1024
  allowedCrsIds := none
  allowedParamsIds := none
  deprecatedCrsIds := []
  deprecatedParamsIds := []
  allowedVrfIds := some [DEFAULT_VRF_ID]
  deprecatedVrfIds := []
  allowedProofModes := some [DEFAULT_PROOF_MODE]
  deprecatedProofModes := []
  leafIdMode := .perGroup
  pivotStore := ⟨120, .empty⟩
  nextAcceptSeq := 0
  kbroadRegistry := none
  pendingCapssWitness := none
  deviceChains := .empty
  barrierGroups := OrdMap.empty.insert [1] { barrierInitialized := true, nMax := 1 }
  fsCaps := ⟨12, 12, 12, 16⟩
  srxEmptyRootSw := .zero
  srxMigrationRootSw := none
  fsBaseTs := none
  fsPolicyVersion := none
  allowedFsPolicyVersion := none
  clock := .new

def commonFields (fsEc barrierVersion : Nat) (envelopeContext : String) : List (Nat × Value) :=
  [(HDR_TSWE_ALG, .integer TSWE_ALG_CODE), (HDR_SEED_CTX_HASH, zeroValue),
    (HDR_MERKLE_SUITE, .text MERKLE_DS_ID), (HDR_RHO_COMMIT, zeroValue),
    (HDR_SEED_BUNDLE_COMMIT, zeroValue), (HDR_VRF_PROOF, .bytes [1]),
    (HDR_HP_BYTES, hpEnvelope envelopeContext), (HDR_CRS_ID, .text "crs"),
    (HDR_HP_COMMIT, zeroValue), (HDR_KBROAD_ALG, .text KBROAD_ML_KEM_ALG),
    (HDR_KBROAD_PUB, .bytes (List.replicate 1184 0)), (HDR_PARAMS_ID, .text "params"),
    (HDR_PARENT_ROOT, zeroValue), (HDR_JOIN_DELTA_ROOT, zeroValue),
    (HDR_REVOKED_SINCE_ROOT, zeroValue), (HDR_REVOKED_ROOT, zeroValue),
    (HDR_VRF_ID, .text DEFAULT_VRF_ID), (HDR_PROOF_MODE, .text DEFAULT_PROOF_MODE),
    (HDR_PROOFS_COMMIT, zeroValue), (HDR_FS_POLICY_VERSION, .ofNat 0), (HDR_FS_EC, .ofNat fsEc),
    (HDR_FS_EPOCH_COMMIT, zeroValue), (HDR_FS_EPOCH_BASE_TS, .ofNat 0),
    (HDR_FS_CAPSS, .bytes [1]), (HDR_FS_DEV_PREV_COMMIT, zeroValue),
    (HDR_FS_DEV_COMMIT, zeroValue), (HDR_VRF_MASK_A, zeroValue), (HDR_VRF_MASK_B, zeroValue),
    (HDR_VRF_PUBLIC_KEY, .bytes [1]), (HDR_BARRIER_VERSION, .ofNat barrierVersion)]

def jumpJoin : AnchorInput :=
  ⟨jumpParts, .zero, OrdMap.ofList (commonFields 5 0 BARRIER_HP_CONTEXT_AUTHOR_LOCAL ++
    [(HDR_POP_ALG, .text "ML-DSA-65"), (HDR_POP_PK, .bytes (List.replicate 2592 0)),
      (HDR_POP_SIG, .bytes (List.replicate 4627 0)),
      (HDR_BARRIER_LEAF_PK, .bytes (List.replicate 1184 0))])⟩

def jumpMerge (fsEc : Nat) (device : List (Nat × Value)) : AnchorInput :=
  ⟨jumpParts, .zero, OrdMap.ofList (commonFields fsEc 1 BARRIER_HP_CONTEXT_BARRIER_RECOVERY ++
    [(HDR_MH_HEADS, .array [zeroValue]), (HDR_ROLLUP_PIVOT_WEID, zeroValue),
      (HDR_ROLLUP_FS_MODE, .text "fs-purge"), (HDR_FS_EVOLUTION_BOUNDARY, .bool true),
      (HDR_FS_CHECKPOINT_EC, .ofNat 5), (HDR_BARRIER_UPDATE, .bytes []),
      (HDR_BARRIER_UPDATE_REASON, .ofNat 1)] ++ device)⟩

/-- The device key left out, the merge leaps from counter 5 to counter 1000. -/
theorem merge_without_device_leaps :
    ∃ a ∈ acceptances zeroCodec lenientProofs jumpContext [jumpJoin, jumpMerge 1000 []],
      isMergeAnchor a.input.header = true ∧ a.before.lastAcceptedEc [1] = 5 ∧
      a.before.fsCaps.anchorMax = 12 ∧ a.outcome.fsEc = some 1000 ∧
      a.after.lastAcceptedEc [1] = 1000 ∧ ¬ a.Capped := by
  decide +kernel

theorem accepted_anchors_capped_refresh :
    (acceptances zeroCodec lenientProofs jumpContext
      [jumpJoin, jumpMerge 17 [(HDR_POP_PK, .bytes [7])]]).length = 2 ∧
    ∀ a ∈ acceptances zeroCodec lenientProofs jumpContext
      [jumpJoin, jumpMerge 17 [(HDR_POP_PK, .bytes [7])]], a.Capped :=
  ⟨by decide +kernel, accepted_anchors_capped _ _ _ _ (by decide +kernel)⟩

end Jump

end CityG
