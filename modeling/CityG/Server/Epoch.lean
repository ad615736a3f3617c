import CityG.Accept.MergeRuns
import CityG.Server.Steps

/-!
# Accepted epochs

`accept_epoch` read back into its steps: what was prepared, the anchor through
acceptance, and the edits of the group in their order.
-/

namespace CityG

open EStateM (check Keeps)

variable {env : ServerEnv} {bundle : ClientEpochBundle}

structure AcceptedEpoch (env : ServerEnv) (bundle : ClientEpochBundle) (server server' : CityGServer)
    (prepared : Prepared) (accepted : AcceptanceContext) (barrier : BarrierGroupState)
    (group : GroupState) (newRoot : Bytes32) : Prop where
  ready : server.roster.kbroadRotationRequired bundle.gid = false
  prepare : prepareBundle env bundle server.replaying (server.roster.group bundle.gid) =
    .ok prepared
  anchor : ∃ acceptance, acceptBundleAnchor env bundle
      (server.ctx.setPendingCapssWitness (some bundle.capssWitness)) = .ok (acceptance, accepted) ∧
    server'.ctx = carryParities bundle acceptance newRoot
      (accepted.insertBarrierGroupState bundle.gid group.barrierState)
  barrier_eq : accepted.barrierGroupState bundle.gid = some barrier
  commit : commitBundle env bundle prepared barrier prepared.group = .ok newRoot group
  roster : server'.roster = server.roster.insert bundle.gid (markRotation prepared.delta group)
  replaying : server'.replaying = server.replaying

structure StagedEpoch (env : ServerEnv) (bundle : ClientEpochBundle) (replaying : Bool)
    (ctx : AcceptanceContext) (roster : GroupRoster) (staged : Staged) (prepared : Prepared)
    (accepted : AcceptanceContext) (barrier : BarrierGroupState) (group : GroupState)
    (newRoot : Bytes32) : Prop where
  prepare : prepareBundle env bundle replaying (roster.group bundle.gid) = .ok prepared
  anchor : ∃ acceptance, acceptBundleAnchor env bundle ctx = .ok (acceptance, accepted) ∧
    staged.ctx = carryParities bundle acceptance newRoot
      (accepted.insertBarrierGroupState bundle.gid group.barrierState)
  barrier_eq : accepted.barrierGroupState bundle.gid = some barrier
  commit : commitBundle env bundle prepared barrier prepared.group = .ok newRoot group
  roster_eq : staged.roster = roster.insert bundle.gid (markRotation prepared.delta group)

theorem StagedEpoch.barrierGroupStateEntry_eq
    (h : StagedEpoch env bundle replaying ctx roster staged prepared accepted barrier group newRoot) :
    accepted.barrierGroupStateEntry bundle.gid = barrier := by
  rw [AcceptanceContext.barrierGroupStateEntry, h.barrier_eq, Option.getD_some]

theorem applyBundleToState_ok {replaying : Bool} {ctx : AcceptanceContext} {roster : GroupRoster}
    {staged : Staged} (h : applyBundleToState env bundle replaying ctx roster = .ok staged) :
    ∃ prepared accepted barrier group newRoot,
      StagedEpoch env bundle replaying ctx roster staged prepared accepted barrier group newRoot := by
  simp only [applyBundleToState, Except.bind_eq_ok, Except.pure_eq_ok, Except.ofOption_eq_ok,
    EStateM.toExcept_eq_ok] at h
  obtain ⟨prepared, hprepared, ⟨acceptance, accepted⟩, haccepted, barrier, hbarrier,
    ⟨newRoot, group⟩, hcommit, rfl⟩ := h
  exact ⟨prepared, accepted, barrier, group, newRoot, hprepared, ⟨acceptance, haccepted, rfl⟩,
    hbarrier, hcommit, rfl⟩

variable {server server' : CityGServer} {header : HeaderMap} {delta : MembershipDelta}

theorem acceptEpoch_staged {outcome : ServerOutcome}
    (h : CityGServer.acceptEpoch env bundle server = .ok outcome server') :
    server.roster.kbroadRotationRequired bundle.gid = false ∧
      ∃ staged, CityGServer.stageBundle env bundle server.replaying server = .ok staged ∧
        server' = CityGServer.commitStaged staged (CityGServer.appendJournal bundle server) := by
  simp only [CityGServer.acceptEpoch, EStateM.check_bind_eq_ok, EStateM.modify_bind_eq_ok,
    EStateM.pure_eq_ok, Except.ensure_eq_ok] at h
  obtain ⟨_, hready, staged, hstaged, -, rfl⟩ := h
  exact ⟨hready, staged, hstaged, rfl⟩

theorem acceptEpoch_ok {outcome : ServerOutcome}
    (h : CityGServer.acceptEpoch env bundle server = .ok outcome server') :
    ∃ prepared accepted barrier group newRoot,
      AcceptedEpoch env bundle server server' prepared accepted barrier group newRoot := by
  obtain ⟨hready, staged, hstaged, rfl⟩ := acceptEpoch_staged h
  obtain ⟨prepared, accepted, barrier, group, newRoot, hepoch⟩ := applyBundleToState_ok hstaged
  refine ⟨prepared, accepted, barrier, group, newRoot, hready, hepoch.prepare, hepoch.anchor,
    hepoch.barrier_eq, hepoch.commit, ?_, ?_⟩
  · exact hepoch.roster_eq
  · unfold CityGServer.commitStaged CityGServer.appendJournal
    split <;> rfl

theorem acceptEpoch_error {e : CityGError}
    (h : CityGServer.acceptEpoch env bundle server = .error e server') : server' = server := by
  rw [CityGServer.acceptEpoch, EStateM.check_bind_eq_error] at h
  obtain ⟨-, rfl⟩ | ⟨_, -, h⟩ := h
  · rfl
  rw [EStateM.check_bind_eq_error] at h
  obtain ⟨-, rfl⟩ | ⟨_, -, h⟩ := h
  · rfl
  · cases h

namespace GroupState

def KeepsOffSlots (state state' : GroupState) : Prop :=
  ∃ generations free leases, state' =
    { state with slotGenerations := generations, freeSlots := free, leafSlotLeases := leases }

theorem reserveSlotLease_offSlots (state : GroupState) (leaf : Bytes32) (lease : SlotLease) :
    KeepsOffSlots state ((reserveSlotLease leaf lease).final state) := by
  rcases SlotRun.reserve_final state leaf lease with ⟨_, hfinal⟩ | ⟨_, hfinal⟩ | ⟨_, _, _, hfinal⟩
  · rw [hfinal]
    exact ⟨_, _, _, rfl⟩
  · rw [hfinal]
    exact ⟨_, _, _, rfl⟩
  · rw [hfinal]
    exact ⟨_, _, _, rfl⟩

theorem releaseSlotLease_offSlots (state : GroupState) (leaf : Bytes32) :
    KeepsOffSlots state ((releaseSlotLease leaf).final state) := by
  cases hleaf : state.leafSlotLeases.get? leaf with
  | none =>
    rw [SlotRun.release_none hleaf]
    exact ⟨_, _, _, rfl⟩
  | some lease =>
    rw [SlotRun.release_some hleaf .empty []]
    exact ⟨_, _, _, rfl⟩

/-- The state without its records of leaves, tickets and slots. -/
def withoutLeaves (state : GroupState) : GroupState :=
  { state with
    slotGenerations := .empty
    freeSlots := .empty
    leafSlotLeases := .empty
    nextIndex := 0
    pendingJoinFinalizeAuth := .empty
    revoked := .empty
    revokedSlotLeases := .empty
    joinHistory := []
    leafDevicePk := .empty
    leafBarrierPublic := .empty }

theorem KeepsOffSlots.withoutLeaves {state state' : GroupState} (h : KeepsOffSlots state state') :
    state'.withoutLeaves = state.withoutLeaves := by
  obtain ⟨_, _, _, rfl⟩ := h
  rfl

/-- The computation only touches the records of leaves, tickets and slots. -/
abbrev KeepsOffLeaves {α : Type} (x : EStateM CityGError GroupState α) : Prop :=
  Keeps withoutLeaves x

namespace KeepsOffLeaves

theorem pruneJoinHistory : KeepsOffLeaves (EStateM.update pruneJoinHistory) := by
  intro s
  unfold EStateM.KeepsAt EStateM.final EStateM.update
  cases hpruned : CityG.pruneJoinHistory s with
  | ok s' =>
    obtain ⟨_, rfl⟩ := pruneJoinHistory_ok hpruned
    rfl
  | error e => rfl

theorem allocateSlotLease (leafId : Bytes32) :
    KeepsOffLeaves (GroupState.allocateSlotLease leafId) := by
  intro s
  unfold EStateM.KeepsAt
  cases hactive : s.leafSlotLeases.get? leafId with
  | some lease => rw [EStateM.final_of_ok (SlotRun.allocate_of_active hactive)]
  | none =>
    cases hpending : s.pendingJoinFinalizeAuth.get? leafId with
    | some record => rw [EStateM.final_of_ok (SlotRun.allocate_of_pending hactive hpending)]
    | none =>
      cases hfree : s.ensureSlotAllocatorInitialized.freeSlots.keys with
      | nil =>
        rw [EStateM.final_of_error (SlotRun.allocate_exhausted hactive hpending hfree)]
        rfl
      | cons slot rest =>
        rw [EStateM.final_of_ok (SlotRun.allocate_fresh hactive hpending hfree)]
        rfl

theorem chooseJoinLeaf (refusalPercent : Nat) (leafIdOverride : Option Bytes32) :
    KeepsOffLeaves (CityG.chooseJoinLeaf refusalPercent leafIdOverride) := by
  cases leafIdOverride with
  | some leafId => exact .bind (.check _) fun _ => .bind (.check _) fun _ => .pure _
  | none =>
    refine .bind (.check _) fun _ => .bind (.check _) fun _ => ?_
    refine .bind (.modify fun _ => rfl) fun _ => ?_
    exact .bind (.modifyGet fun _ => rfl) fun _ => .pure _

theorem reserveJoin (H : MerkleHash) (refusalPercent : Nat) (leafIdOverride : Option Bytes32) :
    KeepsOffLeaves (CityG.reserveJoin H refusalPercent leafIdOverride) := by
  refine .bind (.check _) fun _ => .bind (chooseJoinLeaf _ _) fun leafId => ?_
  exact .bind (allocateSlotLease leafId) fun _ => .bind (.check _) fun _ => .pure _

theorem activateSlotLease (leaf : Bytes32) (lease : SlotLease) :
    KeepsOffLeaves (GroupState.activateSlotLease leaf lease) :=
  .bind (fun s => (reserveSlotLease_offSlots s leaf lease).withoutLeaves) fun _ =>
    .modify fun _ => rfl

theorem activateSlotLeases (leases : List (Bytes32 × SlotLease)) :
    KeepsOffLeaves (CityG.activateSlotLeases leases) := by
  induction leases with
  | nil => exact .pure _
  | cons e rest ih => exact .bind (activateSlotLease e.1 e.2) fun _ => ih

theorem admitLeaves (fields : MemberFields) (leaves : List Bytes32) :
    KeepsOffLeaves (CityG.admitLeaves fields leaves) := by
  induction leaves with
  | nil => exact .pure _
  | cons leaf rest ih =>
    refine .bind (.bind (.check _) fun lease => ?_) fun _ => ih
    refine .bind (activateSlotLease leaf lease) fun _ => .bind (.check _) fun _ => ?_
    exact .modify fun _ => rfl

theorem retireLeaves (leaves : List Bytes32) : KeepsOffLeaves (CityG.retireLeaves leaves) := by
  induction leaves with
  | nil => exact .pure _
  | cons leaf rest ih =>
    refine .bind (.bind ?_ fun _ => .bind (.check _) fun _ => .modify fun _ => rfl) fun _ => ih
    exact fun s => (releaseSlotLease_offSlots s leaf).withoutLeaves

theorem changeMembers (fields : MemberFields) (delta : MembershipDelta) :
    KeepsOffLeaves (CityG.changeMembers fields delta) := by
  unfold CityG.changeMembers
  split
  · exact .pure _
  · refine .bind (admitLeaves fields _) fun _ => .bind (retireLeaves _) fun _ => ?_
    exact pruneJoinHistory

end KeepsOffLeaves

theorem finalizeJoin_withoutLeaves (token : Option Bytes32) (popPk : Option Bytes)
    (state : GroupState) : (state.finalizeJoin token popPk).withoutLeaves = state.withoutLeaves := by
  unfold finalizeJoin
  dsimp only
  split <;> rfl

end GroupState

theorem refreshHistory_keepsCore : KeepsCore (refreshHistory env bundle) := by
  unfold refreshHistory
  split
  · exact Keeps.bind (KeepsCore.ensureCurrent _ _ _) fun _ => .pure _
  · exact Keeps.pure _

structure PreparedBundle (env : ServerEnv) (bundle : ClientEpochBundle) (replaying : Bool)
    (group : GroupState) (prepared : Prepared) : Prop where
  delta : bundle.membershipDelta env.codec = .ok prepared.delta
  leases : deriveImplicitGenesisSlotLeases env.wire group bundle.headerMap prepared.delta =
    .ok prepared.implicitLeases
  refreshed : refreshHistory env bundle group = .ok () prepared.group
  before : stateBefore env bundle replaying prepared.implicitLeases prepared.group =
    .ok prepared.before
  distinct : ensureDistinctActiveSlotIndices prepared.before = .ok ()
  available : ensureJoinSlotIndicesAvailable prepared.before prepared.delta.joined = .ok ()
  validated : validateBarrierUpdateAgainstRoster env.hL env.wire prepared.before bundle.headerMap
    prepared.delta = .ok prepared.validation
  gid : bundle.gid.length = 32

theorem prepareBundle_ok {replaying : Bool} {group : GroupState} {prepared : Prepared}
    (h : prepareBundle env bundle replaying group = .ok prepared) :
    PreparedBundle env bundle replaying group prepared := by
  simp only [prepareBundle, Except.bind_eq_ok, Except.pure_eq_ok, Except.ensure_eq_ok,
    EStateM.toExcept_eq_ok] at h
  obtain ⟨delta, hdelta, leases, hleases, ⟨_, refreshed⟩, hrefreshed, before, hbefore, _, hdistinct,
    _, havailable, validation, hvalidation, _, hgid, _, -, rfl⟩ := h
  exact ⟨hdelta, hleases, hrefreshed, hbefore, hdistinct, havailable, hvalidation, hgid⟩

theorem JoinHeader.no_update (h : JoinHeader header) : HDR_BARRIER_UPDATE ∉ header := by
  intro hupdate
  exact Bool.noConfusion (h.not_merge.symm.trans (isMergeAnchor_of_update hupdate))

theorem GatePassed.update_bytes {codec : AnchorCodec} {gid : Bytes} {ctx after : AcceptanceContext}
    {gate : Accept.BarrierGateDecision} (h : GatePassed codec gid header ctx after gate)
    (hmerge : MergeHeader header) :
    ∃ raw, header.get? HDR_BARRIER_UPDATE = some (.bytes raw) := by
  have hpassed := h.passed
  have hupdate := (enforceGate_opened hpassed).1.reasoned hmerge.reason
  simp only [AcceptanceContext.enforceBarrierAcceptanceGating, Accept.readBarrierGate,
    Except.bind_eq_ok] at hpassed
  obtain ⟨_, ⟨_, _, _, _, _, _, digest, hdigest, _⟩, -⟩ := hpassed
  obtain ⟨value, hvalue⟩ := OrdMap.mem_iff.mp hupdate
  rw [Accept.computeBarrierUpdateDigest, hvalue] at hdigest
  cases value with
  | bytes raw => exact ⟨raw, hvalue⟩
  | _ => cases hdigest

theorem validate_without_update {hL : HashL} {dec : WireDecoder} {state : GroupState}
    {validation : Option BarrierUpdateValidationOutcome} (hupdate : HDR_BARRIER_UPDATE ∉ header)
    (h : validateBarrierUpdateAgainstRoster hL dec state header delta = .ok validation) :
    validation = none := by
  simp only [validateBarrierUpdateAgainstRoster, Except.mapError_eq_ok, validateBarrierUpdate,
    Except.bind_eq_ok] at h
  obtain ⟨_, -, reason, hreason, _, -, h⟩ := h
  rw [parseBarrierUpdateReason, if_pos hupdate] at hreason
  split_ifs at hreason
  cases hreason
  simp only [Except.bind_eq_ok, Except.pure_eq_ok] at h
  obtain ⟨_, -, hnone⟩ := h
  exact hnone.symm

theorem validate_update {hL : HashL} {dec : WireDecoder} {state : GroupState} {raw : Bytes}
    {validation : Option BarrierUpdateValidationOutcome}
    (hupdate : header.get? HDR_BARRIER_UPDATE = some (.bytes raw))
    (h : validateBarrierUpdateAgainstRoster hL dec state header delta = .ok validation) :
    ∃ outcome, validation = some outcome := by
  simp only [validateBarrierUpdateAgainstRoster, Except.mapError_eq_ok, validateBarrierUpdate,
    Except.bind_eq_ok] at h
  obtain ⟨_, -, reason, hreason, _, -, h⟩ := h
  have hmem : HDR_BARRIER_UPDATE ∈ header := OrdMap.mem_iff.mpr ⟨_, hupdate⟩
  rw [parseBarrierUpdateReason, if_neg (not_not.mpr hmem)] at hreason
  split at hreason
  · split_ifs at hreason
    cases hreason
    simp only [parseBarrierUpdate, hupdate, Except.bind_eq_ok, Except.pure_eq_ok] at h
    obtain ⟨_, ⟨_, -, _, -, _, -, _, -, _, -, _, -, _, -, _, -, rfl⟩, h⟩ := h
    obtain ⟨outcome, -, rfl⟩ := Except.map_eq_ok.mp h
    exact ⟨outcome, rfl⟩
  · cases hreason

theorem membershipDelta_without_payload {codec : AnchorCodec}
    (hpayload : HDR_SRX_PAYLOAD ∉ bundle.headerMap) (h : bundle.membershipDelta codec = .ok delta) :
    delta.revoked = [] := by
  have hnone : bundle.headerMap.get? HDR_SRX_PAYLOAD = none := by
    cases hget : bundle.headerMap.get? HDR_SRX_PAYLOAD with
    | none => rfl
    | some value => exact absurd (OrdMap.mem_iff.mpr ⟨value, hget⟩) hpayload
  simp only [ClientEpochBundle.membershipDelta, hnone] at h
  split at h
  · cases h
    rfl
  · simp only [Except.bind_eq_ok, Except.pure_eq_ok] at h
    obtain ⟨_, -, _, -, rfl⟩ := h
    rfl

def anchorContext (bundle : ClientEpochBundle) (server : CityGServer) : AcceptanceContext :=
  (server.ctx.setPendingCapssWitness (some bundle.capssWitness)).modifyBarrierGroup bundle.gid id

theorem acceptBundleAnchor_gate {ctx accepted : AcceptanceContext}
    {acceptance : AnchorAcceptanceResult}
    (h : acceptBundleAnchor env bundle ctx = .ok (acceptance, accepted)) :
    ∃ gate, GatePassed env.codec bundle.gid bundle.headerMap (ctx.modifyBarrierGroup bundle.gid id)
      accepted gate := by
  rw [acceptBundleAnchor, Except.mapError_eq_ok, EStateM.toExcept_eq_ok] at h
  exact processAnchorOr_gate h

namespace AcceptedEpoch
variable {server server' : CityGServer} {prepared : Prepared} {accepted : AcceptanceContext}
  {barrier : BarrierGroupState} {group : GroupState} {newRoot : Bytes32}

theorem gate
    (h : AcceptedEpoch env bundle server server' prepared accepted barrier group newRoot) :
    ∃ gate, GatePassed env.codec bundle.gid bundle.headerMap (anchorContext bundle server) accepted
      gate := by
  obtain ⟨acceptance, haccepted, -⟩ := h.anchor
  exact acceptBundleAnchor_gate haccepted

structure Join (bundle : ClientEpochBundle) (prepared : Prepared) : Prop where
  header : JoinHeader bundle.headerMap
  validation : prepared.validation = none
  revoked : prepared.delta.revoked = []

structure Merge (bundle : ClientEpochBundle) (prepared : Prepared)
    (validation : BarrierUpdateValidationOutcome) : Prop where
  header : MergeHeader bundle.headerMap
  validation : prepared.validation = some validation

theorem join_or_merge_of_gate {replaying : Bool} {start : GroupState} {ctx : AcceptanceContext}
    {gate : Accept.BarrierGateDecision}
    (hprepared : PreparedBundle env bundle replaying start prepared)
    (hgate : GatePassed env.codec bundle.gid bundle.headerMap ctx accepted gate) :
    Join bundle prepared ∨ ∃ validation, Merge bundle prepared validation := by
  rcases hgate.kind with hjoin | hmerge
  · exact .inl ⟨hjoin, validate_without_update hjoin.no_update hprepared.validated,
      membershipDelta_without_payload hjoin.no_srx hprepared.delta⟩
  · obtain ⟨raw, hraw⟩ := hgate.update_bytes hmerge
    obtain ⟨validation, hvalidation⟩ := validate_update hraw hprepared.validated
    exact .inr ⟨validation, hmerge, hvalidation⟩

theorem join_or_merge
    (h : AcceptedEpoch env bundle server server' prepared accepted barrier group newRoot) :
    Join bundle prepared ∨ ∃ validation, Merge bundle prepared validation := by
  obtain ⟨gate, hgate⟩ := h.gate
  exact join_or_merge_of_gate (prepareBundle_ok h.prepare) hgate

end AcceptedEpoch

structure CommitSteps (env : ServerEnv) (bundle : ClientEpochBundle) (prepared : Prepared)
    (barrier : BarrierGroupState) (start done : GroupState) (newRoot : Bytes32)
    (activated member changed : GroupState) (fields : MemberFields) (token : Option Bytes32) :
    Prop where
  activate : activateSlotLeases prepared.implicitLeases start = .ok () activated
  record : ∃ record, acceptedBarrierMergeRecord env.hL bundle = .ok record ∧
    GroupState.applyDelta env.merkle (GroupState.recordCurrentUpdate bundle.headerMap prepared.before
      prepared.validation ((record.map (activated.withBarrierState barrier).putMergeRecord).getD
        (activated.withBarrierState barrier))) bundle.anchor.parentRoot prepared.delta =
      (member, .ok newRoot)
  token_eq : parseJoinFinalizeAuthToken bundle.headerMap = .ok token
  version : fields.barrierVersion = barrier.barrierVersion
  popPk : fields.popPk = (bundle.headerMap.get? HDR_POP_PK).bind Value.asBytes
  ekLeaf : requiredJoinBarrierLeafPk bundle.headerMap prepared.delta.joined = .ok fields.ekLeaf
  change : changeMembers fields prepared.delta member = .ok () changed
  tree : commitTree env bundle.gid prepared.validation
    (GroupState.finalizeJoin token fields.popPk changed) = .ok () done

theorem commitBundle_ok {prepared : Prepared} {barrier : BarrierGroupState}
    {start done : GroupState} {newRoot : Bytes32}
    (h : commitBundle env bundle prepared barrier start = .ok newRoot done) :
    ∃ activated member changed fields token, CommitSteps env bundle prepared barrier start done
      newRoot activated member changed fields token := by
  rw [commitBundle, EStateM.bind_eq_ok] at h
  obtain ⟨_, activated, hactivated, h⟩ := h
  simp only [EStateM.check_bind_eq_ok, EStateM.modify_bind_eq_ok] at h
  obtain ⟨record, hrecord, _, -, token, htoken, ekLeaf, hekLeaf, h⟩ := h
  simp only [EStateM.bind_eq_ok, EStateM.modify_eq_ok, EStateM.pure_eq_ok] at h
  obtain ⟨root, member, hmember, _, changed, hchanged, _, _, rfl, _, _, htree, rfl, rfl⟩ := h
  refine ⟨activated, member, changed, ⟨barrier.barrierVersion, _, ekLeaf⟩, token, hactivated,
    ⟨record, hrecord, ?_⟩, htoken, rfl, rfl, hekLeaf, hchanged, htree⟩
  unfold applyMembership at hmember
  split at hmember
  · next state root' heq =>
      cases hmember
      exact heq
  · cases hmember

end CityG
