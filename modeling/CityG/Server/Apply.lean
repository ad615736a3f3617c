import CityG.Server.State

/-!
# Accepting an epoch

`apply_bundle_to_state` on clones of the context and the roster: a refused
bundle leaves no trace, so its steps stand in `Except` and the group's part is
run to its end before anything is kept.
-/

namespace CityG

open Except (ensure ofOption)
open EStateM (check update toExcept)

structure ServerOutcome where
  weEpochId : Bytes32
  wid : Bytes32
  parentRoot : Bytes32
  newRoot : Bytes32
  deriving DecidableEq

def hasExistingGroupState (state : GroupState) : Bool :=
  state.barrierVersion ≠ 0 ∨ state.leafSlotLeases.isEmpty = false ∨
    state.pendingJoinFinalizeAuth.isEmpty = false ∨ state.revokedSlotLeases.isEmpty = false ∨
    state.leafDevicePk.isEmpty = false ∨ state.joinHistory ≠ [] ∨
    state.activeLeaves.isEmpty = false

def missingLease (state : GroupState) (joined : List Bytes32) : Bool :=
  ∃ leaf ∈ joined, leaf ∉ state.pendingJoinFinalizeAuth ∧ leaf ∉ state.leafSlotLeases

def sequentialLeases (state : GroupState) (joined : List Bytes32) :
    Except CityGError (List (Bytes32 × SlotLease)) := do
  ensure (joined.length ≤ state.slotCapacity) (.invalidInput "slot allocator exhausted")
  pure (joined.zipIdx.map fun e => (e.1, ⟨e.2, 0⟩))

def updaterLease (state : GroupState) (delta : MembershipDelta) (parsed : ParsedBarrierUpdate) :
    Except CityGError (List (Bytes32 × SlotLease)) := do
  ensure (delta.revoked = [] ∧ delta.joined.length = 1) (.invalidInput
    "genesis barrier update without slot lease must contain exactly one joined leaf")
  ensure (parsed.updaterSlotIndex ≤ U32_MAX ∧ parsed.updaterSlotIndex < state.slotCapacity)
    (.invalidInput "slot_index out of range")
  pure (delta.joined.map fun leaf => (leaf, ⟨parsed.updaterSlotIndex, parsed.updaterSlotGeneration⟩))

def deriveImplicitGenesisSlotLeases (dec : WireDecoder) (state : GroupState) (header : HeaderMap)
    (delta : MembershipDelta) : Except CityGError (List (Bytes32 × SlotLease)) :=
  if missingLease state delta.joined = false ∨ hasExistingGroupState state then pure []
  else do
    match ← parseBarrierUpdate dec header state.nMax with
    | some parsed => updaterLease state delta parsed
    | none => sequentialLeases state delta.joined

def activateSlotLeases : List (Bytes32 × SlotLease) → EStateM CityGError GroupState Unit
  | [] => pure ()
  | e :: rest => do
    GroupState.activateSlotLease e.1 e.2
    activateSlotLeases rest

def uniqueDeviceLeaf (state : GroupState) (popPk : Bytes) : Option Bytes32 :=
  match state.leafDevicePk.entries.filter fun e => e.2 = popPk with
  | [e] => some e.1
  | _ => none

def rehydratedRecord (state : GroupState) (reason : Nat) (token : Bytes32)
    (parsed : ParsedBarrierUpdate) (author : Bytes32) :
    Except CityGError (Option JoinFinalizeAuthRecord) := do
  let lease ← requireActiveSlotLease state author
  pure (if lease.slotIndex = parsed.updaterSlotIndex ∧
      (reason = 0 → lease.slotIndex ∈ committedRevokedSlotIndices state) ∧
      lease.slotGeneration = parsed.updaterSlotGeneration then
    some ⟨author, lease, token⟩ else none)

def replayTicket (dec : WireDecoder) (state : GroupState) (header : HeaderMap) :
    Except CityGError (Option JoinFinalizeAuthRecord) := do
  let reason ← parseBarrierUpdateReason header
  if reason = some 0 ∨ reason = some 2 then do
    match ← parseJoinFinalizeAuthToken header with
    | none => pure none
    | some token => do
      match ← parseBarrierUpdate dec header state.nMax with
      | none => pure none
      | some parsed =>
        match ((header.get? HDR_POP_PK).bind Value.asBytes).bind (uniqueDeviceLeaf state) with
        | none => pure none
        | some author => rehydratedRecord state (reason.getD 0) token parsed author
  else pure none

def GroupState.insertPendingNew (state : GroupState) (record : JoinFinalizeAuthRecord) : GroupState :=
  { state with
    pendingJoinFinalizeAuth := state.pendingJoinFinalizeAuth.insertNew record.leafId record }

def rehydrateReplayJoinFinalizeAuth (dec : WireDecoder) (header : HeaderMap) (state : GroupState) :
    Except CityGError GroupState := do
  let record ← replayTicket dec state header
  pure ((record.map state.insertPendingNew).getD state)

def acceptedBarrierMergeRecord (hL : HashL) (bundle : ClientEpochBundle) :
    Except CityGError (Option AcceptedBarrierMergeRecord) :=
  match bundle.headerMap.get? HDR_BARRIER_UPDATE with
  | some (.bytes raw) => do
    let barrierVersion ← ofOption (.invalidInput "accepted barrier merge missing barrier_version")
      ((bundle.headerMap.get? HDR_BARRIER_VERSION).bind Value.asU64)
    let fsEc ← ofOption (.invalidInput "accepted barrier merge missing fs_ec")
      ((bundle.headerMap.get? HDR_FS_EC).bind Value.asU64)
    let reason ← ofOption (.invalidInput "accepted barrier merge missing barrier_update_reason")
      (← parseBarrierUpdateReason bundle.headerMap)
    pure (some ⟨barrierVersion, fsEc, reason, hL "barrier/update/digest" (.bytes raw),
      bundle.weEpochId⟩)
  | _ => pure none

namespace GroupState

def putMergeRecord (state : GroupState) (record : AcceptedBarrierMergeRecord) : GroupState :=
  { state with
    acceptedBarrierMerges := state.acceptedBarrierMerges.insert record.barrierVersion record }

def putCurrentUpdate (state : GroupState) (raw : Bytes) (predecessor : Bytes32) : GroupState :=
  { state with
    currentAcceptedBarrierUpdate := raw
    currentAcceptedBarrierPredecessorHash := predecessor }

def recordCurrentUpdate (header : HeaderMap) (before : GroupState)
    (validation : Option BarrierUpdateValidationOutcome) (state : GroupState) : GroupState :=
  match header.get? HDR_BARRIER_UPDATE with
  | some (.bytes raw) => state.putCurrentUpdate raw
      ((validation.map (·.parsed.kemTreeHashBefore)).getD before.kemTreeHashAfter)
  | _ => state

def recordJoin (leaf : Bytes32) (lease : SlotLease) (barrierVersion : Nat) (devicePk ekLeaf : Bytes)
    (state : GroupState) : GroupState :=
  { state with
    joinHistory := state.joinHistory ++ [⟨leaf, saturatingAdd barrierVersion 1, lease.slotIndex,
      lease.slotGeneration, devicePk, ekLeaf⟩]
    leafDevicePk := state.leafDevicePk.insert leaf devicePk
    leafBarrierPublic :=
      if ekLeaf = [] then state.leafBarrierPublic else state.leafBarrierPublic.insert leaf ekLeaf }

def recordRevocation (leaf : Bytes32) (lease : SlotLease) (state : GroupState) : GroupState :=
  { state with
    leafDevicePk := state.leafDevicePk.erase leaf
    leafBarrierPublic := state.leafBarrierPublic.erase leaf
    pendingJoinFinalizeAuth := state.pendingJoinFinalizeAuth.erase leaf
    revokedSlotLeases := state.revokedSlotLeases.insert leaf lease }

def dropPending (state : GroupState) (leaf : Bytes32) : GroupState :=
  { state with pendingJoinFinalizeAuth := state.pendingJoinFinalizeAuth.erase leaf }

/-- The first leaf of the author's device gives up its ticket and supersedes
the revoked leases of its slot. -/
def finalizeJoin (token : Option Bytes32) (popPk : Option Bytes) (state : GroupState) : GroupState :=
  let author := if token.isSome then
      popPk.bind fun pk => (state.leafDevicePk.entries.find? fun e => e.2 = pk).map Prod.fst
    else none
  match author.bind state.pendingJoinFinalizeAuth.get? with
  | some record => (state.dropPending (author.getD .zero)).finalizeSlotReclaim record.lease
  | none => state

def putTreeState (validation : BarrierUpdateValidationOutcome) (state : GroupState) : GroupState :=
  { state with
    barrierPkEntries := validation.snapshotPost
    kemTreeHashAfter := validation.parsed.kemTreeHashAfter
    nMax := max validation.parsed.treeSize 1
    barrierHashCache := validation.hashCachePost }

end GroupState

def requiredJoinBarrierLeafPk (header : HeaderMap) (joined : List Bytes32) :
    Except CityGError (Option Bytes) :=
  if joined = [] then pure none
  else do
    let ek ← ofOption (.invalidInput "barrier_leaf_pk (header[177]) is required on join")
      ((header.get? HDR_BARRIER_LEAF_PK).bind Value.asBytes)
    ensure (ek.length = 1184) (.invalidInput "barrier_leaf_pk must be exactly 1184 bytes on join")
    pure (some ek)

structure MemberFields where
  barrierVersion : Nat
  popPk : Option Bytes
  ekLeaf : Option Bytes

def admitLeaf (fields : MemberFields) (leaf : Bytes32) : EStateM CityGError GroupState Unit := do
  let lease ← check fun state =>
    ofOption (.invalidInput "missing slot lease for joined leaf") (pendingOrActiveLease state leaf)
  GroupState.activateSlotLease leaf lease
  let ekLeaf ← check fun _ =>
    ofOption (.invalidInput "barrier_leaf_pk (header[177]) is required on join") fields.ekLeaf
  modify (·.recordJoin leaf lease fields.barrierVersion (fields.popPk.getD leaf.val) ekLeaf)

def retireLeaf (leaf : Bytes32) : EStateM CityGError GroupState Unit := do
  let released ← GroupState.releaseSlotLease leaf
  let lease ← check fun _ =>
    ofOption (.invalidInput "missing slot lease for revoked leaf") released
  modify (·.recordRevocation leaf lease)

def admitLeaves (fields : MemberFields) : List Bytes32 → EStateM CityGError GroupState Unit
  | [] => pure ()
  | leaf :: rest => do
    admitLeaf fields leaf
    admitLeaves fields rest

def retireLeaves : List Bytes32 → EStateM CityGError GroupState Unit
  | [] => pure ()
  | leaf :: rest => do
    retireLeaf leaf
    retireLeaves rest

def changeMembers (fields : MemberFields) (delta : MembershipDelta) :
    EStateM CityGError GroupState Unit :=
  if delta.joined = [] ∧ delta.revoked = [] then pure ()
  else do
    admitLeaves fields delta.joined
    retireLeaves delta.revoked
    update pruneJoinHistory

def applyMembership (H : MerkleHash) (baseRoot : Bytes32) (delta : MembershipDelta) :
    EStateM CityGError GroupState Bytes32 := fun state =>
  match state.applyDelta H baseRoot delta with
  | (state, .ok newRoot) => .ok newRoot state
  | (state, .error err) => .error err state

section
variable (env : ServerEnv)

def commitTree (gid : Bytes) :
    Option BarrierUpdateValidationOutcome → EStateM CityGError GroupState Unit
  | none => pure ()
  | some validation => do
    let predecessor ← check fun _ => computeBarrierTreeHash env.hL
      (max validation.parsed.treeSize 1) validation.snapshotPre
    check fun _ => ensure (predecessor = validation.parsed.kemTreeHashBefore)
      (.invalidInput "current barrier predecessor snapshot mismatch")
    modify (·.putTreeState validation)
    let commitment ← ensureCurrentHistoryCommitment env.hL env.wire gid
    let barrierVersion ← check fun state => pure state.barrierVersion
    recordBarrierPublicTreeSnapshotWithMetadata predecessor barrierVersion commitment
      validation.snapshotPre
    recordBarrierPublicTreeSnapshot env.hL env.wire gid

structure Prepared where
  delta : MembershipDelta
  implicitLeases : List (Bytes32 × SlotLease)
  /-- The entry of the roster, with its history commitment. -/
  group : GroupState
  /-- The state the update is checked against. -/
  before : GroupState
  validation : Option BarrierUpdateValidationOutcome

variable (bundle : ClientEpochBundle)

def refreshHistory : EStateM CityGError GroupState Unit :=
  if bundle.hasUpdate then do
    let _ ← ensureCurrentHistoryCommitment env.hL env.wire bundle.gid
    pure ()
  else pure ()

def stateBefore (replaying : Bool) (leases : List (Bytes32 × SlotLease)) (group : GroupState) :
    Except CityGError GroupState := do
  let activated ← (activateSlotLeases leases).toExcept group
  if replaying then rehydrateReplayJoinFinalizeAuth env.wire bundle.headerMap activated.2
  else pure activated.2

def prepareBundle (replaying : Bool) (group : GroupState) : Except CityGError Prepared := do
  let delta ← bundle.membershipDelta env.codec
  let leases ← deriveImplicitGenesisSlotLeases env.wire group bundle.headerMap delta
  let refreshed ← (refreshHistory env bundle).toExcept group
  let before ← stateBefore env bundle replaying leases refreshed.2
  ensureDistinctActiveSlotIndices before
  ensureJoinSlotIndicesAvailable before delta.joined
  let validation ← validateBarrierUpdateAgainstRoster env.hL env.wire before bundle.headerMap delta
  ensure (bundle.gid.length = 32) (.invalidInput "gid must be 32 bytes")
  env.historyAuthority bundle.gid before bundle.headerMap
  pure ⟨delta, leases, refreshed.2, before, validation⟩

def commitBundle (prepared : Prepared) (barrier : BarrierGroupState) :
    EStateM CityGError GroupState Bytes32 := do
  activateSlotLeases prepared.implicitLeases
  modify (·.withBarrierState barrier)
  let record ← check fun _ => acceptedBarrierMergeRecord env.hL bundle
  modify fun state => (record.map state.putMergeRecord).getD state
  modify (GroupState.recordCurrentUpdate bundle.headerMap prepared.before prepared.validation)
  let _ ← check fun _ => parseBarrierUpdateReason bundle.headerMap
  let token ← check fun _ => parseJoinFinalizeAuthToken bundle.headerMap
  let popPk := (bundle.headerMap.get? HDR_POP_PK).bind Value.asBytes
  let ekLeaf ← check fun _ => requiredJoinBarrierLeafPk bundle.headerMap prepared.delta.joined
  let newRoot ← applyMembership env.merkle bundle.anchor.parentRoot prepared.delta
  changeMembers ⟨barrier.barrierVersion, popPk, ekLeaf⟩ prepared.delta
  modify (GroupState.finalizeJoin token popPk)
  commitTree env bundle.gid prepared.validation
  pure newRoot

def acceptBundleAnchor (ctx : AcceptanceContext) :
    Except CityGError (AnchorAcceptanceResult × AcceptanceContext) :=
  ((processAnchorOr env.codec env.verifiers bundle.anchorInstance bundle.headerMap bundle.hpProof
    bundle.hpBinding (bundle.witness.getD [])).toExcept
      (ctx.modifyBarrierGroup bundle.gid id)).mapError .acceptance

def mirroredParity (newRoot : Bytes32) (parity : PivotParity) : PivotParity :=
  { parity with
    parentRoot := newRoot
    joinDeltaRoot := bundle.anchor.joinDeltaRoot
    revokedSinceRoot := bundle.anchor.revokedSincePrevRoot
    revokedRoot := bundle.anchor.revokedRoot }

def carriedParities (acceptance : AnchorAcceptanceResult) (ctx : AcceptanceContext) :
    List PivotParity :=
  let live := (ctx.pivotStore.list bundle.gid bundle.anchor.parentRoot).filter fun parity =>
    ((ctx.mhWindow.findHeadWindow parity.weEpochId).bind fun wid =>
      ctx.mhWindow.findHead wid parity.weEpochId).isSome
  if live = [] then [acceptance.pivotParity] else live

def carryParities (acceptance : AnchorAcceptanceResult) (newRoot : Bytes32)
    (ctx : AcceptanceContext) : AcceptanceContext :=
  let ctx := ctx.setPivotStore (ctx.pivotStore.prune ctx.clock.last)
  ctx.setPivotStore ((carriedParities bundle acceptance ctx).foldl (fun store parity =>
    store.insert (mirroredParity bundle newRoot parity) acceptance.outcome.acceptTime)
    ctx.pivotStore)

def markRotation (delta : MembershipDelta) (group : GroupState) : GroupState :=
  if delta.revoked = [] then group else group.markKbroadRotationRequired

structure Staged where
  ctx : AcceptanceContext
  roster : GroupRoster
  outcome : ServerOutcome

def applyBundleToState (replaying : Bool) (ctx : AcceptanceContext) (roster : GroupRoster) :
    Except CityGError Staged := do
  let prepared ← prepareBundle env bundle replaying (roster.group bundle.gid)
  let (acceptance, ctx) ← acceptBundleAnchor env bundle ctx
  let barrier ← ofOption (.invalidInput "context barrier state missing")
    (ctx.barrierGroupState bundle.gid)
  let (newRoot, group) ← (commitBundle env bundle prepared barrier).toExcept prepared.group
  let ctx := ctx.insertBarrierGroupState bundle.gid group.barrierState
  pure ⟨carryParities bundle acceptance newRoot ctx,
    roster.insert bundle.gid (markRotation prepared.delta group),
    ⟨acceptance.outcome.weEpochId, acceptance.outcome.wid, bundle.anchor.parentRoot, newRoot⟩⟩

end

namespace CityGServer

section
variable (env : ServerEnv) (bundle : ClientEpochBundle)

def stageBundle (replaying : Bool) (server : CityGServer) : Except CityGError Staged :=
  applyBundleToState env bundle replaying
    (server.ctx.setPendingCapssWitness (some bundle.capssWitness)) server.roster

def commitStaged (staged : Staged) (server : CityGServer) : CityGServer :=
  { server with ctx := staged.ctx, roster := staged.roster }

def appendJournal (server : CityGServer) : CityGServer :=
  if server.replaying then server else { server with journal := server.journal ++ [bundle] }

def acceptEpoch : ServerM ServerOutcome := do
  check fun server => ensure (server.roster.kbroadRotationRequired bundle.gid = false)
    (.invalidInput "kbroad rotation required")
  let staged ← check fun server => stageBundle env bundle server.replaying server
  modify (appendJournal bundle)
  modify (commitStaged staged)
  pure staged.outcome

end

end CityGServer

end CityG
