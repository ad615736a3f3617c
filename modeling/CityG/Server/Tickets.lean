import CityG.Server.State

/-!
# Tickets

Join tickets reserve a slot and a finalisation token for a leaf; merge tickets
hand a member the state that the next merge builds on. A ticket that is refused
keeps the edits made before the refusal.
-/

namespace CityG

open Except (ensure ofOption)
open EStateM (check update)

def setRoot (H : MerkleHash) (leaves : List Bytes32) : Except CityGError Bytes32 :=
  (canonicalSetRoot H leaves).mapError .msphf

structure BarrierLeafCapacity where
  nMax : Nat
  reservedCoverLeafCount : Nat
  remainingCoverLeafSlots : Nat

def barrierLeafCapacity (state : GroupState) : Except CityGError BarrierLeafCapacity := do
  let nMax ← validateBarrierNMax state.nMax
  let reserved ← reservedSlotIndices state
  pure ⟨nMax, reserved.size, nMax - min reserved.size nMax⟩

def capacityExhausted : CityGError :=
  .invalidInput "barrier leaf capacity exhausted; retire and recreate group"

def ensureJoinCapacityAllowsFreshReservation (refusalPercent : Nat) (state : GroupState) :
    Except CityGError Unit := do
  let capacity ← barrierLeafCapacity state
  ensure (capacity.remainingCoverLeafSlots ≠ 0) capacityExhausted
  ensure (refusalPercent < 100 →
      capacity.reservedCoverLeafCount + 1 ≤ capacity.nMax * refusalPercent / 100)
    (.invalidInput "barrier leaf refusal threshold reached; retire and recreate group")

def ensureJoinCapacityAllowsExistingLeafReservation (leafId : Bytes32) (refusalPercent : Nat)
    (state : GroupState) : Except CityGError Unit :=
  if leafId ∈ state.pendingJoinFinalizeAuth then pure ()
  else ensureJoinCapacityAllowsFreshReservation refusalPercent state

def sequentialLeaf (index : Nat) : Bytes32 :=
  ⟨List.replicate 28 0 ++
      [16777216, 65536, 256, 1].map fun unit => Fin.ofNat 256 (index / unit),
    by simp⟩

def GroupState.allocateLeaf (state : GroupState) : Nat × GroupState :=
  let index := if state.nextIndex = 0 then 1 else state.nextIndex
  (index, { state with nextIndex := min (index + 1) U32_MAX })

def nextAvailableJoinLeaf : EStateM CityGError GroupState Bytes32 := do
  check fun state => do
    let capacity ← barrierLeafCapacity state
    ensure (capacity.remainingCoverLeafSlots ≠ 0) capacityExhausted
  modify (·.syncNextIndex)
  let index ← modifyGet (·.allocateLeaf)
  pure (sequentialLeaf index)

def chooseJoinLeaf (refusalPercent : Nat) :
    Option Bytes32 → EStateM CityGError GroupState Bytes32
  | some leafId => do
    check fun state => ensure (leafId ∉ state.activeLeaves)
      (.invalidInput "leaf already present in roster")
    check (ensureJoinCapacityAllowsExistingLeafReservation leafId refusalPercent)
    pure leafId
  | none => do
    check (ensureJoinCapacityAllowsFreshReservation refusalPercent)
    nextAvailableJoinLeaf

structure JoinReservation where
  parentRoot : Bytes32
  leafId : Bytes32
  lease : SlotLease
  parentLeaves : List Bytes32

def reserveJoin (H : MerkleHash) (refusalPercent : Nat) (leafIdOverride : Option Bytes32) :
    EStateM CityGError GroupState JoinReservation := do
  let parentLeaves ← check fun state => pure state.activeLeaves.keys
  let leafId ← chooseJoinLeaf refusalPercent leafIdOverride
  let lease ← GroupState.allocateSlotLease leafId
  let parentRoot ← check fun _ => setRoot H parentLeaves
  pure ⟨parentRoot, leafId, lease, parentLeaves⟩

structure BarrierJoinOccupancyRecord where
  devicePk : Bytes
  slotIndex : Nat
  slotGeneration : Nat
  ekLeaf : Bytes
  deriving DecidableEq

section Occupancies
variable (env : ServerEnv) (gid : Bytes)

def revokedOccupancies (state : GroupState) : List SlotLease :=
  (OrdSet.ofList (state.revokedSlotLeases.values.map fun lease =>
    toLex (lease.slotIndex, lease.slotGeneration))).keys.map fun key =>
      ⟨(ofLex key).1, (ofLex key).2⟩

def resolveRevokedOccupancies (revocationRootsHash : Bytes32) :
    EStateM CityGError GroupState (List SlotLease) := do
  check fun state => ensure (state.barrierRootsHash = revocationRootsHash)
    (.invalidInput "revocation_roots_hash does not match committed barrier roots")
  let _ ← ensureCurrentHistoryCommitment env.hL env.wire gid
  check fun state => ensure (¬ (state.revokedSlotLeases.isEmpty ∧ state.revoked.isEmpty = false))
    (.invalidInput "missing revoked slot leases for committed revocations")
  check fun state => pure (revokedOccupancies state)

def joinOccupancies (prevBarrierVersion : Nat) (state : GroupState) :
    Except CityGError (OrdMap Nat BarrierJoinOccupancyRecord) :=
  if prevBarrierVersion = 0 ∧ state.barrierVersion = 0 then do
    let snapshot ← ofOption (.invalidInput "genesis provisioning artifact missing")
      state.latestSnapshot
    snapshot.members.keys.foldlM (fun byLeaf leaf => do
      let lease ← requireActiveSlotLease state leaf
      checkedInsertUnique byLeaf lease.slotIndex
        ⟨(state.leafDevicePk.get? leaf).getD leaf.val, lease.slotIndex, lease.slotGeneration,
          (state.leafBarrierPublic.get? leaf).getD []⟩
        "duplicate active cover leaf allocation") .empty
  else
    state.joinHistory.foldlM (fun byLeaf record =>
      if prevBarrierVersion < record.barrierVersion ∧ record.leafId ∈ state.activeLeaves then
        checkedInsertUnique byLeaf record.slotIndex
          ⟨record.devicePk, record.slotIndex, record.slotGeneration, record.ekLeaf⟩
          "duplicate active cover leaf allocation"
      else .ok byLeaf) .empty

def resolveJoinOccupanciesSince (prevBarrierVersion : Nat) :
    EStateM CityGError GroupState (List BarrierJoinOccupancyRecord) := do
  check ensureDistinctActiveSlotIndices
  update pruneJoinHistory
  let _ ← ensureCurrentHistoryCommitment env.hL env.wire gid
  let byLeaf ← check (joinOccupancies prevBarrierVersion)
  pure byLeaf.values

structure JoinProvisioning where
  currentHistoryCommitment : HistoryCommitment
  currentBarrierUpdate : Bytes
  currentPredecessorKemTreeHashAfter : Bytes32
  nMax : Nat
  currentJoinOccupancies : List BarrierJoinOccupancyRecord
  currentRevokedOccupancies : List SlotLease

def currentOccupancies (currentUpdate : Bytes) :
    EStateM CityGError GroupState (List BarrierJoinOccupancyRecord × List SlotLease) := do
  let wire ← check fun _ => ofOption barrierUpdateMalformed (env.wire.barrierUpdate currentUpdate)
  let rootsHash ← check fun _ => vecTo32 wire.revocationRootsHash
  let revoked ← resolveRevokedOccupancies env gid rootsHash
  let joined ← resolveJoinOccupanciesSince env gid wire.prevBarrierVersion
  pure (joined, revoked)

def joinProvisioning (barrier : BarrierGroupState) (parentRoot : Bytes32) :
    EStateM CityGError GroupState JoinProvisioning := do
  let commitment ← ensureCurrentHistoryCommitment env.hL env.wire gid
  let currentUpdate ← check fun state => pure state.currentAcceptedBarrierUpdate
  let predecessor ← check fun state => pure (state.acceptedPredecessorHash env.wire)
  let nMax ← check fun _ => validateBarrierNMax barrier.nMax
  let required := decide (parentRoot ≠ .zero ∨ 0 < barrier.barrierVersion)
  check fun _ => ensure (required → currentUpdate ≠ [])
    (.invalidInput "current barrier_update missing for join provisioning")
  check fun _ => ensure (required → predecessor ≠ .zero)
    (.invalidInput "current barrier predecessor hash missing for join provisioning")
  let occupancies ← if required then currentOccupancies env gid currentUpdate else pure ([], [])
  pure ⟨commitment, currentUpdate, predecessor, nMax, occupancies.1, occupancies.2⟩

end Occupancies

structure JoinTicketBundle where
  gid : Bytes32
  parentRoot : Bytes32
  revokedRoot : Bytes32
  revokedSinceRoot : Bytes32
  tsweSaltHash : Bytes32
  joinDeltaRoot : Bytes32
  leafId : Bytes32
  witnessCbor : Bytes
  srxCbor : Bytes
  kbroadPublic : Bytes
  kbroadGeneration : Nat
  barrierVersion : Nat
  slotIndex : Nat
  slotGeneration : Nat
  kemTreeHashAfter : Bytes32
  provisioning : JoinProvisioning
  joinFinalizeAuthToken : Bytes32
  lastAcceptedEc : Nat
  maxBarrierUpdateBytes : Nat

structure FreshValues where
  kbroadPublic : Bytes
  joinFinalizeAuthToken : Bytes32

namespace CityGServer

variable (env : ServerEnv)

def requireKbroadKey (gid : Bytes) (server : CityGServer) : Except CityGError Bytes :=
  ofOption (.invalidInput "kbroad key missing") (server.kbroadKey gid)

def buildJoinTicketWithLeaf (gid : Bytes32) (leafIdOverride : Option Bytes32) (fresh : FreshValues) :
    ServerM JoinTicketBundle := do
  ensureKbroadReady gid fresh.kbroadPublic
  let refusalPercent ← check fun server => pure server.barrierLeafCapacityRefusalPercent
  let reservation ← onGroup gid.val (reserveJoin env.merkle refusalPercent leafIdOverride)
  let revokedAll ← check fun server => pure (server.roster.revoked gid.val)
  let revokedRoot ← check fun _ => setRoot env.merkle revokedAll
  let joinDeltaRoot ← check fun _ => setRoot env.merkle [reservation.leafId]
  let artifacts ← check fun _ => env.ticketArtifacts reservation.parentLeaves [reservation.leafId]
    reservation.parentRoot revokedAll revokedRoot revokedAll revokedRoot
  let kbroadPublic ← check (requireKbroadKey gid.val)
  let kbroadGeneration ← check fun server => pure (server.roster.group gid.val).kbroadGeneration
  let barrier ← check fun server => pure (server.ctx.barrierGroupStateEntry gid.val)
  let provisioning ← onGroup gid.val
    (joinProvisioning env gid.val barrier reservation.parentRoot)
  onGroup gid.val (modify (·.insertPending
    ⟨reservation.leafId, reservation.lease, fresh.joinFinalizeAuthToken⟩))
  pure {
    gid := gid
    parentRoot := reservation.parentRoot
    revokedRoot := revokedRoot
    revokedSinceRoot := revokedRoot
    tsweSaltHash := env.codec.tsweSaltHash gid.val reservation.parentRoot.val
    joinDeltaRoot := joinDeltaRoot
    leafId := reservation.leafId
    witnessCbor := artifacts.1
    srxCbor := artifacts.2
    kbroadPublic := kbroadPublic
    kbroadGeneration := kbroadGeneration
    barrierVersion := barrier.barrierVersion
    slotIndex := reservation.lease.slotIndex
    slotGeneration := reservation.lease.slotGeneration
    kemTreeHashAfter := barrier.kemTreeHashAfter
    provisioning := provisioning
    joinFinalizeAuthToken := fresh.joinFinalizeAuthToken
    lastAcceptedEc := barrier.lastAcceptedEc
    maxBarrierUpdateBytes := barrier.maxBarrierUpdateBytes }

def buildJoinTicket (gid : Bytes32) (fresh : FreshValues) : ServerM JoinTicketBundle :=
  buildJoinTicketWithLeaf env gid none fresh

end CityGServer

structure MergeTicketBundle where
  gid : Bytes32
  parentRoot : Bytes32
  leafId : Bytes32
  pivotWeEpochId : Bytes32
  parities : List PivotParity
  srxCbor : Bytes
  joinDeltaRoot : Bytes32
  revokedSinceRoot : Bytes32
  revokedRoot : Bytes32
  tsweSaltHash : Bytes32
  kbroadPublic : Bytes
  kbroadGeneration : Nat
  barrierVersion : Nat
  slotIndex : Nat
  slotGeneration : Nat
  kemTreeHashAfter : Bytes32
  currentHistoryCommitment : HistoryCommitment
  lastAcceptedEc : Nat
  nMax : Nat
  maxBarrierUpdateBytes : Nat

def pendingJoinFinalizeReclaim (state : GroupState) (author : Bytes32) (authorSlotIndex : Nat)
    (revokedLeafId : Option Bytes32) : Bool :=
  revokedLeafId.isNone ∧ author ∈ state.pendingJoinFinalizeAuth ∧
    authorSlotIndex ∈ committedRevokedSlotIndices state

structure MergeSlots where
  authorSlotIndex : Nat
  reclaim : Bool
  currentHistoryCommitment : HistoryCommitment
  targetLease : SlotLease

def mergeSlots (env : ServerEnv) (gid : Bytes) (author : Bytes32) (revokedLeafId : Option Bytes32) :
    EStateM CityGError GroupState MergeSlots := do
  let authorLease ← check fun state => requirePendingOrActiveSlotLease state author
  let reclaim ← check fun state =>
    pure (pendingJoinFinalizeReclaim state author authorLease.slotIndex revokedLeafId)
  let commitment ← ensureCurrentHistoryCommitment env.hL env.wire gid
  let targetLease ← check fun state =>
    requirePendingOrActiveSlotLease state (revokedLeafId.getD author)
  pure ⟨authorLease.slotIndex, reclaim, commitment, targetLease⟩

def withoutSlot (state : GroupState) (slotIndex : Nat) (revoked : List Bytes32) :
    Except CityGError (List Bytes32) :=
  revoked.foldlM (fun filtered leaf => do
    let lease ← requireRevokedSlotLease state leaf
    pure (if lease.slotIndex ≠ slotIndex then filtered ++ [leaf] else filtered)) []

def mergeRevokedAll (state : GroupState) (revokedLeafId : Option Bytes32) (slots : MergeSlots) :
    Except CityGError (List Bytes32) := do
  let all := (state.revoked.addAll revokedLeafId.toList).keys
  if slots.reclaim then withoutSlot state slots.authorSlotIndex all else pure all

def mergeRevokedSince (revokedLeafId : Option Bytes32) (revokedAll : List Bytes32) :
    List Bytes32 :=
  match revokedLeafId with
  | some target => [target]
  | none => revokedAll

def windowLE (left right : List PivotParity) : Prop :=
  let maxFs := fun parities : List PivotParity => (parities.filterMap (·.fsEc)).foldl max 0
  let bestAccept := fun parities : List PivotParity => (parities.map (·.acceptSeq)).foldl max 0
  let bestWeid := fun parities : List PivotParity =>
    ((parities.map (·.weEpochId)).min?).getD .zero
  maxFs left < maxFs right ∨ maxFs left = maxFs right ∧
    (bestAccept left < bestAccept right ∨ bestAccept left = bestAccept right ∧
      bestWeid right ≤ bestWeid left)

instance : DecidableRel windowLE := fun left right => by
  unfold windowLE
  infer_instance

def bestWindow : List (List PivotParity) → Option (List PivotParity)
  | [] => none
  | first :: rest => some (rest.foldl (fun best next => if windowLE best next then next else best) first)

def liveParities (ctx : AcceptanceContext) (parities : List PivotParity) :
    List (Bytes × PivotParity) :=
  parities.filterMap fun parity =>
    (ctx.mhWindow.findHeadWindow parity.weEpochId).bind fun wid =>
      (ctx.mhWindow.findHead wid parity.weEpochId).map fun _ => (wid, parity)

def ticketParities (ctx : AcceptanceContext) (parities : List PivotParity) :
    Except CityGError (List PivotParity) := do
  let byWindow := (liveParities ctx parities).foldl
    (fun windows e => windows.insert e.1 ((windows.get? e.1).getD [] ++ [e.2]))
    (OrdMap.empty : OrdMap Bytes (List PivotParity))
  let best ← ofOption (.invalidInput "no pivot parity available") (bestWindow byWindow.values)
  pure (best.insertionSort fun a b => b.acceptSeq < a.acceptSeq ∨
    b.acceptSeq = a.acceptSeq ∧ a.weEpochId ≤ b.weEpochId)

/-- `pivot_parities_for`, which drops the expired parities first. -/
def AcceptanceContext.prunePivots (ctx : AcceptanceContext) : AcceptanceContext :=
  ctx.setPivotStore (ctx.pivotStore.prune ctx.clock.last)

namespace CityGServer

def checkMergeMembers (author : Bytes32) (revokedLeafId : Option Bytes32) (members : OrdSet Bytes32) :
    Except CityGError Unit := do
  ensure (author ∈ members) (.invalidInput "leaf not present in roster")
  ensure (∀ target ∈ revokedLeafId, target ∈ members)
    (.invalidInput "target leaf not present in roster")

def mergeParent (gid : Bytes) (server : CityGServer) : Except CityGError (Bytes32 × OrdSet Bytes32) := do
  let group := server.roster.group gid
  ensureDistinctActiveSlotIndices group
  let parentRoot ← ofOption (.invalidInput "no anchors accepted for group") group.latestRoot
  let snapshot ← ofOption (.invalidInput "unknown membership root") (group.snapshots.get? parentRoot)
  pure (parentRoot, snapshot.members)

variable (env : ServerEnv)

def mergeSrxCbor (members : List Bytes32) (parentRoot : Bytes32) (revokedSince revokedAll : List Bytes32)
    (revokedSinceRoot revokedRoot : Bytes32) : Option Bytes32 → Except CityGError Bytes
  | some _ => do
    let artifacts ← env.ticketArtifacts members [] parentRoot revokedSince revokedSinceRoot
      revokedAll revokedRoot
    pure artifacts.2
  | none => pure []

def buildMergeTicketCore (gid author : Bytes32) (revokedLeafId : Option Bytes32)
    (freshKbroadPublic : Bytes) : ServerM MergeTicketBundle := do
  ensureKbroadReady gid freshKbroadPublic
  let base ← check (mergeParent gid.val)
  check fun _ => checkMergeMembers author revokedLeafId base.2
  let slots ← onGroup gid.val (mergeSlots env gid.val author revokedLeafId)
  let revokedAll ← check fun server =>
    mergeRevokedAll (server.roster.group gid.val) revokedLeafId slots
  let revokedSince := mergeRevokedSince revokedLeafId revokedAll
  let revokedSinceRoot ← check fun _ => setRoot env.merkle revokedSince
  let revokedRoot ← check fun _ => setRoot env.merkle revokedAll
  let srxCbor ← check fun _ => mergeSrxCbor env base.2.keys base.1 revokedSince revokedAll
    revokedSinceRoot revokedRoot revokedLeafId
  modify fun server => server.setCtx server.ctx.prunePivots
  let parities ← check fun server =>
    ticketParities server.ctx (server.ctx.pivotStore.list gid.val base.1)
  let kbroadPublic ← check (requireKbroadKey gid.val)
  let kbroadGeneration ← check fun server => pure (server.roster.group gid.val).kbroadGeneration
  let barrier ← check fun server => pure (server.ctx.barrierGroupStateEntry gid.val)
  let nMax ← check fun _ => validateBarrierNMax barrier.nMax
  pure {
    gid := gid
    parentRoot := base.1
    leafId := author
    pivotWeEpochId := (parities.head?.map (·.weEpochId)).getD .zero
    parities := parities
    srxCbor := srxCbor
    joinDeltaRoot := .zero
    revokedSinceRoot := revokedSinceRoot
    revokedRoot := revokedRoot
    tsweSaltHash := env.codec.tsweSaltHash gid.val base.1.val
    kbroadPublic := kbroadPublic
    kbroadGeneration := kbroadGeneration
    barrierVersion := barrier.barrierVersion
    slotIndex := slots.targetLease.slotIndex
    slotGeneration := slots.targetLease.slotGeneration
    kemTreeHashAfter := barrier.kemTreeHashAfter
    currentHistoryCommitment := slots.currentHistoryCommitment
    lastAcceptedEc := barrier.lastAcceptedEc
    nMax := nMax
    maxBarrierUpdateBytes := barrier.maxBarrierUpdateBytes }

def buildMergeTicket (gid leafId : Bytes32) (freshKbroadPublic : Bytes) : ServerM MergeTicketBundle :=
  buildMergeTicketCore env gid leafId (some leafId) freshKbroadPublic

def buildMergeTicketForRefresh (gid leafId : Bytes32) (freshKbroadPublic : Bytes) :
    ServerM MergeTicketBundle :=
  buildMergeTicketCore env gid leafId none freshKbroadPublic

def buildMergeTicketForTargetedRevocation (gid author target : Bytes32)
    (freshKbroadPublic : Bytes) : ServerM MergeTicketBundle :=
  buildMergeTicketCore env gid author (some target) freshKbroadPublic

def onKnownGroup {α : Type} (gid : Bytes32) (x : EStateM CityGError GroupState α) : ServerM α := do
  check fun server => ensure (gid.val ∈ server.roster) (.invalidInput "group not found")
  onGroup gid.val x

def resolveRevokedOccupancies (gid revocationRootsHash : Bytes32) : ServerM (List SlotLease) :=
  onKnownGroup gid (CityG.resolveRevokedOccupancies env gid.val revocationRootsHash)

def resolveJoinOccupanciesSince (gid : Bytes32) (prevBarrierVersion : Nat) :
    ServerM (List BarrierJoinOccupancyRecord) :=
  onKnownGroup gid (CityG.resolveJoinOccupanciesSince env gid.val prevBarrierVersion)

def currentHistoryCommitment (gid : Bytes32) : ServerM HistoryCommitment :=
  onKnownGroup gid (ensureCurrentHistoryCommitment env.hL env.wire gid.val)

end CityGServer

end CityG
