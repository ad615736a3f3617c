import CityG.Lib.OrdMap
import CityG.Lib.Run
import CityG.Merkle

/-!
# The server's roster

Per group the server keeps every membership set it has seen by root, the set of
revoked leaves, the slot allocator and the committed barrier state. The state
is a flat record; the functions of the later modules update the parts they own.
-/

namespace CityG

structure SlotLease where
  slotIndex : Nat
  slotGeneration : Nat
  deriving DecidableEq, Repr

structure JoinLeafHistoryRecord where
  leafId : Bytes32
  barrierVersion : Nat
  slotIndex : Nat
  slotGeneration : Nat
  devicePk : Bytes
  ekLeaf : Bytes
  deriving DecidableEq

structure AcceptedBarrierMergeRecord where
  barrierVersion : Nat
  fsEc : Nat
  reason : Nat
  digest : Bytes32
  weEpochId : Bytes32
  deriving DecidableEq

structure JoinFinalizeAuthRecord where
  leafId : Bytes32
  lease : SlotLease
  token : Bytes32
  deriving DecidableEq

structure HistoryCommitment where
  historyViewId : Bytes32 := Bytes32.zero
  historyCommitmentId : Bytes32 := Bytes32.zero
  prevHistoryCommitmentId : Bytes32 := Bytes32.zero
  historySeq : Nat := 0
  deriving DecidableEq

/-- A stored public tree; its entries are indices into the group's blobs. -/
structure BarrierPublicTreeSnapshotRef where
  blobIndices : List Nat
  barrierVersion : Nat
  historyViewId : Bytes32
  historyCommitment : HistoryCommitment
  deriving DecidableEq

structure MembershipDelta where
  joined : List Bytes32 := []
  revoked : List Bytes32 := []
  deriving DecidableEq

structure GroupMembership where
  members : OrdSet Bytes32 := .empty
  deriving DecidableEq

def GroupMembership.applyDelta (m : GroupMembership) (delta : MembershipDelta) : GroupMembership :=
  ⟨(m.members.eraseAll delta.revoked).addAll delta.joined⟩

def DEFAULT_BARRIER_N_MAX : Nat := 1024
def MAX_BARRIER_N_MAX : Nat := 65536

structure GroupState where
  latestRoot : Option Bytes32 := none
  snapshots : OrdMap Bytes32 GroupMembership := .empty
  revoked : OrdSet Bytes32 := .empty
  nextIndex : Nat := 0
  freeSlots : OrdSet Nat := .empty
  slotGenerations : OrdMap Nat Nat := .empty
  leafSlotLeases : OrdMap Bytes32 SlotLease := .empty
  revokedSlotLeases : OrdMap Bytes32 SlotLease := .empty
  kbroadGeneration : Nat := 0
  rotationRequired : Bool := false
  barrierInitialized : Bool := false
  barrierVersion : Nat := 0
  barrierRootsHash : Bytes32 := Bytes32.zero
  kemTreeHashAfter : Bytes32 := Bytes32.zero
  lastCheckpointEc : Nat := 0
  lastAcceptedEc : Nat := 0
  srxRootSw : Option Bytes32 := none
  nMax : Nat := DEFAULT_BARRIER_N_MAX
  lastPcsRefreshEc : Option Nat := none
  pcsRefreshMinDeltaDeviceEc : Nat := 1
  pcsRefreshMinDeltaGroupEc : Nat := 1
  pcsRefreshSlotWidthEc : Nat := 1
  maxBarrierUpdateBytes : Nat := 1048576
  acceptedBarrierMerges : OrdMap Nat AcceptedBarrierMergeRecord := .empty
  joinHistory : List JoinLeafHistoryRecord := []
  leafDevicePk : OrdMap Bytes32 Bytes := .empty
  leafBarrierPublic : OrdMap Bytes32 Bytes := .empty
  barrierPkEntries : List Bytes := []
  barrierPublicTreeBlobs : List Bytes := []
  barrierPublicTreeBlobIndex : OrdMap Bytes Nat := .empty
  barrierPublicTreeHistory : OrdMap Bytes32 BarrierPublicTreeSnapshotRef := .empty
  barrierHashCache : Option (OrdMap Nat Bytes32) := none
  currentHistoryCommitment : HistoryCommitment := {}
  currentAcceptedBarrierUpdate : Bytes := []
  currentAcceptedBarrierPredecessorHash : Bytes32 := Bytes32.zero
  pendingJoinFinalizeAuth : OrdMap Bytes32 JoinFinalizeAuthRecord := .empty
  roomAdminPopKeys : OrdSet Bytes := .empty
  roomAdminProofReplayKeys : OrdSet Bytes32 := .empty
  deriving DecidableEq

def leafSuffixU32 (leaf : Bytes32) : Nat :=
  (leaf.val.drop 28).foldl (fun acc byte => acc * 256 + byte.val) 0

namespace GroupState

def latestSnapshot (state : GroupState) : Option GroupMembership :=
  state.latestRoot.bind state.snapshots.get?

def syncNextIndex (state : GroupState) : GroupState :=
  let suffixes := state.snapshots.values.flatMap fun set => set.members.keys.map leafSuffixU32
  let candidate := min (suffixes.foldl max 0 + 1) U32_MAX
  { state with nextIndex := if state.nextIndex < candidate then candidate else state.nextIndex }

/-- The set a delta starts from: a stored snapshot, or the empty set when the
group has none and the base is the zero root. -/
def baseSnapshot (state : GroupState) (baseRoot : Bytes32) : Option GroupMembership :=
  match state.snapshots.get? baseRoot with
  | some snapshot => some snapshot
  | none => if baseRoot.isZero ∧ state.snapshots.isEmpty then some {} else none

def stageDelta (state : GroupState) (baseRoot : Bytes32) (base : GroupMembership)
    (delta : MembershipDelta) : GroupState :=
  { state with
    snapshots := if baseRoot ∈ state.snapshots then state.snapshots
      else state.snapshots.insert baseRoot base
    revoked := (state.revoked.eraseAll delta.joined).addAll delta.revoked }

def commitSnapshot (state : GroupState) (newRoot : Bytes32) (next : GroupMembership) : GroupState :=
  syncNextIndex { state with
    snapshots := state.snapshots.insert newRoot next
    latestRoot := some newRoot }

def applyDelta (H : MerkleHash) (state : GroupState) (baseRoot : Bytes32)
    (delta : MembershipDelta) : GroupState × Except CityGError Bytes32 :=
  match state.baseSnapshot baseRoot with
  | none => (state, .error (.invalidInput "unknown membership base root"))
  | some base =>
    let staged := state.stageDelta baseRoot base delta
    if ∃ leaf ∈ delta.revoked, leaf ∉ base.members then
      (staged, .error (.invalidInput "revoking non-member"))
    else if ∃ leaf ∈ delta.joined, leaf ∈ base.members then
      (staged, .error (.invalidInput "duplicate join"))
    else
      let next := base.applyDelta delta
      match canonicalSetRoot H next.members.keys with
      | .error _ => (staged, .error (.invalidInput "unable to compute membership root"))
      | .ok newRoot => (staged.commitSnapshot newRoot next, .ok newRoot)

theorem applyDelta_edits {H : MerkleHash} {state state' : GroupState} {baseRoot root : Bytes32}
    {delta : MembershipDelta} (h : state.applyDelta H baseRoot delta = (state', .ok root)) :
    ∃ latestRoot snapshots revoked nextIndex, state' =
      { state with latestRoot := latestRoot, snapshots := snapshots, revoked := revoked,
                   nextIndex := nextIndex } := by
  unfold applyDelta at h
  split at h
  · cases h
  · dsimp only at h
    split_ifs at h
    · cases h
    · cases h
    · split at h
      · cases h
      · cases h
        exact ⟨_, _, _, _, rfl⟩

end GroupState

abbrev GroupRoster := OrdMap Bytes GroupState

namespace GroupRoster

def group (roster : GroupRoster) (gid : Bytes) : GroupState := (roster.get? gid).getD {}

def applyDelta (H : MerkleHash) (roster : GroupRoster) (gid : Bytes) (baseRoot : Bytes32)
    (delta : MembershipDelta) : GroupRoster × Except CityGError Bytes32 :=
  let (state, result) := (group roster gid).applyDelta H baseRoot delta
  (roster.insert gid state, result)

def members (roster : GroupRoster) (gid : Bytes) : List Bytes32 :=
  match (roster.get? gid).bind GroupState.latestSnapshot with
  | some set => set.members.keys
  | none => []

def revoked (roster : GroupRoster) (gid : Bytes) : List Bytes32 :=
  match roster.get? gid with
  | some state => state.revoked.keys
  | none => []

theorem mem_members {roster : GroupRoster} {gid : Bytes} {leaf : Bytes32} :
    leaf ∈ members roster gid ↔
      ∃ set, (group roster gid).latestSnapshot = some set ∧ leaf ∈ set.members := by
  unfold members group
  cases roster.get? gid with
  | none => simp [GroupState.latestSnapshot]
  | some state =>
    cases hset : state.latestSnapshot with
    | none => simp [hset]
    | some set => simp [hset, OrdMap.mem_keys]

end GroupRoster

end CityG
