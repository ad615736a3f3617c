import CityG.BarrierHistory

/-!
# The persisted room state

What the server writes for a group and how a group is restored from it. Slot
generations and free slots are not part of the record.
-/

namespace CityG

abbrev HexText := List Char

structure HexCodec where
  encode : Bytes → HexText
  decode : HexText → Option Bytes
  decode_encode : ∀ b, decode (encode b) = some b

namespace HexCodec

variable (hex : HexCodec)

def encode32 (b : Bytes32) : HexText := hex.encode b.val

/-- `hex::decode(..).ok().and_then(|bytes| bytes.try_into().ok())`. -/
def decode32 (s : HexText) : Option Bytes32 := (hex.decode s).bind toBytes32

@[simp] theorem decode32_encode32 (b : Bytes32) : hex.decode32 (hex.encode32 b) = some b := by
  simp [decode32, encode32, hex.decode_encode]

end HexCodec

structure PersistedHistoryCommitment where
  historyViewIdHex : HexText := []
  historyCommitmentIdHex : HexText := []
  prevHistoryCommitmentIdHex : HexText := []
  historySeq : Nat := 0
  deriving DecidableEq

structure PersistedBarrierPublicTreeSnapshot where
  kemTreeHashAfterHex : HexText
  barrierVersion : Nat
  historyViewIdHex : HexText
  historyCommitment : PersistedHistoryCommitment
  blobIndices : List Nat
  pkEntries : List Bytes
  deriving DecidableEq

structure PersistedAcceptedBarrierMergeRecord where
  barrierVersion : Nat
  fsEc : Nat
  reason : Nat
  digestHex : HexText
  weEpochIdHex : HexText
  deriving DecidableEq

structure PersistedJoinFinalizeAuthRecord where
  leafIdHex : HexText
  slotIndex : Nat
  slotGeneration : Nat
  tokenHex : HexText
  deriving DecidableEq

structure PersistedLeafSlotLeaseRecord where
  leafIdHex : HexText
  slotIndex : Nat
  slotGeneration : Nat
  deriving DecidableEq

structure PersistedDeviceChainState where
  devicePk : Bytes
  lastCommit : Option Bytes32
  lastEc : Nat
  lastPcsRefreshEc : Option Nat
  deriving DecidableEq

structure PersistedKbroadRoomState where
  kbroadPublic : Bytes
  kbroadGeneration : Nat
  rotationRequired : Bool
  roomAdminPopKeys : List Bytes := []
  roomAdminProofReplayKeys : List Bytes32 := []
  revokedLeafIdsHex : List HexText := []
  barrierInitialized : Bool := false
  barrierVersion : Nat := 0
  barrierRootsHash : Bytes32 := Bytes32.zero
  kemTreeHashAfter : Bytes32 := Bytes32.zero
  lastCheckpointEc : Nat := 0
  lastAcceptedEc : Nat := 0
  srxRootSw : Option Bytes32 := none
  barrierPkEntries : List Bytes := []
  barrierPublicTreeBlobs : List Bytes := []
  barrierPublicTreeHistory : List PersistedBarrierPublicTreeSnapshot := []
  nMax : Nat := DEFAULT_BARRIER_N_MAX
  lastPcsRefreshEc : Option Nat := none
  pcsRefreshMinDeltaDeviceEc : Nat := 1
  pcsRefreshMinDeltaGroupEc : Nat := 1
  pcsRefreshSlotWidthEc : Nat := 1
  maxBarrierUpdateBytes : Nat := 1048576
  acceptedBarrierMerges : List PersistedAcceptedBarrierMergeRecord := []
  currentHistoryCommitment : PersistedHistoryCommitment := {}
  currentAcceptedBarrierUpdate : Bytes := []
  currentAcceptedBarrierPredecessorHash : Bytes32 := Bytes32.zero
  pendingJoinFinalizeAuth : List PersistedJoinFinalizeAuthRecord := []
  activeSlotLeases : List PersistedLeafSlotLeaseRecord := []
  revokedSlotLeases : List PersistedLeafSlotLeaseRecord := []
  deviceChainStates : List PersistedDeviceChainState := []
  deriving DecidableEq

section
variable (hex : HexCodec)

def persistedHistoryCommitment (commitment : HistoryCommitment) : PersistedHistoryCommitment where
  historyViewIdHex := hex.encode32 commitment.historyViewId
  historyCommitmentIdHex := hex.encode32 commitment.historyCommitmentId
  prevHistoryCommitmentIdHex := hex.encode32 commitment.prevHistoryCommitmentId
  historySeq := commitment.historySeq

def persistedBarrierPublicTreeHistory (state : GroupState) :
    List PersistedBarrierPublicTreeSnapshot :=
  state.barrierPublicTreeHistory.entries.map fun e =>
    { kemTreeHashAfterHex := hex.encode32 e.1
      barrierVersion := e.2.barrierVersion
      historyViewIdHex := hex.encode32 e.2.historyViewId
      historyCommitment := persistedHistoryCommitment hex e.2.historyCommitment
      blobIndices := e.2.blobIndices
      pkEntries := [] }

def persistedAcceptedBarrierMerges (state : GroupState) :
    List PersistedAcceptedBarrierMergeRecord :=
  state.acceptedBarrierMerges.values.map fun record =>
    { barrierVersion := record.barrierVersion
      fsEc := record.fsEc
      reason := record.reason
      digestHex := hex.encode32 record.digest
      weEpochIdHex := hex.encode32 record.weEpochId }

def persistedJoinFinalizeAuth (state : GroupState) : List PersistedJoinFinalizeAuthRecord :=
  state.pendingJoinFinalizeAuth.values.map fun record =>
    { leafIdHex := hex.encode32 record.leafId
      slotIndex := record.lease.slotIndex
      slotGeneration := record.lease.slotGeneration
      tokenHex := hex.encode32 record.token }

def persistedLeafSlotLeases (leases : OrdMap Bytes32 SlotLease) :
    List PersistedLeafSlotLeaseRecord :=
  leases.entries.map fun e =>
    { leafIdHex := hex.encode32 e.1
      slotIndex := e.2.slotIndex
      slotGeneration := e.2.slotGeneration }

def persistedKbroadRoomState (state : Option GroupState) (kbroadPublic : Bytes)
    (kbroadGeneration : Nat) (rotationRequired : Bool)
    (deviceChainStates : List PersistedDeviceChainState) : PersistedKbroadRoomState :=
  match state with
  | none => { kbroadPublic, kbroadGeneration, rotationRequired, deviceChainStates }
  | some state =>
    -- A failed pruning is ignored; its edits are kept.
    let state := pruneBarrierPublicTreeHistory.final state
    { kbroadPublic, kbroadGeneration, rotationRequired, deviceChainStates
      roomAdminPopKeys := state.roomAdminPopKeys.keys
      roomAdminProofReplayKeys := state.roomAdminProofReplayKeys.keys
      revokedLeafIdsHex := state.revoked.keys.map hex.encode32
      barrierInitialized := state.barrierInitialized
      barrierVersion := state.barrierVersion
      barrierRootsHash := state.barrierRootsHash
      kemTreeHashAfter := state.kemTreeHashAfter
      lastCheckpointEc := state.lastCheckpointEc
      lastAcceptedEc := state.lastAcceptedEc
      srxRootSw := state.srxRootSw
      barrierPkEntries := state.barrierPkEntries
      barrierPublicTreeBlobs := state.barrierPublicTreeBlobs
      barrierPublicTreeHistory := persistedBarrierPublicTreeHistory hex state
      nMax := max state.nMax 1
      lastPcsRefreshEc := state.lastPcsRefreshEc
      pcsRefreshMinDeltaDeviceEc := max state.pcsRefreshMinDeltaDeviceEc 1
      pcsRefreshMinDeltaGroupEc := max state.pcsRefreshMinDeltaGroupEc 1
      pcsRefreshSlotWidthEc := max state.pcsRefreshSlotWidthEc 1
      maxBarrierUpdateBytes := state.maxBarrierUpdateBytes
      acceptedBarrierMerges := persistedAcceptedBarrierMerges hex state
      currentHistoryCommitment := persistedHistoryCommitment hex state.currentHistoryCommitment
      currentAcceptedBarrierUpdate := state.currentAcceptedBarrierUpdate
      currentAcceptedBarrierPredecessorHash := state.currentAcceptedBarrierPredecessorHash
      pendingJoinFinalizeAuth := persistedJoinFinalizeAuth hex state
      activeSlotLeases := persistedLeafSlotLeases hex state.leafSlotLeases
      revokedSlotLeases := persistedLeafSlotLeases hex state.revokedSlotLeases }

def decodePersistedHistoryCommitment (hL : HashL) (gid : Bytes)
    (persisted : PersistedHistoryCommitment) (fallbackHistoryViewId : Bytes32) :
    HistoryCommitment :=
  let historyViewId := (hex.decode32 persisted.historyViewIdHex).getD fallbackHistoryViewId
  let historyCommitmentId := (hex.decode32 persisted.historyCommitmentIdHex).getD Bytes32.zero
  if historyCommitmentId = Bytes32.zero then synthesizeLegacyHistoryCommitment hL gid historyViewId
  else
    { historyViewId, historyCommitmentId
      prevHistoryCommitmentId :=
        (hex.decode32 persisted.prevHistoryCommitmentIdHex).getD Bytes32.zero
      historySeq := persisted.historySeq }

def decodePersistedAcceptedBarrierMerges (records : List PersistedAcceptedBarrierMergeRecord) :
    OrdMap Nat AcceptedBarrierMergeRecord :=
  OrdMap.ofList (records.filterMap fun record => do
    let digest ← hex.decode32 record.digestHex
    let weEpochId ← hex.decode32 record.weEpochIdHex
    pure (record.barrierVersion,
      ⟨record.barrierVersion, record.fsEc, record.reason, digest, weEpochId⟩))

def decodePersistedLeafSlotLeases (records : List PersistedLeafSlotLeaseRecord) :
    OrdMap Bytes32 SlotLease :=
  OrdMap.ofList (records.filterMap fun record => do
    let leafId ← hex.decode32 record.leafIdHex
    pure (leafId, ⟨record.slotIndex, record.slotGeneration⟩))

def decodePersistedJoinFinalizeAuth (records : List PersistedJoinFinalizeAuthRecord) :
    OrdMap Bytes32 JoinFinalizeAuthRecord :=
  OrdMap.ofList (records.filterMap fun record => do
    let leafId ← hex.decode32 record.leafIdHex
    let token ← hex.decode32 record.tokenHex
    pure (leafId, ⟨leafId, ⟨record.slotIndex, record.slotGeneration⟩, token⟩))

def restoreBarrierPublicTreeSnapshot (hL : HashL) (gid : Bytes)
    (snapshot : PersistedBarrierPublicTreeSnapshot) : EStateM CityGError GroupState Unit :=
  match hex.decode32 snapshot.kemTreeHashAfterHex with
  | none => pure ()
  | some hash =>
    let historyViewId := (hex.decode32 snapshot.historyViewIdHex).getD Bytes32.zero
    let commitment :=
      decodePersistedHistoryCommitment hex hL gid snapshot.historyCommitment historyViewId
    if snapshot.blobIndices = [] then do
      match ← (encodeBarrierPublicTreeSnapshotRef snapshot.pkEntries).attempt with
      | some ref => modify fun state =>
        state.putTree hash { ref with historyViewId, historyCommitment := commitment }
      | none => pure ()
    else do
      let state ← get
      let ref : BarrierPublicTreeSnapshotRef :=
        ⟨snapshot.blobIndices, snapshot.barrierVersion, historyViewId, commitment⟩
      match decodeBarrierPublicTreeSnapshotRef state.barrierPublicTreeBlobs ref with
      | .ok _ => set (state.putTree hash ref)
      | .error _ => pure ()

def restoreBarrierPublicTreeSnapshots (hL : HashL) (gid : Bytes) :
    List PersistedBarrierPublicTreeSnapshot → EStateM CityGError GroupState Unit
  | [] => pure ()
  | snapshot :: rest => do
    restoreBarrierPublicTreeSnapshot hex hL gid snapshot
    restoreBarrierPublicTreeSnapshots hL gid rest

def restoreCurrentTreeSnapshot (hL : HashL) (dec : WireDecoder) (gid : Bytes) :
    EStateM CityGError GroupState Unit := do
  let state ← get
  if state.barrierPublicTreeHistory.isEmpty ∧ state.barrierPkEntries ≠ [] then
    recordBarrierPublicTreeSnapshot hL dec gid
  else if state.barrierPkEntries ≠ [] then do
    let commitment ← ensureCurrentHistoryCommitment hL dec gid
    let state ← get
    match state.barrierPublicTreeHistory.get? state.kemTreeHashAfter with
    | none => do
      let ref ← encodeBarrierPublicTreeSnapshotRef state.barrierPkEntries
      modify fun after =>
        after.putTree state.kemTreeHashAfter (ref.committed state.barrierVersion commitment)
    | some ref =>
      if ref.historyViewId = Bytes32.zero ∨
          ref.historyCommitment.historyCommitmentId = Bytes32.zero then
        set (state.putTree state.kemTreeHashAfter (ref.committed ref.barrierVersion commitment))
      else pure ()
  else pure ()

/-- The group part of `apply_persisted_kbroad_state`: fields that the record
does not have keep what the group had. -/
def applyPersistedRoomState (hL : HashL) (dec : WireDecoder) (gid : Bytes)
    (room : PersistedKbroadRoomState) : EStateM CityGError GroupState Unit := do
  modify fun group => { group with
    kbroadGeneration := room.kbroadGeneration
    rotationRequired := room.rotationRequired
    roomAdminPopKeys := OrdSet.ofList room.roomAdminPopKeys
    roomAdminProofReplayKeys := OrdSet.ofList room.roomAdminProofReplayKeys
    revoked := OrdSet.ofList (room.revokedLeafIdsHex.filterMap hex.decode32)
    barrierInitialized := room.barrierInitialized
    barrierVersion := room.barrierVersion
    barrierRootsHash := room.barrierRootsHash
    kemTreeHashAfter := room.kemTreeHashAfter
    srxRootSw := room.srxRootSw }
  let nMax ← EStateM.ofExcept (validateBarrierNMax room.nMax)
  modify fun group => { group with
    nMax := nMax
    lastCheckpointEc := room.lastCheckpointEc
    lastAcceptedEc := room.lastAcceptedEc
    barrierPkEntries := room.barrierPkEntries
    barrierPublicTreeBlobs := room.barrierPublicTreeBlobs
    acceptedBarrierMerges := decodePersistedAcceptedBarrierMerges hex room.acceptedBarrierMerges
    currentHistoryCommitment :=
      decodePersistedHistoryCommitment hex hL gid room.currentHistoryCommitment Bytes32.zero
    currentAcceptedBarrierUpdate := room.currentAcceptedBarrierUpdate
    currentAcceptedBarrierPredecessorHash := room.currentAcceptedBarrierPredecessorHash
    pendingJoinFinalizeAuth := decodePersistedJoinFinalizeAuth hex room.pendingJoinFinalizeAuth
    leafSlotLeases := decodePersistedLeafSlotLeases hex room.activeSlotLeases
    revokedSlotLeases := decodePersistedLeafSlotLeases hex room.revokedSlotLeases }
  rebuildBarrierPublicTreeBlobIndex
  modify fun group => { group with barrierPublicTreeHistory := .empty }
  restoreBarrierPublicTreeSnapshots hex hL gid room.barrierPublicTreeHistory
  restoreCurrentTreeSnapshot hL dec gid
  pruneBarrierPublicTreeHistory
  modify fun group => { group with
    barrierHashCache := none
    lastPcsRefreshEc := room.lastPcsRefreshEc
    pcsRefreshMinDeltaDeviceEc := max room.pcsRefreshMinDeltaDeviceEc 1
    pcsRefreshMinDeltaGroupEc := max room.pcsRefreshMinDeltaGroupEc 1
    pcsRefreshSlotWidthEc := max room.pcsRefreshSlotWidthEc 1
    maxBarrierUpdateBytes := max room.maxBarrierUpdateBytes 1 }

theorem decodePersistedLeafSlotLeases_persisted (leases : OrdMap Bytes32 SlotLease) :
    decodePersistedLeafSlotLeases hex (persistedLeafSlotLeases hex leases) = leases := by
  rw [decodePersistedLeafSlotLeases, persistedLeafSlotLeases, List.filterMap_map]
  have hid : ∀ e : Bytes32 × SlotLease, ((fun record : PersistedLeafSlotLeaseRecord => do
      let leafId ← hex.decode32 record.leafIdHex
      pure (leafId, (⟨record.slotIndex, record.slotGeneration⟩ : SlotLease))) ∘ fun e =>
        ⟨hex.encode32 e.1, e.2.slotIndex, e.2.slotGeneration⟩) e = some e := by
    intro e
    simp
  rw [List.filterMap_congr fun e _ => hid e, List.filterMap_some, OrdMap.ofList_entries]

theorem decodePersistedJoinFinalizeAuth_persisted {state : GroupState}
    (hkeyed : ∀ leaf record, state.pendingJoinFinalizeAuth.get? leaf = some record →
      record.leafId = leaf) :
    decodePersistedJoinFinalizeAuth hex (persistedJoinFinalizeAuth hex state) =
      state.pendingJoinFinalizeAuth := by
  rw [decodePersistedJoinFinalizeAuth, persistedJoinFinalizeAuth, OrdMap.values, List.map_map,
    List.filterMap_map]
  refine Eq.trans ?_ (OrdMap.ofList_entries state.pendingJoinFinalizeAuth)
  congr 1
  refine (List.filterMap_congr ?_).trans List.filterMap_some
  rintro ⟨leaf, record⟩ hmem
  have hleaf := hkeyed leaf record (OrdMap.mem_entries_iff.mp hmem)
  subst hleaf
  simp

variable {hex} {hL : HashL} {dec : WireDecoder} {gid : Bytes}

theorem KeepsCore.rebuildIndex : KeepsCore rebuildBarrierPublicTreeBlobIndex := by
  intro state
  apply EStateM.KeepsAt.bind (EStateM.keepsAt_modify rfl)
  intro _ t _
  apply EStateM.KeepsAt.get_bind
  split_ifs
  · exact EStateM.keepsAt_throw _ _
  · exact EStateM.keepsAt_pure _ _

theorem KeepsCore.restoreSnapshot (snapshot : PersistedBarrierPublicTreeSnapshot) :
    KeepsCore (restoreBarrierPublicTreeSnapshot hex hL gid snapshot) := by
  intro state
  unfold restoreBarrierPublicTreeSnapshot
  split
  · exact EStateM.keepsAt_pure _ _
  · dsimp only
    split_ifs
    · apply EStateM.KeepsAt.bind (KeepsCore.encode snapshot.pkEntries state).attempt
      intro ref t _
      split
      · exact EStateM.keepsAt_modify rfl
      · exact EStateM.keepsAt_pure _ _
    · apply EStateM.KeepsAt.get_bind
      split
      · exact EStateM.keepsAt_set rfl
      · exact EStateM.keepsAt_pure _ _

theorem KeepsCore.restoreSnapshots (snapshots : List PersistedBarrierPublicTreeSnapshot) :
    KeepsCore (restoreBarrierPublicTreeSnapshots hex hL gid snapshots) := by
  induction snapshots with
  | nil => exact fun state => EStateM.keepsAt_pure _ _
  | cons snapshot rest ih =>
    intro state
    exact .bind (KeepsCore.restoreSnapshot snapshot state) fun _ t _ => ih t

theorem KeepsCore.restoreCurrent : KeepsCore (restoreCurrentTreeSnapshot hL dec gid) := by
  intro state
  apply EStateM.KeepsAt.get_bind
  split_ifs
  · exact KeepsCore.record hL dec gid state
  · apply EStateM.KeepsAt.bind (KeepsCore.ensureCurrent hL dec gid state)
    intro commitment t _
    apply EStateM.KeepsAt.get_bind
    split
    · exact .bind (KeepsCore.encode _ t) fun _ _ _ => EStateM.keepsAt_modify rfl
    · split_ifs
      · exact EStateM.keepsAt_set rfl
      · exact EStateM.keepsAt_pure _ _
  · exact EStateM.keepsAt_pure _ _

theorem applyPersistedRoomState_slots {room : PersistedKbroadRoomState} {group group' : GroupState}
    {u : Unit} (h : applyPersistedRoomState hex hL dec gid room group = .ok u group') :
    group'.leafSlotLeases = decodePersistedLeafSlotLeases hex room.activeSlotLeases ∧
    group'.pendingJoinFinalizeAuth =
      decodePersistedJoinFinalizeAuth hex room.pendingJoinFinalizeAuth ∧
    group'.slotGenerations = group.slotGenerations ∧ group'.freeSlots = group.freeSlots := by
  simp only [applyPersistedRoomState, EStateM.bind_eq_ok, EStateM.modify_eq_ok,
    EStateM.ofExcept_eq_ok] at h
  obtain ⟨_, t₀, h₀, nMax, t₁, ⟨_, h₁⟩, _, t₂, h₂, _, t₃, h₃, _, t₄, h₄, _, t₅, h₅, _, t₆, h₆,
    _, t₇, h₇, h₈⟩ := h
  have hcore : t₇.withoutHistory = t₂.withoutHistory := by
    rw [(KeepsCore.prune t₆).of_ok h₇, (KeepsCore.restoreCurrent t₅).of_ok h₆,
      (KeepsCore.restoreSnapshots _ t₄).of_ok h₅, ← (KeepsCore.rebuildIndex t₂).of_ok h₃, ← h₄]
    rfl
  have hleases := congrArg GroupState.leafSlotLeases hcore
  have hpending := congrArg GroupState.pendingJoinFinalizeAuth hcore
  have hgenerations := congrArg GroupState.slotGenerations hcore
  have hfree := congrArg GroupState.freeSlots hcore
  subst h₈ h₂ h₁ h₀
  exact ⟨hleases, hpending, hgenerations, hfree⟩

end

end CityG
