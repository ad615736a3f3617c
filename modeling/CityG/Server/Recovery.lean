import CityG.Persist
import CityG.Server.Apply

/-!
# Saving and restarting a server

The journal holds the accepted bundles, the saved rooms what replaying them does
not bring back. A restart replays the journal up to the first bundle that is
refused and lays the saved rooms over the result; without a journal the rooms
are all there is. A refusal ends the step it occurs in, and the server starts
with what the step has written until then.
-/

namespace CityG

open EStateM (check)

abbrev PersistedKbroadState := OrdMap Bytes PersistedKbroadRoomState

structure ServerConfig where
  context : AcceptanceContext
  noGroups : context.barrierGroups = .empty

def mergeOptionalU64Max : Option Nat → Option Nat → Option Nat
  | some lhs, some rhs => some (max lhs rhs)
  | some lhs, none => some lhs
  | none, persisted => persisted

namespace GroupState

/-- The saved barrier state is whole, and newer than the replayed one or that is
not whole. -/
def prefersPersisted (dec : WireDecoder) (room : PersistedKbroadRoomState) (nMax : Nat)
    (group : GroupState) : Bool :=
  barrierRuntimeMatchesCurrentUpdate dec room.barrierVersion room.barrierRootsHash
      room.kemTreeHashAfter nMax room.currentAcceptedBarrierUpdate ∧
    (group.barrierVersion < room.barrierVersion ∨
      barrierRuntimeMatchesCurrentUpdate dec group.barrierVersion group.barrierRootsHash
        group.kemTreeHashAfter group.treeNMax group.currentAcceptedBarrierUpdate = false)

def overlayAdmins (room : PersistedKbroadRoomState) (group : GroupState) : GroupState :=
  { group with
    kbroadGeneration := room.kbroadGeneration
    rotationRequired := room.rotationRequired
    roomAdminPopKeys := OrdSet.ofList room.roomAdminPopKeys
    roomAdminProofReplayKeys := OrdSet.ofList room.roomAdminProofReplayKeys }

def seeded (room : PersistedKbroadRoomState) (group : GroupState) : GroupState :=
  { group.overlayAdmins room with
    nMax := max room.nMax 1
    maxBarrierUpdateBytes := max room.maxBarrierUpdateBytes 1 }

def takeOver (hex : HexCodec) (room : PersistedKbroadRoomState) (nMax : Nat)
    (commitment : HistoryCommitment) (group : GroupState) : GroupState :=
  { group with
    revoked := OrdSet.ofList (room.revokedLeafIdsHex.filterMap hex.decode32)
    barrierInitialized := room.barrierInitialized
    barrierVersion := room.barrierVersion
    barrierRootsHash := room.barrierRootsHash
    kemTreeHashAfter := room.kemTreeHashAfter
    srxRootSw := room.srxRootSw
    nMax := nMax
    lastCheckpointEc := room.lastCheckpointEc
    lastAcceptedEc := room.lastAcceptedEc
    lastPcsRefreshEc := room.lastPcsRefreshEc
    barrierPkEntries := room.barrierPkEntries
    currentHistoryCommitment := commitment
    currentAcceptedBarrierUpdate := room.currentAcceptedBarrierUpdate
    currentAcceptedBarrierPredecessorHash := room.currentAcceptedBarrierPredecessorHash
    pendingJoinFinalizeAuth := decodePersistedJoinFinalizeAuth hex room.pendingJoinFinalizeAuth
    leafSlotLeases := decodePersistedLeafSlotLeases hex room.activeSlotLeases
    revokedSlotLeases := decodePersistedLeafSlotLeases hex room.revokedSlotLeases }

def overlayLimits (hex : HexCodec) (room : PersistedKbroadRoomState) (group : GroupState) :
    GroupState :=
  { group with
    lastPcsRefreshEc := mergeOptionalU64Max group.lastPcsRefreshEc room.lastPcsRefreshEc
    pcsRefreshMinDeltaDeviceEc := max room.pcsRefreshMinDeltaDeviceEc 1
    pcsRefreshMinDeltaGroupEc := max room.pcsRefreshMinDeltaGroupEc 1
    pcsRefreshSlotWidthEc := max room.pcsRefreshSlotWidthEc 1
    maxBarrierUpdateBytes := max room.maxBarrierUpdateBytes 1
    acceptedBarrierMerges := (decodePersistedAcceptedBarrierMerges hex
      room.acceptedBarrierMerges).entries.foldl (fun merges e => merges.insertNew e.1 e.2)
        group.acceptedBarrierMerges }

def fillMissing (hex : HexCodec) (room : PersistedKbroadRoomState)
    (commitment : HistoryCommitment) (prefer : Bool) (group : GroupState) : GroupState :=
  { group with
    currentHistoryCommitment :=
      if prefer ∨ commitment.historyCommitmentId ≠ .zero ∧
          group.currentHistoryCommitment.historyCommitmentId = .zero then commitment
      else group.currentHistoryCommitment
    currentAcceptedBarrierUpdate :=
      if prefer ∨ group.currentAcceptedBarrierUpdate = [] ∧ room.currentAcceptedBarrierUpdate ≠ []
      then room.currentAcceptedBarrierUpdate else group.currentAcceptedBarrierUpdate
    currentAcceptedBarrierPredecessorHash :=
      if prefer ∨ group.currentAcceptedBarrierPredecessorHash = .zero ∧
          room.currentAcceptedBarrierPredecessorHash ≠ .zero
      then room.currentAcceptedBarrierPredecessorHash
      else group.currentAcceptedBarrierPredecessorHash
    pendingJoinFinalizeAuth :=
      if prefer ∨ group.pendingJoinFinalizeAuth.isEmpty ∧ room.pendingJoinFinalizeAuth ≠ []
      then decodePersistedJoinFinalizeAuth hex room.pendingJoinFinalizeAuth
      else group.pendingJoinFinalizeAuth
    leafSlotLeases :=
      if prefer ∨ group.leafSlotLeases.isEmpty ∧ room.activeSlotLeases ≠ []
      then decodePersistedLeafSlotLeases hex room.activeSlotLeases else group.leafSlotLeases
    revokedSlotLeases :=
      if prefer ∨ group.revokedSlotLeases.isEmpty ∧ room.revokedSlotLeases ≠ []
      then decodePersistedLeafSlotLeases hex room.revokedSlotLeases else group.revokedSlotLeases }

end GroupState

section Group
variable (hex : HexCodec) (hL : HashL) (dec : WireDecoder) (gid : Bytes)

def overlayTreeHistory (room : PersistedKbroadRoomState) (prefer : Bool) :
    EStateM CityGError GroupState Unit := do
  let empty ← check fun group => pure group.barrierPublicTreeHistory.isEmpty
  if prefer ∨ empty then do
    modify fun group => { group with barrierPublicTreeBlobs := room.barrierPublicTreeBlobs }
    rebuildBarrierPublicTreeBlobIndex
    modify fun group => { group with barrierPublicTreeHistory := .empty }
    restoreBarrierPublicTreeSnapshots hex hL gid room.barrierPublicTreeHistory
  else pure ()

/-- The group part of `overlay_persisted_runtime_metadata_after_replay`; tells
whether the saved barrier state was preferred. The hash cache goes last. -/
def overlayPersistedRoomState (room : PersistedKbroadRoomState) :
    EStateM CityGError GroupState Bool := do
  modify (·.overlayAdmins room)
  let nMax ← check fun _ => validateBarrierNMax room.nMax
  let commitment :=
    decodePersistedHistoryCommitment hex hL gid room.currentHistoryCommitment Bytes32.zero
  let prefer ← check fun group => pure (group.prefersPersisted dec room nMax)
  modify fun group => if prefer then group.takeOver hex room nMax commitment else group
  modify (·.overlayLimits hex room)
  let groupNMax ← check fun group => validateBarrierNMax group.nMax
  modify fun group => { group with nMax := groupNMax }
  modify (·.fillMissing hex room commitment prefer)
  overlayTreeHistory hex hL gid room prefer
  restoreCurrentTreeSnapshot hL dec gid
  pruneBarrierPublicTreeHistory
  modify fun group => { group with barrierHashCache := none }
  pure prefer

end Group

namespace BarrierGroupState

def overlayBarrier (prefer : Bool) (group : GroupState) (state : BarrierGroupState) :
    BarrierGroupState :=
  if prefer then
    { state with
      barrierInitialized := group.barrierInitialized
      barrierVersion := group.barrierVersion
      barrierRootsHash := group.barrierRootsHash
      kemTreeHashAfter := group.kemTreeHashAfter
      lastCheckpointEc := group.lastCheckpointEc
      lastAcceptedEc := group.lastAcceptedEc
      srxRootSw := group.srxRootSw
      nMax := group.treeNMax }
  else state

def overlayLimits (room : PersistedKbroadRoomState) (nMax : Nat) (state : BarrierGroupState) :
    BarrierGroupState :=
  { state with
    nMax := nMax
    lastPcsRefreshEc := mergeOptionalU64Max state.lastPcsRefreshEc room.lastPcsRefreshEc
    pcsRefreshMinDeltaDeviceEc := max room.pcsRefreshMinDeltaDeviceEc 1
    pcsRefreshMinDeltaGroupEc := max room.pcsRefreshMinDeltaGroupEc 1
    pcsRefreshSlotWidthEc := max room.pcsRefreshSlotWidthEc 1
    maxBarrierUpdateBytes := max room.maxBarrierUpdateBytes 1 }

end BarrierGroupState

namespace AcceptanceContext

def deviceChainStates (ctx : AcceptanceContext) (gid : Bytes) : List PersistedDeviceChainState :=
  ((ctx.deviceChains.get? gid).getD .empty).entries.map fun e =>
    ⟨e.1, e.2.lastCommit, e.2.lastEc, e.2.lastPcsRefreshEc⟩

def insertDeviceChainStates (gid : Bytes) (states : List PersistedDeviceChainState)
    (ctx : AcceptanceContext) : AcceptanceContext :=
  states.foldl (fun ctx state => ctx.modifyDeviceChain gid state.devicePk fun _ =>
    ⟨state.lastCommit, state.lastEc, state.lastPcsRefreshEc⟩) ctx

def overlayDeviceChain (gid : Bytes) (ctx : AcceptanceContext) (state : PersistedDeviceChainState) :
    AcceptanceContext :=
  match ctx.deviceChainGet gid state.devicePk with
  | some existing => ctx.modifyDeviceChain gid state.devicePk fun _ =>
    { existing with lastPcsRefreshEc :=
        mergeOptionalU64Max existing.lastPcsRefreshEc state.lastPcsRefreshEc }
  | none => ctx.modifyDeviceChain gid state.devicePk fun _ =>
    ⟨state.lastCommit, state.lastEc, state.lastPcsRefreshEc⟩

def overlayDeviceChains (gid : Bytes) (states : List PersistedDeviceChainState)
    (ctx : AcceptanceContext) : AcceptanceContext :=
  states.foldl (overlayDeviceChain gid) ctx

end AcceptanceContext

namespace CityGServer

section
variable (hex : HexCodec)

def snapshotKbroadState (server : CityGServer) : PersistedKbroadState :=
  OrdMap.ofList ((server.ctx.kbroadRegistry.getD .empty).entries.map fun e =>
    (e.1, persistedKbroadRoomState hex (server.roster.get? e.1) e.2
      (server.roster.group e.1).kbroadGeneration (server.roster.kbroadRotationRequired e.1)
      (server.ctx.deviceChainStates e.1)))

variable (env : ServerEnv)

def registerRooms (state : PersistedKbroadState) (server : CityGServer) : CityGServer :=
  server.setCtx (server.ctx.setKbroadRegistry (some (state.entries.foldl
    (fun registry e => registry.insert e.1 e.2.kbroadPublic)
    (server.ctx.kbroadRegistry.getD .empty))))

def applyPersistedRoom (gid : Bytes) (room : PersistedKbroadRoomState) : ServerM Unit := do
  onGroup gid (applyPersistedRoomState hex env.hL env.wire gid room)
  modify (mirrorGroup gid)
  modify fun server => server.setCtx (server.ctx.insertDeviceChainStates gid room.deviceChainStates)

def applyPersistedRooms : List (Bytes × PersistedKbroadRoomState) → ServerM Unit
  | [] => pure ()
  | e :: rest => do
    applyPersistedRoom hex env e.1 e.2
    applyPersistedRooms rest

def applyPersistedKbroadState (state : PersistedKbroadState) : ServerM Unit := do
  applyPersistedRooms hex env state.entries
  modify (registerRooms state)

def overlayPersistedRoom (gid : Bytes) (room : PersistedKbroadRoomState) : ServerM Unit := do
  let prefer ← onGroup gid (overlayPersistedRoomState hex env.hL env.wire gid room)
  modify fun server => server.setCtx (server.ctx.modifyBarrierGroup gid
    (·.overlayBarrier prefer (server.roster.group gid)))
  let nMax ← check fun server => validateBarrierNMax (server.ctx.barrierGroupStateEntry gid).nMax
  modify fun server => server.setCtx (server.ctx.modifyBarrierGroup gid (·.overlayLimits room nMax))
  modify fun server => server.setCtx (server.ctx.overlayDeviceChains gid room.deviceChainStates)

def overlayPersistedRooms : List (Bytes × PersistedKbroadRoomState) → ServerM Unit
  | [] => pure ()
  | e :: rest => do
    overlayPersistedRoom hex env e.1 e.2
    overlayPersistedRooms rest

def overlayPersistedRuntimeMetadataAfterReplay (state : PersistedKbroadState) : ServerM Unit := do
  overlayPersistedRooms hex env state.entries
  modify (registerRooms state)

end

section
variable (env : ServerEnv)

def initializeGroups : List Bytes → ServerM Unit
  | [] => pure ()
  | gid :: rest => do
    match toBytes32 gid with
    | some gid32 => initializeGroupBarrierBootstrapState env gid32
    | none => pure ()
    initializeGroups rest

def initializeRegisteredGroupsBarrierState : ServerM Unit := do
  let gids ← check fun server => pure (server.ctx.kbroadRegistry.getD .empty).keys
  initializeGroups env gids

def resetState (config : ServerConfig) (server : CityGServer) : CityGServer :=
  (initializeRegisteredGroupsBarrierState env).final
    { server with ctx := config.context, roster := .empty }

def seedRooms : List (Bytes × PersistedKbroadRoomState) → ServerM Unit
  | [] => pure ()
  | e :: rest => do
    match toBytes32 e.1 with
    | some gid => do
      onGroup e.1 (modify (·.seeded e.2))
      initializeGroupBarrierBootstrapState env gid
    | none => pure ()
    seedRooms rest

def registerSeeded (state : PersistedKbroadState) (server : CityGServer) : CityGServer :=
  server.setCtx (server.ctx.setKbroadRegistry (some (state.entries.foldl
    (fun registry e => if (toBytes32 e.1).isSome then registry.insert e.1 e.2.kbroadPublic
      else registry)
    (server.ctx.kbroadRegistry.getD .empty))))

def seedRegisteredGroupsFromPersistedKbroadState (state : PersistedKbroadState) : ServerM Unit := do
  seedRooms env state.entries
  modify (registerSeeded state)

def replayBundles : List ClientEpochBundle → ServerM Unit
  | [] => pure ()
  | bundle :: rest => do
    let staged ← check fun server => stageBundle env bundle true server
    modify (commitStaged staged)
    replayBundles rest

def recoverFromState (config : ServerConfig) (journal : List ClientEpochBundle)
    (saved : Option PersistedKbroadState) : ServerM Unit :=
  if journal = [] then pure ()
  else do
    modify (resetState env config)
    match saved with
    | some state => seedRegisteredGroupsFromPersistedKbroadState env state
    | none => pure ()
    replayBundles env journal

variable (hex : HexCodec)

def restoreSaved (journal : List ClientEpochBundle) : Option PersistedKbroadState → ServerM Unit
  | none => pure ()
  | some state =>
    if journal = [] then applyPersistedKbroadState hex env state
    else overlayPersistedRuntimeMetadataAfterReplay hex env state

def blank (config : ServerConfig) (server : CityGServer) : CityGServer :=
  { server with ctx := config.context, roster := .empty, replaying := false }

/-- `CityGServer::new` on the journal of a server and its saved rooms. Every
refusal is ignored. -/
def restart (config : ServerConfig) (saved : Option PersistedKbroadState) (server : CityGServer) :
    CityGServer :=
  let saved := saved.filter fun state => state.isEmpty = false
  let replayed := (recoverFromState env config server.journal saved).final (server.blank config)
  let restored := (restoreSaved env hex server.journal saved).final replayed
  (initializeRegisteredGroupsBarrierState env).final restored

end

end CityGServer

end CityG
