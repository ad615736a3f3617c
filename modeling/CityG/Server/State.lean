import CityG.Accept.Context
import CityG.BarrierValidate
import CityG.Server.Bundle

/-!
# The server

State of `CityGServer`, registration of groups and rotation of their broadcast
keys. The roster and the acceptance context both hold the barrier fields of a
group; every operation that writes them writes both.
-/

namespace CityG

open Except (ensure ofOption)
open EStateM (check zoom)

/-- The services of a server: codecs, verifiers, and two parts of the source
that the results do not look into. -/
structure ServerEnv where
  codec : AnchorCodec
  verifiers : AnchorProofs
  /-- `validate_history_authority_headers` under the configured authority. -/
  historyAuthority : Bytes → GroupState → HeaderMap → Except CityGError Unit
  /-- Witness and SRX encodings of a ticket for parent leaves, joined leaves, the
  parent root, and the leaves and root of both revoked sets. -/
  ticketArtifacts : List Bytes32 → List Bytes32 → Bytes32 → List Bytes32 → Bytes32 →
    List Bytes32 → Bytes32 → Except CityGError (Bytes × Bytes)

namespace ServerEnv
variable (env : ServerEnv)

def hL : HashL := env.codec.hL
def wire : WireDecoder := env.codec.wire
def merkle : MerkleHash := env.verifiers.merkle

end ServerEnv

structure CityGServer where
  ctx : AcceptanceContext
  roster : GroupRoster
  barrierLeafCapacityRefusalPercent : Nat
  /-- The bundles written to the journal. -/
  journal : List ClientEpochBundle
  replaying : Bool

abbrev ServerM := EStateM CityGError CityGServer

namespace GroupRoster

def hasHistory (roster : GroupRoster) (gid : Bytes) : Bool :=
  match roster.get? gid with
  | some state => state.latestRoot.isSome ∨ state.snapshots.isEmpty = false ∨
      state.revoked.isEmpty = false
  | none => false

def kbroadRotationRequired (roster : GroupRoster) (gid : Bytes) : Bool :=
  (group roster gid).rotationRequired

end GroupRoster

namespace GroupState

def barrierState (state : GroupState) : BarrierGroupState where
  barrierInitialized := state.barrierInitialized
  barrierVersion := state.barrierVersion
  barrierRootsHash := state.barrierRootsHash
  kemTreeHashAfter := state.kemTreeHashAfter
  lastCheckpointEc := state.lastCheckpointEc
  lastAcceptedEc := state.lastAcceptedEc
  srxRootSw := state.srxRootSw
  nMax := max state.nMax 1
  maxBarrierUpdateBytes := max state.maxBarrierUpdateBytes 1
  lastPcsRefreshEc := state.lastPcsRefreshEc
  pcsRefreshMinDeltaDeviceEc := max state.pcsRefreshMinDeltaDeviceEc 1
  pcsRefreshMinDeltaGroupEc := max state.pcsRefreshMinDeltaGroupEc 1
  pcsRefreshSlotWidthEc := max state.pcsRefreshSlotWidthEc 1

def withBarrierState (state : GroupState) (barrier : BarrierGroupState) : GroupState :=
  { state with
    barrierInitialized := barrier.barrierInitialized
    barrierVersion := barrier.barrierVersion
    barrierRootsHash := barrier.barrierRootsHash
    kemTreeHashAfter := barrier.kemTreeHashAfter
    srxRootSw := barrier.srxRootSw
    nMax := max barrier.nMax 1
    lastCheckpointEc := barrier.lastCheckpointEc
    lastAcceptedEc := barrier.lastAcceptedEc
    lastPcsRefreshEc := barrier.lastPcsRefreshEc
    pcsRefreshMinDeltaDeviceEc := max barrier.pcsRefreshMinDeltaDeviceEc 1
    pcsRefreshMinDeltaGroupEc := max barrier.pcsRefreshMinDeltaGroupEc 1
    pcsRefreshSlotWidthEc := max barrier.pcsRefreshSlotWidthEc 1
    maxBarrierUpdateBytes := max barrier.maxBarrierUpdateBytes 1 }

def withMaxBarrierUpdateBytes (state : GroupState) : GroupState :=
  { state with maxBarrierUpdateBytes := max state.maxBarrierUpdateBytes 1 }

def bootstrapped (state : GroupState) (rootsHash kemTreeHash : Bytes32) (blank : PkEntries) :
    GroupState :=
  { state with
    barrierInitialized := true
    barrierVersion := 0
    barrierRootsHash := rootsHash
    kemTreeHashAfter := kemTreeHash
    currentAcceptedBarrierUpdate := []
    currentAcceptedBarrierPredecessorHash := .zero
    pendingJoinFinalizeAuth := .empty
    nMax := state.treeNMax
    barrierPkEntries := blank }

def clearKbroad (state : GroupState) : GroupState :=
  { state with rotationRequired := false, kbroadGeneration := 0 }

def kbroadRotated (state : GroupState) : GroupState :=
  { state with
    kbroadGeneration := saturatingAdd state.kbroadGeneration 1
    rotationRequired := false }

def markKbroadRotationRequired (state : GroupState) : GroupState :=
  { state with rotationRequired := true }

end GroupState

def AcceptanceContext.insertBarrierGroupState (ctx : AcceptanceContext) (gid : Bytes)
    (state : BarrierGroupState) : AcceptanceContext :=
  { ctx with barrierGroups := ctx.barrierGroups.insert gid state }

namespace CityGServer

def putGroup (gid : Bytes) (group : GroupState) (server : CityGServer) : CityGServer :=
  { server with roster := server.roster.insert gid group }

def setCtx (ctx : AcceptanceContext) (server : CityGServer) : CityGServer :=
  { server with ctx := ctx }

/-- Run on the entry of a group, which is created when missing. -/
def onGroup {α : Type} (gid : Bytes) (x : EStateM CityGError GroupState α) : ServerM α :=
  zoom (fun server => server.roster.group gid) (putGroup gid) id x

def kbroadKey (server : CityGServer) (gid : Bytes) : Option Bytes :=
  server.ctx.kbroadRegistry.bind fun registry => registry.get? gid

def insertKbroad (gid kbroadPublic : Bytes) (server : CityGServer) : CityGServer :=
  server.setCtx (server.ctx.setKbroadRegistry
    (some ((server.ctx.kbroadRegistry.getD .empty).insert gid kbroadPublic)))

def mirrorGroup (gid : Bytes) (server : CityGServer) : CityGServer :=
  server.setCtx (server.ctx.insertBarrierGroupState gid (server.roster.group gid).barrierState)

section Registration
variable (env : ServerEnv)

def bootstrapGroup (gid : Bytes) : EStateM CityGError GroupState Unit := do
  let nMax ← check fun state => pure state.treeNMax
  let blank ← check fun _ => buildAllBlankPkEntries nMax
  let kemTreeHash ← check fun _ => computeBarrierTreeHash env.hL nMax blank
  modify (·.bootstrapped (computeRevocationRootsHash env.hL .zero .zero) kemTreeHash blank)
  recordBarrierPublicTreeSnapshot env.hL env.wire gid

def initializeGroup (gid : Bytes) (hasHistory : Bool) : EStateM CityGError GroupState Unit := do
  modify (·.withMaxBarrierUpdateBytes)
  let initialized ← check fun state => pure state.barrierInitialized
  if initialized = false ∧ hasHistory = false then bootstrapGroup env gid else pure ()

def initializeGroupBarrierBootstrapState (gid : Bytes32) : ServerM Unit := do
  let hasHistory ← check fun server => pure (server.roster.hasHistory gid.val)
  onGroup gid.val (initializeGroup env gid.val hasHistory)
  modify (mirrorGroup gid.val)

def registerGroup (gid : Bytes32) (kbroadPublic : Bytes) : ServerM Unit := do
  check fun server => ensure (server.roster.hasHistory gid.val = false)
    (.invalidInput "group already has roster history")
  check fun server => ensure ((server.kbroadKey gid.val).isNone)
    (.invalidInput "kbroad key already registered")
  modify (insertKbroad gid.val kbroadPublic)
  onGroup gid.val (modify (·.clearKbroad))
  initializeGroupBarrierBootstrapState env gid

end Registration

def rotateGroupKbroad (gid : Bytes32) (kbroadPublic : Bytes) : ServerM Unit := do
  let existing ← check fun server =>
    ofOption (.invalidInput "kbroad key missing") (server.kbroadKey gid.val)
  check fun _ => ensure (existing ≠ kbroadPublic) (.invalidInput "kbroad key unchanged")
  modify (insertKbroad gid.val kbroadPublic)
  onGroup gid.val (modify (·.kbroadRotated))

def ensureKbroadReady (gid : Bytes32) (freshKbroadPublic : Bytes) : ServerM Unit := do
  let required ← check fun server => pure (server.roster.kbroadRotationRequired gid.val)
  if required then rotateGroupKbroad gid freshKbroadPublic else pure ()

end CityGServer

end CityG
