import CityG.Accept.Window
import CityG.Cbor
import CityG.Lib.Except
import Mathlib.Data.List.Sort
import Mathlib.Data.Prod.Lex

/-!
# The state of the acceptance pipeline

`AcceptanceContext` without its telemetry, and with the policy sets as lists:
they are only asked for membership.
-/

namespace CityG

structure DeviceChainState where
  lastCommit : Option Bytes32 := none
  lastEc : Nat := 0
  lastPcsRefreshEc : Option Nat := none
  deriving DecidableEq

structure BarrierGroupState where
  barrierInitialized : Bool := false
  barrierVersion : Nat := 0
  barrierRootsHash : Bytes32 := .zero
  kemTreeHashAfter : Bytes32 := .zero
  lastCheckpointEc : Nat := 0
  lastAcceptedEc : Nat := 0
  srxRootSw : Option Bytes32 := none
  nMax : Nat := 1024
  maxBarrierUpdateBytes : Nat := 1048576
  lastPcsRefreshEc : Option Nat := none
  pcsRefreshMinDeltaDeviceEc : Nat := 1
  pcsRefreshMinDeltaGroupEc : Nat := 1
  pcsRefreshSlotWidthEc : Nat := 1
  deriving DecidableEq

structure FsCaps where
  windowPeriods : Nat := 0
  anchorMax : Nat := 0
  firstDevice : Nat := 0
  deviceMax : Nat := 0
  deriving DecidableEq

inductive BootstrapPolicy where
  | disabled
  | caMlDsa (publicKey : Bytes)
  deriving DecidableEq

inductive LeafIdMode where
  | perGroup
  | global
  deriving DecidableEq

structure RhoReplayGuard where
  limit : Nat
  ttl : Nat
  entries : OrdMap Bytes (List (Bytes32 × Nat))
  deriving DecidableEq

namespace RhoReplayGuard

def makeKey (gid parentRoot : Bytes) : Bytes := gid ++ 0 :: parentRoot

def live (guard : RhoReplayGuard) (key : Bytes) (now : Nat) : List (Bytes32 × Nat) :=
  ((guard.entries.get? key).getD []).filter fun entry => now - entry.2 ≤ guard.ttl

/-- `false` for a commitment seen before and for a full guard; nothing is
evicted to make room. -/
def record (guard : RhoReplayGuard) (gid parentRoot : Bytes) (rhoCommit : Bytes32) (now : Nat) :
    Bool × RhoReplayGuard :=
  let key := makeKey gid parentRoot
  let deque := guard.live key now
  if (∃ entry ∈ deque, entry.1 = rhoCommit) ∨ guard.limit ≤ deque.length then
    (false, { guard with entries := guard.entries.insert key deque })
  else (true, { guard with entries := guard.entries.insert key (deque ++ [(rhoCommit, now)]) })

end RhoReplayGuard

structure VckSrxState where
  joinCount : Nat
  sinceCount : Nat
  anchorCount : Nat
  payloadLen : Nat
  deriving DecidableEq

structure VckCacheEntry where
  /-- The digest of a verified proof. -/
  hpProof : Option Bytes
  srx : Option VckSrxState
  verifiedAt : Nat
  deriving DecidableEq

structure VckCache where
  ttl : Nat
  entries : OrdMap Bytes32 VckCacheEntry
  deriving DecidableEq

namespace VckCache

def prune (cache : VckCache) (now : Nat) : VckCache :=
  { cache with entries := cache.entries.filter fun entry => now - entry.2.verifiedAt ≤ cache.ttl }

/-- Whether the relations under this key were verified before; the counts of
the header may not fall short of the verified ones. -/
def trySkipSrx (cache : VckCache) (key : Bytes32) (hintJoinCount hintSinceCount hintAnchorCount
    hintPayloadBytes payloadLen : Nat) : Except AcceptanceError Bool :=
  match (cache.entries.get? key).bind (·.srx) with
  | none => .ok false
  | some srx =>
    if hintJoinCount < srx.joinCount ∨ hintSinceCount < srx.sinceCount ∨
        hintAnchorCount < srx.anchorCount ∨ hintPayloadBytes < srx.payloadLen then
      .error (.freeze freezeSrxHintUnder)
    else if payloadLen ≠ srx.payloadLen then .error (.freeze freezeSrxInvalid)
    else .ok true

def recordSrx (cache : VckCache) (key : Bytes32) (srx : VckSrxState) (now : Nat) : VckCache :=
  let cache := cache.prune now
  let hpProof := (cache.entries.get? key).bind (·.hpProof)
  { cache with entries := cache.entries.insert key ⟨hpProof, some srx, now⟩ }

/-- A cached entry with another proof is dropped. -/
def shouldVerifyHp (cache : VckCache) (key : Bytes32) (proof : Bytes) (now : Nat) :
    Bool × VckCache :=
  let cache := cache.prune now
  match cache.entries.get? key with
  | some entry =>
    if entry.hpProof = some proof then (false, cache)
    else (true, { cache with entries := cache.entries.erase key })
  | none => (true, cache)

def recordHp (cache : VckCache) (key : Bytes32) (proof : Bytes) (now : Nat) : VckCache :=
  let cache := cache.prune now
  let srx := (cache.entries.get? key).bind (·.srx)
  { cache with entries := cache.entries.insert key ⟨some proof, srx, now⟩ }

end VckCache

structure PivotParity where
  gid : Bytes
  cat : Bytes
  parentRoot : Bytes32
  weEpochId : Bytes32
  rhoCommit : Bytes32
  seedCtxHash : Bytes32
  seedCommit : Bytes32
  hpCommit : Bytes32
  xkHash : Bytes32
  joinDeltaRoot : Bytes32
  revokedSinceRoot : Bytes32
  revokedRoot : Bytes32
  acceptSeq : Nat
  crsId : Bytes
  paramsId : Bytes
  policyVersion : String
  proofMode : String
  vrfId : String
  vrfProof : Bytes
  vrfPublic : Bytes
  maskA : Bytes32
  maskB : Bytes32
  fsCapss : Bytes
  proofsCommit : Bytes32
  srxCommit : Option Bytes32
  srxRootSw : Option Bytes32
  isJoin : Bool
  hpEnvelope : Bytes
  fsEpochCommit : Option Bytes32
  fsEc : Option Nat
  fsDevCommit : Option Bytes32
  deriving DecidableEq

structure PivotParityEntry where
  parity : PivotParity
  acceptTime : Nat
  deriving DecidableEq

structure PivotParityStore where
  ttl : Nat
  entries : OrdMap (Bytes ×ₗ Bytes32) (List PivotParityEntry)
  deriving DecidableEq

namespace PivotParityStore

section Store
variable (store : PivotParityStore)

def entriesAt (gid : Bytes) (parentRoot : Bytes32) : List PivotParityEntry :=
  (store.entries.get? (toLex (gid, parentRoot))).getD []

def prune (now : Nat) : PivotParityStore :=
  let keep := fun entry : PivotParityEntry => decide (now - entry.acceptTime ≤ store.ttl)
  { store with
    entries := store.entries.filterMap fun list =>
      if (list.filter keep).isEmpty then none else some (list.filter keep) }

def replaceOrPush (entry : PivotParityEntry) : List PivotParityEntry → List PivotParityEntry
  | [] => [entry]
  | existing :: rest =>
    if existing.parity.weEpochId = entry.parity.weEpochId then entry :: rest
    else existing :: replaceOrPush entry rest

def insert (parity : PivotParity) (acceptTime : Nat) : PivotParityStore :=
  { store with
    entries := store.entries.insert (toLex (parity.gid, parity.parentRoot))
      (replaceOrPush ⟨parity, acceptTime⟩ (store.entriesAt parity.gid parity.parentRoot)) }

def retire (gid : Bytes) (parentRoot : Bytes32) (retiredWeids : List Bytes32) : PivotParityStore :=
  let list := (store.entriesAt gid parentRoot).filter fun entry =>
    decide (entry.parity.weEpochId ∉ retiredWeids)
  { store with
    entries :=
      if list = [] then store.entries.erase (toLex (gid, parentRoot))
      else store.entries.insert (toLex (gid, parentRoot)) list }

def list (gid : Bytes) (parentRoot : Bytes32) : List PivotParity :=
  ((store.entriesAt gid parentRoot).map (·.parity)).insertionSort fun a b => a.acceptSeq ≤ b.acceptSeq

end Store

end PivotParityStore

structure AcceptanceContext where
  mhWindow : MultiHeadWindow
  rhoGuard : RhoReplayGuard
  vckCache : VckCache
  bootstrapPolicy : BootstrapPolicy
  srxMaxBytes : Nat
  allowedCrsIds : Option (List String)
  allowedParamsIds : Option (List Bytes)
  deprecatedCrsIds : List String
  deprecatedParamsIds : List Bytes
  allowedVrfIds : Option (List String)
  deprecatedVrfIds : List String
  allowedProofModes : Option (List String)
  deprecatedProofModes : List String
  leafIdMode : LeafIdMode
  pivotStore : PivotParityStore
  nextAcceptSeq : Nat
  kbroadRegistry : Option (OrdMap Bytes Bytes)
  /-- A witness bundle, which is only compared, by its encoding. -/
  pendingCapssWitness : Option Bytes
  deviceChains : OrdMap Bytes (OrdMap Bytes DeviceChainState)
  barrierGroups : OrdMap Bytes BarrierGroupState
  fsCaps : FsCaps
  srxEmptyRootSw : Bytes32
  srxMigrationRootSw : Option Bytes32
  fsBaseTs : Option Nat
  fsPolicyVersion : Option String
  allowedFsPolicyVersion : Option String
  clock : AcceptClock
  deriving DecidableEq

namespace AcceptanceContext

section Read
variable (ctx : AcceptanceContext) (gid : Bytes)

def barrierGroupState : Option BarrierGroupState := ctx.barrierGroups.get? gid

def barrierGroupStateEntry : BarrierGroupState := (ctx.barrierGroupState gid).getD {}

def deviceChainGet (devicePk : Bytes) : Option DeviceChainState :=
  (ctx.deviceChains.get? gid).bind fun chains => chains.get? devicePk

def lastAcceptedEc : Nat := (ctx.barrierGroupStateEntry gid).lastAcceptedEc

def lastCheckpointEc : Nat := (ctx.barrierGroupStateEntry gid).lastCheckpointEc

/-- The shadow root of a group; a group without one starts from the empty root. -/
def groupSrxRootSw : Bytes32 :=
  ((ctx.barrierGroupState gid).bind (·.srxRootSw)).getD ctx.srxEmptyRootSw

end Read

section Write
variable (gid : Bytes) (ctx : AcceptanceContext)

def modifyBarrierGroup (f : BarrierGroupState → BarrierGroupState) : AcceptanceContext :=
  { ctx with barrierGroups := ctx.barrierGroups.insert gid (f (ctx.barrierGroupStateEntry gid)) }

def modifyDeviceChain (devicePk : Bytes) (f : DeviceChainState → DeviceChainState) :
    AcceptanceContext :=
  let chains := (ctx.deviceChains.get? gid).getD .empty
  { ctx with
    deviceChains := ctx.deviceChains.insert gid
      (chains.insert devicePk (f ((chains.get? devicePk).getD {}))) }

def recordAcceptedEc (ec : Nat) : AcceptanceContext :=
  ctx.modifyBarrierGroup gid fun state =>
    { state with lastAcceptedEc := if state.lastAcceptedEc < ec then ec else state.lastAcceptedEc }

def setLastCheckpointEc (ec : Nat) : AcceptanceContext :=
  ctx.modifyBarrierGroup gid fun state =>
    { state with
      lastCheckpointEc := ec
      lastAcceptedEc := if state.lastAcceptedEc < ec then ec else state.lastAcceptedEc }

def setGroupSrxRootSw (root : Option Bytes32) : AcceptanceContext :=
  ctx.modifyBarrierGroup gid fun state => { state with srxRootSw := root }

def srxFallbackRoot : Bytes32 := ctx.srxMigrationRootSw.getD ctx.srxEmptyRootSw

def ensureGroupSrxRootSw : AcceptanceContext :=
  ctx.modifyBarrierGroup gid fun state =>
    { state with srxRootSw := some (state.srxRootSw.getD ctx.srxFallbackRoot) }

def advanceDeviceChain (devicePk : Bytes) (fsDevCommit : Bytes32) (fsEc : Nat) :
    AcceptanceContext :=
  ctx.modifyDeviceChain gid devicePk fun state =>
    { state with lastCommit := some fsDevCommit, lastEc := fsEc }

def setMhWindow (w : MultiHeadWindow) : AcceptanceContext := { ctx with mhWindow := w }

def setRhoGuard (guard : RhoReplayGuard) : AcceptanceContext := { ctx with rhoGuard := guard }

def setVckCache (cache : VckCache) : AcceptanceContext := { ctx with vckCache := cache }

def setPivotStore (store : PivotParityStore) : AcceptanceContext := { ctx with pivotStore := store }

def setKbroadRegistry (registry : Option (OrdMap Bytes Bytes)) : AcceptanceContext :=
  { ctx with kbroadRegistry := registry }

def setPendingCapssWitness (witness : Option Bytes) : AcceptanceContext :=
  { ctx with pendingCapssWitness := witness }

def setFsPolicyVersion (version : String) : AcceptanceContext :=
  { ctx with fsPolicyVersion := some version }

def setFsBaseTs (baseTs : Nat) : AcceptanceContext := { ctx with fsBaseTs := some baseTs }

/-- `next_accept_seq.wrapping_add(1)`. -/
def bumpAcceptSeq : AcceptanceContext :=
  { ctx with nextAcceptSeq := (ctx.nextAcceptSeq + 1) % 18446744073709551616 }

def takePendingCapssWitness : AcceptanceContext := { ctx with pendingCapssWitness := none }

def startAnchor : AcceptanceContext :=
  { ctx with
    clock := ctx.clock.tick
    mhWindow := ctx.mhWindow.pruneAll ctx.clock.nextTick }

end Write

end AcceptanceContext

end CityG
