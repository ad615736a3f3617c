import CityG.Accept.Header

/-!
# Barrier gating of an anchor

Before either pipeline runs, the header's barrier fields are compared with the
barrier state of the group. The same fields become the group's state once the
anchor is accepted.
-/

namespace CityG

open Except (ensure ofOption)

def saturatingAdd (a b : Nat) : Nat := min (a + b) U64_MAX

namespace Accept

structure ParsedBarrierUpdate where
  barrierVersion : Nat
  prevBarrierVersion : Nat
  treeSize : Nat
  updaterSlotIndex : Nat
  updaterSlotGeneration : Nat
  revocationRootsHash : Bytes32
  kemTreeHashBefore : Bytes32
  kemTreeHashAfter : Bytes32
  deriving DecidableEq

def malformed {α : Type} : Except AcceptanceError α := freezeWith freezeBarrierUpdateMalformed

def vec32 (b : Bytes) : Except AcceptanceError Bytes32 :=
  ofOption (.freeze freezeBarrierUpdateMalformed) (toBytes32 b)

/-- Every refusal freezes with the same code, so the structural checks of the
payload stand in one condition. -/
def parseBarrierUpdateFromHeader (wire : WireDecoder) (header : HeaderMap)
    (expectedNMax maxBarrierUpdateBytes : Nat) : Except AcceptanceError ParsedBarrierUpdate := do
  let freeze := AcceptanceError.freeze freezeBarrierUpdateMalformed
  ensure (isPowerOfTwo expectedNMax ∧ 2 * expectedNMax ≤ U64_MAX) freeze
  let rawUpdate ← headerBytesOr header HDR_BARRIER_UPDATE freezeBarrierUpdateMalformed
  ensure (rawUpdate.length ≤ maxBarrierUpdateBytes) freeze
  let update ← ofOption freeze (wire.barrierUpdate rawUpdate)
  ensure (update.mode = "barrier-v1" ∧ update.treeSize = expectedNMax) freeze
  let payload ← ofOption freeze (wire.coverPayload update.coverPayload)
  ensure (payload.WellFormed expectedNMax) freeze
  let revocationRootsHash ← vec32 update.revocationRootsHash
  let kemTreeHashBefore ← vec32 update.kemTreeHashBefore
  let kemTreeHashAfter ← vec32 update.kemTreeHashAfter
  pure {
    barrierVersion := update.barrierVersion
    prevBarrierVersion := update.prevBarrierVersion
    treeSize := update.treeSize
    updaterSlotIndex := payload.updaterSlotIndex
    updaterSlotGeneration := payload.updaterSlotGeneration
    revocationRootsHash := revocationRootsHash
    kemTreeHashBefore := kemTreeHashBefore
    kemTreeHashAfter := kemTreeHashAfter }

def parseBarrierUpdateReason (header : HeaderMap) : Except AcceptanceError (Option Nat) :=
  if HDR_BARRIER_UPDATE ∈ header then do
    let reason ← headerU64OrFreeze header HDR_BARRIER_UPDATE_REASON freezeBarrierUpdateMalformed
    ensure (reason ≤ 2) (.freeze freezeBarrierUpdateMalformed)
    pure (some reason)
  else if HDR_BARRIER_UPDATE_REASON ∈ header then malformed
  else pure none

def computeBarrierUpdateDigest (hL : HashL) (header : HeaderMap) :
    Except AcceptanceError Bytes32 :=
  match header.get? HDR_BARRIER_UPDATE with
  | none => .ok .zero
  | some (.bytes raw) => .ok (hL "barrier/update/digest" (.bytes raw))
  | some _ => malformed

def headerRevocationRootsHash (hL : HashL) (header : HeaderMap) :
    Except AcceptanceError Bytes32 := do
  let revokedSinceRoot ← headerBytes32OrFreeze header HDR_REVOKED_SINCE_ROOT freezeFieldMissing
  let revokedRoot ← headerBytes32OrFreeze header HDR_REVOKED_ROOT freezeFieldMissing
  pure (computeRevocationRootsHash hL revokedSinceRoot revokedRoot)

structure BarrierGateDecision where
  barrierVersion : Nat
  fsEc : Nat
  revocationRootsHash : Bytes32
  barrierUpdateDigest : Bytes32
  barrierUpdateReason : Option Nat
  parsedBarrierUpdate : Option ParsedBarrierUpdate
  deriving DecidableEq

def parseGateUpdate (wire : WireDecoder) (header : HeaderMap) (state : BarrierGroupState)
    (reason : Option Nat) : Except AcceptanceError (Option ParsedBarrierUpdate) :=
  if reason.isSome then
    some <$> parseBarrierUpdateFromHeader wire header state.nMax state.maxBarrierUpdateBytes
  else pure none

/-- The first half of `enforce_barrier_acceptance_gating`: what the header says. -/
def readBarrierGate (codec : AnchorCodec) (header : HeaderMap) (state : BarrierGroupState) :
    Except AcceptanceError BarrierGateDecision := do
  let barrierVersion ← headerU64OrFreeze header HDR_BARRIER_VERSION freezeFsJoinMissing
  let fsEc ← headerU64OrFreeze header HDR_FS_EC freezeFsJoinMissing
  let barrierUpdateReason ← parseBarrierUpdateReason header
  let barrierUpdateDigest ← computeBarrierUpdateDigest codec.hL header
  let revocationRootsHash ← headerRevocationRootsHash codec.hL header
  ensure (¬ (barrierUpdateReason.isSome ∧ HDR_MERGE_DELEGATION_SIG ∈ header))
    (.freeze freezeBarrierMergeDelegationForbidden)
  let parsedBarrierUpdate ← parseGateUpdate codec.wire header state barrierUpdateReason
  pure ⟨barrierVersion, fsEc, revocationRootsHash, barrierUpdateDigest, barrierUpdateReason,
    parsedBarrierUpdate⟩

section Checks
variable (anchorType : AnchorType) (state : BarrierGroupState) (gate : BarrierGateDecision)

def checkGenesisMerge : Except AcceptanceError Unit :=
  match gate.parsedBarrierUpdate with
  | some parsed =>
    ensure (anchorType = .merge ∧ gate.barrierUpdateReason = some 0 ∧ gate.barrierVersion = 0 ∧
        parsed.barrierVersion = 0 ∧ parsed.prevBarrierVersion = 0 ∧
        parsed.revocationRootsHash = gate.revocationRootsHash)
      (.freeze freezeBarrierGenesisRequired)
  | none => if gate.barrierUpdateReason.isSome then malformed
      else freezeWith freezeBarrierGenesisRequired

def NextVersion (parsed : ParsedBarrierUpdate) : Prop :=
  gate.barrierVersion = saturatingAdd state.barrierVersion 1 ∧
    parsed.barrierVersion = gate.barrierVersion ∧
    parsed.prevBarrierVersion = state.barrierVersion ∧
    parsed.revocationRootsHash = gate.revocationRootsHash

instance (parsed : ParsedBarrierUpdate) : Decidable (NextVersion state gate parsed) :=
  inferInstanceAs (Decidable (_ ∧ _))

/-- New revocation roots need an update that is a revocation merge. -/
def checkRevocationMerge : Except AcceptanceError Unit :=
  if gate.barrierUpdateReason = some 1 ∨ gate.barrierUpdateReason = some 2 then
    freezeWith freezeBarrierNonRevocationReasonForbidden
  else
    match gate.parsedBarrierUpdate with
    | some parsed =>
      ensure (anchorType = .merge ∧ gate.barrierUpdateReason = some 0 ∧
          NextVersion state gate parsed)
        (.freeze freezeBarrierUpdateRequiredOnRevocationChange)
    | none => freezeWith freezeBarrierUpdateRequiredOnRevocationChange

/-- Refreshes keep their distance from the group's last refresh and from the
device's own. -/
def checkRefreshRate (device : Option DeviceChainState) : Except AcceptanceError Unit := do
  ensure (∀ last ∈ state.lastPcsRefreshEc,
      saturatingAdd last (max state.pcsRefreshMinDeltaGroupEc 1) ≤ gate.fsEc ∧
      gate.fsEc / max state.pcsRefreshSlotWidthEc 1 ≠ last / max state.pcsRefreshSlotWidthEc 1)
    (.freeze freezeBarrierPcsRefreshRateLimited)
  ensure (∀ last ∈ device.bind (·.lastPcsRefreshEc),
      saturatingAdd last (max state.pcsRefreshMinDeltaDeviceEc 1) ≤ gate.fsEc)
    (.freeze freezeBarrierPcsRefreshRateLimited)

def checkProactiveMerge (device : Option DeviceChainState) : Except AcceptanceError Unit :=
  match gate.parsedBarrierUpdate with
  | none => malformed
  | some parsed => do
    ensure (anchorType = .merge ∧
        (gate.barrierUpdateReason = some 1 ∨ gate.barrierUpdateReason = some 2) ∧
        NextVersion state gate parsed)
      (.freeze freezeBarrierProactiveForbidden)
    if gate.barrierUpdateReason = some 1 then checkRefreshRate state gate device else pure ()

/-- The second half of `enforce_barrier_acceptance_gating`. -/
def checkBarrierGate (device : Option DeviceChainState) : Except AcceptanceError Unit :=
  if state.lastPcsRefreshEc = some gate.fsEc then freezeWith freezeFsDevChainBreak
  else if state.barrierInitialized = false then checkGenesisMerge anchorType gate
  else if gate.revocationRootsHash ≠ state.barrierRootsHash then
    checkRevocationMerge anchorType state gate
  else if gate.barrierUpdateReason.isSome then checkProactiveMerge anchorType state gate device
  else ensure (gate.barrierVersion = state.barrierVersion)
    (.freeze freezeBarrierProactiveForbidden)

end Checks

end Accept

namespace AcceptanceContext

open Accept

def headerDevice (ctx : AcceptanceContext) (gid : Bytes) (header : HeaderMap) :
    Option DeviceChainState :=
  ((header.get? HDR_POP_PK).bind Value.asBytes).bind (ctx.deviceChainGet gid)

/-- A group the context does not know is not gated. -/
def checkGroupGate (ctx : AcceptanceContext) (gid : Bytes) (header : HeaderMap)
    (anchorType : AnchorType) (gate : BarrierGateDecision) : Except AcceptanceError Unit :=
  match ctx.barrierGroupState gid with
  | none => pure ()
  | some state => checkBarrierGate anchorType state gate (ctx.headerDevice gid header)

def enforceBarrierAcceptanceGating (codec : AnchorCodec) (ctx : AcceptanceContext) (gid : Bytes)
    (header : HeaderMap) (anchorType : AnchorType) :
    Except AcceptanceError BarrierGateDecision := do
  let gate ← readBarrierGate codec header (ctx.barrierGroupStateEntry gid)
  ctx.checkGroupGate gid header anchorType gate
  pure gate

def commitBarrier (gate : BarrierGateDecision) (state : BarrierGroupState) : BarrierGroupState :=
  { state with
    barrierInitialized := true
    barrierVersion := gate.barrierVersion
    barrierRootsHash := gate.revocationRootsHash
    kemTreeHashAfter :=
      (gate.parsedBarrierUpdate.map (·.kemTreeHashAfter)).getD state.kemTreeHashAfter
    nMax := (gate.parsedBarrierUpdate.map (·.treeSize)).getD state.nMax
    lastPcsRefreshEc :=
      if gate.barrierUpdateReason = some 1 then some gate.fsEc else state.lastPcsRefreshEc }

def commitRefresh (ctx : AcceptanceContext) (gid : Bytes) (header : HeaderMap)
    (gate : BarrierGateDecision) : AcceptanceContext :=
  match (header.get? HDR_POP_PK).bind Value.asBytes with
  | some devicePk =>
    if gate.barrierUpdateReason = some 1 then
      ctx.modifyDeviceChain gid devicePk fun state =>
        { state with lastPcsRefreshEc := some gate.fsEc }
    else ctx
  | none => ctx

def applyBarrierAcceptanceCommit (ctx : AcceptanceContext) (gid : Bytes) (header : HeaderMap)
    (gate : BarrierGateDecision) : AcceptanceContext :=
  if gate.barrierUpdateReason.isSome then
    (ctx.modifyBarrierGroup gid (commitBarrier gate)).commitRefresh gid header gate
  else ctx

structure DeviceChainVerification where
  popPk : Bytes
  fsEc : Nat
  fsDevPrevCommit : Bytes32
  fsDevCommit : Bytes32
  barrierVersion : Nat
  barrierUpdateDigest : Bytes32

/-- The commitment a device must continue from, with the caps on how far its
counter may leap. -/
def expectedPrevCommit (ctx : AcceptanceContext) (gid : Bytes)
    (v : DeviceChainVerification) : Option DeviceChainState → Except AcceptanceError Bytes32
  | some state => do
    ensure (state.lastEc ≤ v.fsEc) (.freeze freezeFsDevChainBreak)
    ensure (v.fsEc ≤ saturatingAdd state.lastEc ctx.fsCaps.deviceMax)
      (.freeze freezeFsForwardJumpDevice)
    pure (state.lastCommit.getD .zero)
  | none => do
    ensure (v.fsDevPrevCommit.isZero = true) (.freeze freezeFsDevChainBreak)
    ensure (v.fsEc ≤ saturatingAdd (ctx.lastAcceptedEc gid) ctx.fsCaps.firstDevice)
      (.freeze freezeFsForwardJumpFirst)
    pure .zero

def fsDevChain (hL : HashL) (v : DeviceChainVerification) : Bytes32 :=
  hL "fs/dev/chain/v2" (Value.ofFields [("device_pk", .bytes v.popPk), ("fs_ec", .ofNat v.fsEc),
    ("prev_commit", .bytes v.fsDevPrevCommit.val), ("barrier_version", .ofNat v.barrierVersion),
    ("barrier_update_digest", .bytes v.barrierUpdateDigest.val)])

def verifyDeviceChainState (hL : HashL) (ctx : AcceptanceContext) (gid : Bytes)
    (v : DeviceChainVerification) : Except AcceptanceError Unit := do
  ensure (v.fsEc ≤ saturatingAdd (ctx.lastAcceptedEc gid) ctx.fsCaps.anchorMax)
    (.freeze freezeFsForwardJumpGroup)
  let expected ← ctx.expectedPrevCommit gid v (ctx.deviceChainGet gid v.popPk)
  ensure (expected = v.fsDevPrevCommit) (.freeze freezeFsDevChainBreak)
  ensure (fsDevChain hL v = v.fsDevCommit) (.freeze freezeFsDevChainBindMismatch)

end AcceptanceContext

end CityG
