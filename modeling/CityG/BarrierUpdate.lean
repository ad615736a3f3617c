import CityG.BarrierTree
import CityG.Cbor
import CityG.Roster
import CityG.Slots

/-!
# Barrier updates on the wire

An update is a CBOR record with the cover payload nested inside. Decoding the
bytes is a parameter; what the server checks of the decoded record is here.
-/

namespace CityG

structure BarrierUpdateWire where
  mode : String
  barrierVersion : Nat
  prevBarrierVersion : Nat
  treeSize : Nat
  revocationRootsHash : Bytes
  kemTreeHashBefore : Bytes
  kemTreeHashAfter : Bytes
  coverPayload : Bytes
  deriving DecidableEq

structure NodeCiphertextWire where
  source : Nat
  target : Nat
  targetPkHash : Bytes
  kemCt : Bytes
  wrappedPs : Bytes
  deriving DecidableEq

structure NewPublicKeyWire where
  node : Nat
  ek : Bytes
  deriving DecidableEq

structure KemTreeCoverPayloadWire where
  updaterSlotIndex : Nat
  updaterSlotGeneration : Nat
  pathNodes : List Nat
  revokedLeafIndicesHint : Option (List Nat)
  nodeCiphertexts : List NodeCiphertextWire
  newPublicKeys : List NewPublicKeyWire
  deriving DecidableEq

structure BarrierHistoryCommitmentHeaderWire where
  historyViewId : Bytes
  historyCommitmentId : Bytes
  prevHistoryCommitmentId : Bytes
  historySeq : Nat
  deriving DecidableEq

/-- `parse_deterministic_cbor` at the wire types; `none` when the bytes are no
canonical encoding. -/
structure WireDecoder where
  barrierUpdate : Bytes → Option BarrierUpdateWire
  coverPayload : Bytes → Option KemTreeCoverPayloadWire
  historyCommitment : Bytes → Option BarrierHistoryCommitmentHeaderWire

structure ParsedNodeCiphertext where
  sourceNode : Nat
  targetNode : Nat
  targetPkHash : Bytes
  deriving DecidableEq

structure ParsedBarrierUpdate where
  prevBarrierVersion : Nat
  updaterSlotIndex : Nat
  updaterSlotGeneration : Nat
  treeSize : Nat
  revocationRootsHash : Bytes32
  kemTreeHashBefore : Bytes32
  kemTreeHashAfter : Bytes32
  pathNodes : List Nat
  nodeCiphertexts : List ParsedNodeCiphertext
  newPublicKeys : List (Nat × Bytes)
  deriving DecidableEq

def barrierUpdateMalformed : CityGError := .invalidInput "barrier_update malformed"

def vecTo32 (b : Bytes) : Except CityGError Bytes32 :=
  Except.ofOption barrierUpdateMalformed (toBytes32 b)

def parseBarrierUpdateReason (header : HeaderMap) : Except CityGError (Option Nat) :=
  if HDR_BARRIER_UPDATE ∉ header then
    if HDR_BARRIER_UPDATE_REASON ∈ header then .error barrierUpdateMalformed else .ok none
  else
    match (header.get? HDR_BARRIER_UPDATE_REASON).bind Value.asU64 with
    | some reason => if 2 < reason then .error barrierUpdateMalformed else .ok (some reason)
    | none => .error barrierUpdateMalformed

def parseJoinFinalizeAuthToken (header : HeaderMap) : Except CityGError (Option Bytes32) :=
  headerBytes32Opt header HDR_JOIN_FINALIZE_AUTH

def parseBarrierHistoryCommitment (dec : WireDecoder) (header : HeaderMap) :
    Except CityGError (Option HistoryCommitment) := do
  match ← headerOptionalBytes header HDR_BARRIER_HISTORY_COMMITMENT with
  | none => pure none
  | some raw => do
    let wire ← Except.ofOption barrierUpdateMalformed (dec.historyCommitment raw)
    let historyViewId ← vecTo32 wire.historyViewId
    let historyCommitmentId ← vecTo32 wire.historyCommitmentId
    let prevHistoryCommitmentId ← vecTo32 wire.prevHistoryCommitmentId
    pure (some ⟨historyViewId, historyCommitmentId, prevHistoryCommitmentId, wire.historySeq⟩)

def pairLT (a b : Nat × Nat) : Prop := a.1 < b.1 ∨ a.1 = b.1 ∧ a.2 < b.2

instance : DecidableRel pairLT := fun _ _ => inferInstanceAs (Decidable (_ ∨ _))

namespace KemTreeCoverPayloadWire

def PathOk (p : KemTreeCoverPayloadWire) (nMax : Nat) : Prop :=
  p.updaterSlotIndex < nMax ∧
  p.pathNodes.head? = some (nMax - 1 + p.updaterSlotIndex) ∧
  p.pathNodes.getLast? = some 0 ∧
  (∀ node ∈ p.pathNodes, node ≤ 2 * nMax - 2) ∧ p.pathNodes.Nodup ∧
  p.pathNodes.IsChain fun child up => child ≠ 0 ∧ (child - 1) / 2 = up

def KeysOk (p : KemTreeCoverPayloadWire) (nMax : Nat) : Prop :=
  p.newPublicKeys.length = p.pathNodes.tail.length ∧
  (∀ key ∈ p.newPublicKeys, key.node < nMax - 1 ∧ key.ek.length = 1184) ∧
  (p.newPublicKeys.map (·.node)).IsChain (· < ·) ∧
  ∀ node ∈ p.pathNodes.tail, node ∈ p.newPublicKeys.map (·.node)

def CiphertextsOk (p : KemTreeCoverPayloadWire) (nMax : Nat) : Prop :=
  (∀ ct ∈ p.nodeCiphertexts, ct.source ≤ 2 * nMax - 2 ∧ ct.target ≤ 2 * nMax - 2 ∧
    ct.targetPkHash.length = 16 ∧ ct.kemCt.length = 1088 ∧ ct.wrappedPs.length = 48) ∧
  (p.nodeCiphertexts.map fun ct => (ct.source, ct.target)).IsChain pairLT

def WellFormed (p : KemTreeCoverPayloadWire) (nMax : Nat) : Prop :=
  p.PathOk nMax ∧ (p.revokedLeafIndicesHint.getD []).IsChain (· < ·) ∧ p.KeysOk nMax ∧
    p.CiphertextsOk nMax

instance (p : KemTreeCoverPayloadWire) (nMax : Nat) : Decidable (p.WellFormed nMax) := by
  unfold WellFormed PathOk KeysOk CiphertextsOk
  infer_instance

end KemTreeCoverPayloadWire

/-- Every refusal gives the same error, so the checks stand in one condition. -/
def parseBarrierUpdate (dec : WireDecoder) (header : HeaderMap) (expectedNMax : Nat) :
    Except CityGError (Option ParsedBarrierUpdate) :=
  match header.get? HDR_BARRIER_UPDATE with
  | some (.bytes rawUpdate) => do
    Except.ensure (isPowerOfTwo expectedNMax ∧ 2 * expectedNMax ≤ U64_MAX)
      barrierUpdateMalformed
    let wire ← Except.ofOption barrierUpdateMalformed (dec.barrierUpdate rawUpdate)
    Except.ensure (wire.mode = "barrier-v1" ∧ wire.treeSize = expectedNMax)
      barrierUpdateMalformed
    let payload ← Except.ofOption barrierUpdateMalformed (dec.coverPayload wire.coverPayload)
    Except.ensure (payload.WellFormed expectedNMax) barrierUpdateMalformed
    let revocationRootsHash ← vecTo32 wire.revocationRootsHash
    let kemTreeHashBefore ← vecTo32 wire.kemTreeHashBefore
    let kemTreeHashAfter ← vecTo32 wire.kemTreeHashAfter
    pure (some {
      prevBarrierVersion := wire.prevBarrierVersion
      updaterSlotIndex := payload.updaterSlotIndex
      updaterSlotGeneration := payload.updaterSlotGeneration
      treeSize := wire.treeSize
      revocationRootsHash := revocationRootsHash
      kemTreeHashBefore := kemTreeHashBefore
      kemTreeHashAfter := kemTreeHashAfter
      pathNodes := payload.pathNodes
      nodeCiphertexts := payload.nodeCiphertexts.map fun ct =>
        ⟨ct.source, ct.target, ct.targetPkHash⟩
      newPublicKeys := payload.newPublicKeys.map fun key => (key.node, key.ek) })
  | _ => pure none

/-- The tree the current update starts from, read from the update itself when
it decodes. -/
def GroupState.acceptedPredecessorHash (dec : WireDecoder) (state : GroupState) : Bytes32 :=
  if state.currentAcceptedBarrierUpdate = [] then state.currentAcceptedBarrierPredecessorHash
  else
    match (dec.barrierUpdate state.currentAcceptedBarrierUpdate).bind
        fun wire => toBytes32 wire.kemTreeHashBefore with
    | some hash => hash
    | none => state.currentAcceptedBarrierPredecessorHash

def barrierRuntimeMatchesCurrentUpdate (dec : WireDecoder) (barrierVersion : Nat)
    (barrierRootsHash kemTreeHashAfter : Bytes32) (nMax : Nat) (update : Bytes) : Bool :=
  if update = [] then barrierVersion = 0
  else
    match dec.barrierUpdate update with
    | none => false
    | some wire =>
      wire.barrierVersion = barrierVersion ∧ wire.treeSize = nMax ∧
        toBytes32 wire.revocationRootsHash = some barrierRootsHash ∧
        toBytes32 wire.kemTreeHashAfter = some kemTreeHashAfter

end CityG
