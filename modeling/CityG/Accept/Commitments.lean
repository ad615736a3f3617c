import CityG.Accept.Gate
import CityG.Srx

/-!
# Commitments of an anchor

Identifiers and commitments are labelled hashes of CBOR records. The proof
systems are parameters over the statements that the pipelines build for them.
-/

namespace CityG

open Except (ensure ofOption)

structure AnchorInstanceParts where
  gid : Bytes
  cat : Bytes
  tsweSaltHash : Bytes
  parentRoot : Bytes
  joinDeltaRoot : Bytes
  revokedSincePrevRoot : Bytes
  revokedRoot : Bytes
  poxRCommit : Option Bytes
  deriving DecidableEq

structure AnchorInstance extends AnchorInstanceParts where
  weEpochId : Bytes32
  anchorHdrCtx : Bytes
  msphfHpCommit : Option Bytes32
  deriving DecidableEq

def AnchorInstance.asCborTuple (anchor : AnchorInstance) : Value :=
  .array [.bytes anchor.gid, .bytes anchor.cat, .bytes anchor.weEpochId.val,
    .bytes anchor.anchorHdrCtx, .bytes anchor.tsweSaltHash, .bytes anchor.parentRoot,
    .bytes anchor.joinDeltaRoot, .bytes anchor.revokedSincePrevRoot, .bytes anchor.revokedRoot,
    (anchor.poxRCommit.map Value.bytes).getD .null]

def SEED_CTX_EXCLUDED_KEYS : List Nat :=
  [11, 16, 43, 46, 89, 91] ++
  [93, 94, 95, 96, 97, 98, 99, 100, 102, 107, 108, 109, 116, 118, 119, 125, 120, 121, 122, 123,
    124, 130, 131, 132, 133, 134, 135, 136, 137, 138, 144, 145, 146, 147, 148, 154, 155, 156, 170,
    171, 172]

namespace AnchorCodec

section Hashes
variable (codec : AnchorCodec)

def buildAnchorSeedCtx (header : HeaderMap) : Bytes :=
  codec.toCbor (.map ((header.entries.filter fun e => decide (e.1 ∉ SEED_CTX_EXCLUDED_KEYS)).map
    fun e => (.ofNat e.1, e.2)))

def computeSeedCtxHash (anchorSeedCtx : Bytes) : Bytes32 :=
  codec.hL "seedctx" (.bytes anchorSeedCtx)

def computeSeedCommit (anchorSeedCtx gid cat : Bytes) (weEpochId : Bytes32) : Bytes32 :=
  codec.hL "msphf/kgen/seed" (Value.ofFields [("anchor_seed_ctx", .bytes anchorSeedCtx),
    ("gid", .bytes gid), ("cat", .bytes cat), ("we_epoch_id", .bytes weEpochId.val)])

def computeSeedBundleCommit (anchorSeedCtx : Bytes) (rhoCommit : Bytes32) (gid cat : Bytes)
    (parentRoot : Bytes32) : Bytes32 :=
  codec.hL "msphf/seed/bundle" (Value.ofFields [("anchor_seed_ctx", .bytes anchorSeedCtx),
    ("rho_commit", .bytes rhoCommit.val), ("gid", .bytes gid), ("cat", .bytes cat),
    ("parent_root", .bytes parentRoot.val)])

def slotFields (gid parentRoot : Bytes) (seedCtxHash : Bytes32) : Value :=
  Value.ofFields [("gid", .bytes gid), ("parent_root", .bytes parentRoot),
    ("seed_ctx_hash", .bytes seedCtxHash.val)]

def deriveWeEpochId (gid parentRoot : Bytes) (seedCtxHash : Bytes32) : Bytes32 :=
  codec.hL "weid" (slotFields gid parentRoot seedCtxHash)

def computeWindowId (gid : Bytes) (parentRoot seedCtxHash : Bytes32) : Bytes32 :=
  codec.hL "mhw/window" (slotFields gid parentRoot.val seedCtxHash)

def tsweSaltHash (gid parentRoot : Bytes) : Bytes32 :=
  codec.hL "tswe/salt" (Value.ofFields [("gid", .bytes gid), ("parent_root", .bytes parentRoot)])

def xkHash (anchor : AnchorInstance) : Bytes32 := codec.hL "msphf/xk" anchor.asCborTuple

def computeLeafId (mode : LeafIdMode) (gid : Bytes) (devicePkAlg : String) (devicePk : Bytes) :
    Bytes32 :=
  match mode with
  | .perGroup => codec.hL "leaf-id" (.array [.bytes gid, .text devicePkAlg, .bytes devicePk])
  | .global => codec.hL "leaf-id" (.array [.text devicePkAlg, .bytes devicePk])

def computeProofsCommitBytes (vrfPi fsCapss : Bytes) (srx : Option (Bytes32 × Bytes)) : Bytes32 :=
  codec.hL "msphf/proofs" (.array ([.bytes vrfPi, .bytes fsCapss] ++
    match srx with
    | some (root, proof) => [.bytes root.val, .bytes proof]
    | none => []))

def deriveRhoCommitFromPop (popSig : Bytes) (xkHash : Bytes32) : Bytes32 :=
  codec.hL "msphf/kgen/rho" (.bytes (codec.hL "msphf/rho/der"
    (Value.ofFields [("pop_sig", .bytes popSig), ("xk_hash", .bytes xkHash.val)])).val)

def computeVckKey (xkHash seedCommit rhoCommit hpCommit : Bytes32) (header : HeaderMap) :
    Except AcceptanceError Bytes32 := do
  let crsId ← codec.headerValueBytes header HDR_CRS_ID freezeMsphfCrsInvalid
  let paramsId ← codec.headerValueBytes header HDR_PARAMS_ID freezeParamsIdInvalid
  let srxCommit ← headerOptionalBytes32 header HDR_SRX_COMMIT freezeSrxInvalid
  let proofsCommit ← headerOptionalBytes32 header HDR_PROOFS_COMMIT freezeCapssInvalid
  let proofMode ← codec.headerStringOrFreeze header HDR_PROOF_MODE
  let vrfId ← codec.headerStringOrFreeze header HDR_VRF_ID
  let fsPolicyVersion ← headerFsPolicyVersion header
  pure (codec.hL "msphf/vck" (Value.ofFields [("xk_hash", .bytes xkHash.val),
    ("seed_commit", .bytes seedCommit.val), ("rho_commit", .bytes rhoCommit.val),
    ("hp_commit", .bytes hpCommit.val), ("crs_id", .bytes crsId), ("params_id", .bytes paramsId),
    ("srx_commit", .bytes (srxCommit.getD .zero).val),
    ("proofs_commit", .bytes (proofsCommit.getD .zero).val), ("proof_mode", .text proofMode),
    ("vrf_id", .text vrfId), ("fs_policy_version", .ofNat fsPolicyVersion)]))

end Hashes

end AnchorCodec

/-- `str::parse::<u64>`: digits after an optional plus sign. -/
def parseU64 (s : String) : Option Nat :=
  let digits := match s.toList with
    | '+' :: rest => rest
    | chars => chars
  if digits ≠ [] ∧ digits.all (·.isDigit) then
    let n := digits.foldl (fun n c => 10 * n + (c.toNat - '0'.toNat)) 0
    if n ≤ U64_MAX then some n else none
  else none

def PivotParity.vckHeader (parity : PivotParity) (fsPolicyVersion : Nat) : HeaderMap :=
  OrdMap.ofList ([(HDR_CRS_ID, .bytes parity.crsId), (HDR_PARAMS_ID, .bytes parity.paramsId),
    (HDR_PROOFS_COMMIT, .bytes parity.proofsCommit.val), (HDR_PROOF_MODE, .text parity.proofMode),
    (HDR_VRF_ID, .text parity.vrfId), (HDR_FS_POLICY_VERSION, .ofNat fsPolicyVersion)] ++
    match parity.srxCommit with
    | some commit => [(HDR_SRX_COMMIT, .bytes commit.val)]
    | none => [])

def AnchorCodec.computeVckFromParity (codec : AnchorCodec) (parity : PivotParity) :
    Except AcceptanceError Bytes32 := do
  let version ← ofOption (.freeze freezeFsPolicyVersionUnsupported) (parseU64 parity.policyVersion)
  codec.computeVckKey parity.xkHash parity.seedCommit parity.rhoCommit parity.hpCommit
    (parity.vckHeader version)

structure CapssInputs where
  seedCommit : Bytes32
  seedBundleCommit : Bytes32
  rhoCommit : Bytes32
  hpCommit : Bytes32
  xkHash : Bytes32
  crsId : String
  paramsId : String
  proofMode : String
  fsPolicyVersion : Nat
  vrfId : String
  parentRoot : Bytes
  joinDeltaRoot : Bytes
  revokedSincePrevRoot : Bytes
  revokedRoot : Bytes
  fsEpochCommit : Bytes32
  fsEc : Nat
  fsDevPrevCommit : Bytes32
  fsDevCommit : Bytes32

structure CapssStrictInputs where
  crsId : String
  paramsId : String
  seedCommit : Bytes32
  seedCtxHash : Bytes32
  xkHash : Bytes32
  rhoCommit : Bytes32
  popAlg : String
  popPk : Bytes
  anchor : AnchorInstance
  leafId : Bytes32
  popSig : Bytes

structure VrfCtx where
  xkHash : Bytes32
  rhoCommit : Bytes32
  seedBundleCommit : Bytes32
  crsId : String
  hpCommit : Bytes32
  paramsId : String
  parentRoot : Bytes
  joinDeltaRoot : Bytes
  revokedSincePrevRoot : Bytes
  revokedRoot : Bytes
  proofMode : String
  profileVersion : String
  fsPolicyVersion : Nat
  meorVrfId : String
  fsEpochCommit : Bytes32
  fsEc : Nat
  fsDevPrevCommit : Bytes32
  fsDevCommit : Bytes32
  srxRootSw : Option Bytes32
  weEpochId : Bytes32

structure SmallwoodInputs where
  shadowRootBefore : Bytes32
  shadowRootAfter : Bytes32
  parentRoot : Bytes32
  joinRoot : Bytes32
  revokedSinceRoot : Bytes32
  revokedRoot : Bytes32
  srxCommit : Bytes32
  srxPayloadDigest : Bytes32
  srxBridgeCtx : Bytes32
  proofMode : String
  fsPolicyVersion : Nat
  vrfId : String

structure SrxPayload where
  joinNonmemParent : List AnchoredNonMembership
  joinNonmemRevokedSince : List AnchoredNonMembership
  revokedSinceMemInRevoked : List RawMembershipWitness
  joinLeafIds : List Bytes32
  joinFrontier : Option (List Bytes32)
  sinceLeafIds : List Bytes32
  sinceFrontier : Option (List Bytes32)
  anchorMemPool : List RawMembershipWitness

structure AnchorProofs where
  merkle : MerkleHash
  /-- Public key, message, signature. -/
  verifySignature : Bytes → Bytes → Bytes → Bool
  capssVerify : CapssInputs → Bytes → Except AcceptanceError Unit
  recomputeCapssWitness : CapssStrictInputs → Except MsphfError Bytes
  /-- Public key, context, masks, proof; an error of the verifier is `false`. -/
  vrfVerify : Bytes → VrfCtx → Bytes32 × Bytes32 → Bytes → Bool
  parseSrxPayload : Value → Except AcceptanceError SrxPayload
  smallwoodVerify : SmallwoodInputs → Bytes → Except AcceptanceError Unit
  /-- A canonical witness that is not empty, against its instance. -/
  validateWitness : AnchorInstance → Bytes → Except MsphfError Unit

end CityG
