import CityG.Accept.Stages

/-!
# Proof artifacts, possession proofs and bootstrap signatures
-/

namespace CityG

open Except (ensure ofOption)

structure ProofArtifacts where
  commit : Bytes32
  vrfPi : Bytes
  fsCapss : Bytes
  /-- Shadow root and Smallwood proof, given together. -/
  srx : Option (Bytes32 × Bytes)
  proofMode : String
  vrfId : String
  maskA : Bytes32
  maskB : Bytes32
  fsPolicyVersion : Nat
  vrfPublic : Bytes
  deriving DecidableEq

section
variable (codec : AnchorCodec) (header : HeaderMap)

/-- A suite of the header: known to the code and listed by the policy. -/
def ensureSupported (key : Nat) (supported : String) (allowed : Option (List String))
    (deprecated : List String) : Except AcceptanceError String := do
  let id ← codec.headerStringOrFreeze header key
  ensure (id = supported) (.freeze freezeSuiteForbidden)
  ensureListed id allowed deprecated freezeSuiteForbidden
  pure id

def readSrxProof : Except AcceptanceError (Option (Bytes32 × Bytes)) := do
  ensure (HDR_SRX_ROOT_SW ∈ header ↔ HDR_SRX_SMALLWOOD ∈ header) (.freeze freezeSrxInvalid)
  if HDR_SRX_ROOT_SW ∈ header then do
    let root ← headerBytes32OrFreeze header HDR_SRX_ROOT_SW freezeSrxSmallwoodInvalid
    let proof ← headerBytesOr header HDR_SRX_SMALLWOOD freezeSrxSmallwoodInvalid
    ensure (proof.length ≤ SRX_SMALLWOOD_MAX_BYTES) (.freeze freezeSrxSmallwoodInvalid)
    pure (some (root, proof))
  else pure none

def ensureProofs (ctx : AcceptanceContext) : Except AcceptanceError ProofArtifacts := do
  let proofMode ← ensureSupported codec header HDR_PROOF_MODE DEFAULT_PROOF_MODE
    ctx.allowedProofModes ctx.deprecatedProofModes
  let vrfId ← ensureSupported codec header HDR_VRF_ID DEFAULT_VRF_ID
    ctx.allowedVrfIds ctx.deprecatedVrfIds
  let fsPolicyVersion ← headerFsPolicyVersion header
  let maskA ← headerBytes32OrFreeze header HDR_VRF_MASK_A freezeFieldMissing
  let maskB ← headerBytes32OrFreeze header HDR_VRF_MASK_B freezeFieldMissing
  let vrfPi ← headerBytesOrFreeze header HDR_VRF_PROOF
  let vrfPublic ← headerBytesOrFreeze header HDR_VRF_PUBLIC_KEY
  let fsCapss ← headerBytesOrFreeze header HDR_FS_CAPSS
  let srx ← readSrxProof header
  let commit ← headerBytes32OrFreeze header HDR_PROOFS_COMMIT freezeFieldMissing
  ensure (fsCapss.length ≤ FS_CAPSS_MAX_BYTES) (.freeze freezeCapssInvalid)
  ensure (codec.computeProofsCommitBytes vrfPi fsCapss srx = commit)
    (.freeze freezeProofsCommitInvalid)
  pure ⟨commit, vrfPi, fsCapss, srx, proofMode, vrfId, maskA, maskB, fsPolicyVersion, vrfPublic⟩

def popMsg (anchor : AnchorInstance) (leafId : Bytes32) : Bytes32 :=
  codec.hL "msphf/pop/msg" (Value.ofFields [("xk", .bytes (codec.toCbor anchor.asCborTuple)),
    ("leaf_id", .bytes leafId.val), ("epoch", .bytes anchor.weEpochId.val)])

def ensureJoinPop (proofs : AnchorProofs) (anchor : AnchorInstance) (mode : LeafIdMode) :
    Except AcceptanceError Unit := do
  ensureLabel codec header HDR_POP_ALG "ML-DSA-65" freezePopInvalid
  let pk ← headerBytesOr header HDR_POP_PK freezePopInvalid
  ensure (pk.length = ML_DSA_65_PUBLIC_KEY_BYTES) (.freeze freezePopInvalid)
  let sig ← headerBytesOr header HDR_POP_SIG freezePopInvalid
  ensure (sig.length = ML_DSA_65_SIGNATURE_BYTES) (.freeze freezePopInvalid)
  let leafId := codec.computeLeafId mode anchor.gid "ML-DSA-65" pk
  ensure (proofs.verifySignature pk (popMsg codec anchor leafId).val sig = true)
    (.freeze freezePopInvalid)

structure BootstrapCommits where
  hpCommit : Bytes32
  seedCtxHash : Bytes32
  rhoCommit : Bytes32
  seedBundleCommit : Bytes32

def bootstrapCrsId : Option Value → Except AcceptanceError Value
  | some (.text text) => pure (.text text)
  | some (.bytes b) => pure (.bytes b)
  | _ => freezeWith freezeBootstrapInvalid

def bootstrapParamsId : Option Value → Except AcceptanceError Value
  | some (.text text) => pure (.text text)
  | some (.bytes b) => do
    ensure (b.length = 32) (.freeze freezeBootstrapInvalid)
    pure (.bytes b)
  | _ => freezeWith freezeBootstrapInvalid

def buildBootstrapDigest (anchor : AnchorInstance) (commits : BootstrapCommits) :
    Except AcceptanceError Bytes := do
  let crsId ← bootstrapCrsId (header.get? HDR_CRS_ID)
  let paramsId ← bootstrapParamsId (header.get? HDR_PARAMS_ID)
  pure (codec.toCbor (.array [.bytes anchor.gid, .bytes anchor.cat, .bytes anchor.weEpochId.val,
    .bytes anchor.anchorHdrCtx, .bytes anchor.tsweSaltHash, .bytes anchor.joinDeltaRoot,
    .bytes anchor.revokedRoot, crsId, paramsId, .bytes commits.hpCommit.val,
    .bytes commits.seedCtxHash.val, .bytes commits.rhoCommit.val,
    .bytes commits.seedBundleCommit.val]))

def validateNoBootstrap (policy : BootstrapPolicy) : Except AcceptanceError Unit :=
  ensure (HDR_BOOTSTRAP_SIG ∉ header ∧ HDR_BOOTSTRAP_PK ∉ header ∧ policy = .disabled)
    (.freeze freezeBootstrapInvalid)

def validateCaBootstrap (proofs : AnchorProofs) (anchor : AnchorInstance)
    (commits : BootstrapCommits) (publicKey : Bytes) : Except AcceptanceError Unit := do
  let sig ← headerBytesOr header HDR_BOOTSTRAP_SIG freezeBootstrapInvalid
  ensure (publicKey.length = ML_DSA_65_PUBLIC_KEY_BYTES ∧ sig.length = ML_DSA_65_SIGNATURE_BYTES)
    (.freeze freezeBootstrapInvalid)
  let digest ← buildBootstrapDigest codec header anchor commits
  ensure (proofs.verifySignature publicKey digest sig = true) (.freeze freezeBootstrapInvalid)

def validateBootstrap (proofs : AnchorProofs) (anchor : AnchorInstance)
    (commits : BootstrapCommits) (policy : BootstrapPolicy) : Except AcceptanceError Unit :=
  match header.get? HDR_BOOTSTRAP_ALG with
  | none => validateNoBootstrap header policy
  | some value => do
    let mode ← ofOption (.freeze freezeBootstrapInvalid) (codec.textOf value)
    match mode, policy with
    | "oob-ca-v1", .caMlDsa publicKey =>
      validateCaBootstrap codec header proofs anchor commits publicKey
    | _, _ => freezeWith freezeBootstrapUnsupported

end

end CityG
