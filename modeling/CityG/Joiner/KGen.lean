import CityG.Joiner.Header
import CityG.Joiner.Rlwe
import CityG.Accept.Extract

/-!
# Key generation of a joiner

The second part of `joiner_kgen_or`: seeds from the settled header, one artifact
per branch, the epoch target hidden under both masks, the sealed artifact and
the proofs over it. Random bytes are inputs.
-/

namespace CityG

namespace Joiner

open Except (ensure ofOption)
open EStateM (check)
open Rlwe (CapssBranchWitness hashFull hBranchBytes)

def MAX_HP_BYTES : Nat := 16 * 1024

structure HpArtifact where
  hpA : Bytes
  hpB : Bytes
  mA : Bytes
  mB : Bytes
  paramsId : String
  hpVersion : Byte
  deriving DecidableEq

structure Suite where
  codec : AnchorCodec
  /-- Salt, key material and info. -/
  hkdf : Bytes32 → Bytes → Bytes → Bytes32
  blake3 : Bytes → Bytes32
  lattice : Rlwe.Suite
  witness : WitnessSuite
  encodeArtifact : HpArtifact → Bytes
  decodeArtifact : Bytes → Option HpArtifact
  /-- Key, nonce, associated data and message. -/
  encrypt : Bytes32 → Bytes → Bytes → Bytes → Option Bytes
  decrypt : Bytes32 → Bytes → Bytes → Bytes → Option Bytes
  /-- Secret key and message. -/
  signPop : Bytes → Bytes → Bytes
  capssProve : CapssInputs → Except MsphfError Bytes
  vrfPublicForEpoch : Bytes → Bytes32 → Except String Bytes
  vrfProve : Bytes → VrfCtx → Bytes32 × Bytes32 → Except String Bytes

def Suite.fs (suite : Suite) : FsHashes := ⟨suite.codec.hL, suite.hkdf⟩

structure Randomness where
  rho : Bytes32
  hpKey : Bytes32

structure CapssWitnessBundle where
  branchA : CapssBranchWitness
  branchB : CapssBranchWitness
  deriving DecidableEq

structure JoinerKGenResult where
  hpK : Bytes
  hpCiphertext : Bytes
  hpCommit : Bytes32
  hpAeadKey : Bytes32
  seedCtxHash : Bytes32
  seedCommit : Bytes32
  seedBundleCommit : Bytes32
  rhoCommit : Bytes32
  xkHash : Bytes32
  weEpochId : Bytes32
  epochKey : Bytes32
  eid : Bytes32
  anchorHdrCtx : Bytes
  retiredHeads : Option (List Bytes32)
  mhNote : Option String
  hpProof : Bytes
  headerMap : HeaderMap
  capssWitness : CapssWitnessBundle
  fsEpochSecret : Option Bytes32
  fsTau : Option Bytes32

section
variable (suite : Suite) (parts : AnchorInstanceParts) (params : OrchestrationParams)

def anchorInstance (seeded : SeededHeader) : AnchorInstance where
  toAnchorInstanceParts := parts
  weEpochId := seeded.weEpochId
  anchorHdrCtx := seeded.anchorSeedCtx
  msphfHpCommit := none

structure Rho where
  rho : Bytes32
  rhoCommit : Bytes32
  header : HeaderMap

def deriveRho (rng : Randomness) (anchor : AnchorInstance) (header : HeaderMap) : Rho :=
  let codec := suite.codec
  match params.popKeys with
  | some pop =>
    let leafId := codec.computeLeafId params.leafIdMode parts.gid pop.algorithm pop.publicKey
    let popSig := suite.signPop pop.secretKey (codec.popMsg anchor leafId).val
    ⟨codec.hL "msphf/rho/der" (Value.ofFields [("pop_sig", .bytes popSig),
        ("xk_hash", .bytes (codec.xkHash anchor).val)]),
      codec.deriveRhoCommitFromPop popSig (codec.xkHash anchor),
      ((header.insert HDR_POP_ALG (.text pop.algorithm)).insert
        HDR_POP_PK (.bytes pop.publicKey)).insert HDR_POP_SIG (.bytes popSig)⟩
  | none =>
    ⟨rng.rho, codec.hL "msphf/kgen/rho" (.bytes rng.rho.val),
      ((header.erase HDR_POP_ALG).erase HDR_POP_PK).erase HDR_POP_SIG⟩

def deriveDrbgSeed (hL : HashL) (seedCommit rho xkHash seedCtxHash : Bytes32) : Bytes32 :=
  hL "msphf/drbg" (Value.ofFields [("seed_commit", .bytes seedCommit.val),
    ("rho", .bytes rho.val), ("xk_hash", .bytes xkHash.val),
    ("seed_ctx_hash", .bytes seedCtxHash.val)])

def branchSeed (hL : HashL) (seedDrbg : Bytes32) : WitnessMode → Bytes32
  | .A => hL "msphf/kgen/A" (.bytes seedDrbg.val)
  | .B => hL "msphf/kgen/B" (.bytes seedDrbg.val)

def branchHash (seedDrbg xkHash : Bytes32) (branch : WitnessMode) : Rlwe.FullHashResult :=
  hashFull suite.lattice suite.codec.hL params.msphfCrsId params.paramsId
    (branchSeed suite.codec.hL seedDrbg branch) branch xkHash

def maskMaterial (hL : HashL) (crsId paramsId : String) (branch : WitnessMode) (y : Bytes32) :
    Bytes32 :=
  hBranchBytes hL crsId paramsId "msphf/mask" branch [y.val]

def yStar (anchor : AnchorInstance) (seedDrbg : Bytes32) : Bytes32 :=
  suite.codec.hL "msphf/ystar" (Value.ofFields
    [("r_y", .bytes (suite.lattice.xof32 "msphf/y*" seedDrbg.val).val),
      ("xk", .bytes (anchor.toCborBytes suite.codec)), ("crs", .text params.msphfCrsId),
      ("params", .text params.paramsId)])

def branchMask (seedDrbg xkHash : Bytes32) (branch : WitnessMode) : Bytes32 :=
  maskMaterial suite.codec.hL params.msphfCrsId params.paramsId branch
    (branchHash suite params seedDrbg xkHash branch).yFull

def hpArtifact (anchor : AnchorInstance) (seedDrbg : Bytes32) : HpArtifact :=
  let xkHash := suite.codec.xkHash anchor
  let y := yStar suite params anchor seedDrbg
  { hpA := (branchHash suite params seedDrbg xkHash .A).hpBytes
    hpB := (branchHash suite params seedDrbg xkHash .B).hpBytes
    mA := (y.xor (branchMask suite params seedDrbg xkHash .A)).val
    mB := (y.xor (branchMask suite params seedDrbg xkHash .B)).val
    paramsId := params.paramsId
    hpVersion := 1 }

def deriveHpNonce (hL : HashL) (xkHash commit : Bytes32) : Bytes :=
  (hL "hp/nonce" (Value.ofFields [("xk_hash", .bytes xkHash.val),
    ("hp_commit", .bytes commit.val)])).val.take 12

def encryptHpBytes (plaintext : Bytes) (xkHash commit key : Bytes32) : Except MsphfError Bytes := do
  ensure (plaintext ≠ []) (.invalidInput "hp_k empty")
  ensure (plaintext.length ≤ MAX_HP_BYTES) (.invalidInput "hp_k too large")
  ofOption (.invalidInput "msphf_hp_ciphertext encrypt failure")
    (suite.encrypt key (deriveHpNonce suite.codec.hL xkHash commit) commit.val plaintext)

def hpCommitOf (hL : HashL) (hpK : Bytes) : Bytes32 := hL "msphf/hp/commit" (.bytes hpK)

def localHpEnvelope (hpCiphertext : Bytes) : Value :=
  .array [.text BARRIER_HP_MODE, .text BARRIER_HP_CONTEXT_AUTHOR_LOCAL, .bytes hpCiphertext,
    .text HP_AEAD_SUITE]

def epochKey (hL : HashL) (anchor : AnchorInstance) (y : Bytes32) : Bytes32 :=
  hL "msphf/epoch" (.array [anchor.asCborTuple, .bytes y.val])

def eidFromEpoch (hL : HashL) (key : Bytes32) : Bytes32 := hL "we/eid" (.bytes key.val)

def srxComponents (header : HeaderMap) : Except MsphfError (Option (Bytes32 × Bytes)) :=
  match headerBytes32? header HDR_SRX_ROOT_SW,
      (header.get? HDR_SRX_SMALLWOOD).bind Value.asBytes with
  | some root, some proof => .ok (some (root, proof))
  | none, none => .ok none
  | _, _ => .error (.invalidInput
      "srx_root_sw and srx_smallwood must be both present or both absent")

structure KGenCommits where
  seedCommit : Bytes32
  seedBundleCommit : Bytes32
  rhoCommit : Bytes32
  hpCommit : Bytes32
  xkHash : Bytes32

def kgenCapssInputs (fsPolicyVersion : Nat) (settled : SettledEpoch) (commits : KGenCommits) :
    CapssInputs where
  seedCommit := commits.seedCommit
  seedBundleCommit := commits.seedBundleCommit
  rhoCommit := commits.rhoCommit
  hpCommit := commits.hpCommit
  xkHash := commits.xkHash
  crsId := params.msphfCrsId
  paramsId := params.paramsId
  proofMode := params.proofMode
  fsPolicyVersion := fsPolicyVersion
  vrfId := params.vrfId
  parentRoot := parts.parentRoot
  joinDeltaRoot := parts.joinDeltaRoot
  revokedSincePrevRoot := parts.revokedSincePrevRoot
  revokedRoot := parts.revokedRoot
  fsEpochCommit := settled.fsInputs.fsEpochCommit
  fsEc := settled.fsInputs.fsEc
  fsDevPrevCommit := settled.fsInputs.fsDevPrevCommit
  fsDevCommit := settled.fsDevCommit

def kgenVrfCtx (fsPolicyVersion : Nat) (settled : SettledEpoch) (commits : KGenCommits)
    (header : HeaderMap) : VrfCtx where
  xkHash := commits.xkHash
  rhoCommit := commits.rhoCommit
  seedBundleCommit := commits.seedBundleCommit
  crsId := params.msphfCrsId
  hpCommit := commits.hpCommit
  paramsId := params.paramsId
  parentRoot := parts.parentRoot
  joinDeltaRoot := parts.joinDeltaRoot
  revokedSincePrevRoot := parts.revokedSincePrevRoot
  revokedRoot := parts.revokedRoot
  proofMode := params.proofMode
  profileVersion := BASE_PROFILE_VERSION
  fsPolicyVersion := fsPolicyVersion
  meorVrfId := params.vrfId
  fsEpochCommit := settled.fsInputs.fsEpochCommit
  fsEc := settled.fsInputs.fsEc
  fsDevPrevCommit := settled.fsInputs.fsDevPrevCommit
  fsDevCommit := settled.fsDevCommit
  srxRootSw := headerBytes32? header HDR_SRX_ROOT_SW
  weEpochId := settled.seeded.weEpochId

structure KGenProofs where
  fsCapss : Bytes
  vrfPi : Bytes
  vrfPublic : Bytes
  proofsCommit : Bytes32

def kgenProofs (fsPolicyVersion : Nat) (settled : SettledEpoch) (commits : KGenCommits)
    (masks : Bytes32 × Bytes32) (header : HeaderMap) : Except MsphfError KGenProofs := do
  let fsCapss ← suite.capssProve (kgenCapssInputs parts params fsPolicyVersion settled commits)
  let secret ← ofOption (.invalidInput "lb-vrf secret key payload required") params.vrfSecretKey
  let vrfPublic ← (suite.vrfPublicForEpoch secret settled.seeded.weEpochId).mapError .invalidInput
  let vrfPi ← (suite.vrfProve secret
    (kgenVrfCtx parts params fsPolicyVersion settled commits header) masks).mapError .invalidInput
  let srx ← srxComponents header
  pure ⟨fsCapss, vrfPi, vrfPublic, suite.codec.computeProofsCommitBytes vrfPi fsCapss srx⟩

def insertProofs (header : HeaderMap) (proofs : KGenProofs) : HeaderMap :=
  (((((header.insert HDR_FS_CAPSS (.bytes proofs.fsCapss)).insert
    HDR_VRF_PROOF (.bytes proofs.vrfPi)).insert
    HDR_VRF_PUBLIC_KEY (.bytes proofs.vrfPublic)).insert
    HDR_PROOF_MODE (.text params.proofMode)).insert
    HDR_VRF_ID (.text params.vrfId)).insert
    HDR_PROOFS_COMMIT (.bytes proofs.proofsCommit.val)

/-- A witness handed to key generation is validated and otherwise unused. -/
def checkWitness (anchor : AnchorInstance) : Option Bytes → Except MsphfError Unit
  | some bytes => do
    let parsed ← ofOption (.witness .cborMalformed) (suite.witness.decodeWitness bytes)
    let _ ← parsed.validateAgainst suite.witness suite.codec anchor
    pure ()
  | none => pure ()

structure KGenSeeds where
  seedCommit : Bytes32
  seedBundleCommit : Bytes32
  rhoCommit : Bytes32
  seedDrbg : Bytes32
  header : HeaderMap

def kgenSeeds (rng : Randomness) (seeded : SeededHeader) (parentRoot : Bytes32) : KGenSeeds :=
  let codec := suite.codec
  let anchor := anchorInstance parts seeded
  let rho := deriveRho suite parts params rng anchor seeded.header
  let seedCommit := codec.computeSeedCommit seeded.anchorSeedCtx parts.gid parts.cat
    seeded.weEpochId
  let seedBundleCommit := codec.computeSeedBundleCommit seeded.anchorSeedCtx rho.rhoCommit
    parts.gid parts.cat parentRoot
  ⟨seedCommit, seedBundleCommit, rho.rhoCommit,
    deriveDrbgSeed codec.hL seedCommit rho.rho (codec.xkHash anchor) seeded.seedCtxHash,
    (rho.header.insert HDR_RHO_COMMIT (.bytes rho.rhoCommit.val)).insert
      HDR_SEED_BUNDLE_COMMIT (.bytes seedBundleCommit.val)⟩

def finishKgen (rng : Randomness) (witnessBytes : Option Bytes) (prepared : PreparedJoin)
    (settled : SettledEpoch) : Except MsphfError JoinerKGenResult := do
  let codec := suite.codec
  let seeded := settled.seeded
  let anchor := anchorInstance parts seeded
  let xkHash := codec.xkHash anchor
  let parentRoot ← ofOption (.invalidInput "parent_root length") (toBytes32 parts.parentRoot)
  let seeds := kgenSeeds suite parts params rng seeded parentRoot
  checkWitness suite anchor witnessBytes
  let fullA := branchHash suite params seeds.seedDrbg xkHash .A
  let fullB := branchHash suite params seeds.seedDrbg xkHash .B
  let maskDigestA := suite.blake3 (branchMask suite params seeds.seedDrbg xkHash .A).val
  let maskDigestB := suite.blake3 (branchMask suite params seeds.seedDrbg xkHash .B).val
  let hpK := suite.encodeArtifact (hpArtifact suite params anchor seeds.seedDrbg)
  let hpCommit := hpCommitOf codec.hL hpK
  let hpCiphertext ← encryptHpBytes suite hpK xkHash hpCommit rng.hpKey
  let header := (((seeds.header.insert HDR_VRF_MASK_A (.bytes maskDigestA.val)).insert
    HDR_VRF_MASK_B (.bytes maskDigestB.val)).insert
    HDR_HP_BYTES (localHpEnvelope hpCiphertext)).insert
    HDR_HP_COMMIT (.bytes hpCommit.val)
  let key := epochKey codec.hL anchor (yStar suite params anchor seeds.seedDrbg)
  let commits : KGenCommits :=
    ⟨seeds.seedCommit, seeds.seedBundleCommit, seeds.rhoCommit, hpCommit, xkHash⟩
  let proofs ← kgenProofs suite parts params prepared.fsPolicyVersion settled commits
    (maskDigestA, maskDigestB) header
  pure {
    hpK := hpK
    hpCiphertext := hpCiphertext
    hpCommit := hpCommit
    hpAeadKey := rng.hpKey
    seedCtxHash := seeded.seedCtxHash
    seedCommit := seeds.seedCommit
    seedBundleCommit := seeds.seedBundleCommit
    rhoCommit := seeds.rhoCommit
    xkHash := xkHash
    weEpochId := seeded.weEpochId
    epochKey := key
    eid := eidFromEpoch codec.hL key
    anchorHdrCtx := seeded.anchorSeedCtx
    retiredHeads := prepared.retiredHeads
    mhNote := prepared.mhNote
    hpProof := codec.proveHpK ⟨params.msphfCrsId, params.paramsId, seeded.seedCtxHash,
      seeds.seedCommit, seeds.rhoCommit, xkHash, hpCommit⟩
    headerMap := insertProofs params header proofs
    capssWitness := ⟨fullA.capssWitness, fullB.capssWitness⟩
    fsEpochSecret := settled.fsEpochSecret
    fsTau := settled.fsTau }

/-- An error after the epoch is settled leaves the ratcheted state. -/
def joinerKgenOr (rng : Randomness) (clock : Nat → Nat) (header : HeaderMap)
    (witnessBytes : Option Bytes) : KGenM JoinerKGenResult := do
  let prepared ← check fun _ => prepareHeader suite.codec suite.fs parts params header
  let settled ← settleEpoch suite.codec suite.fs parts params clock prepared
  check fun _ => finishKgen suite parts params rng witnessBytes prepared settled

end

end Joiner

end CityG
