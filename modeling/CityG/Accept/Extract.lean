import CityG.Accept.Anchor

/-!
# Accepting an anchor with its material

`process_anchor_or`: the anchor carries the context of its own header, and the
binding material of a join agrees with what acceptance derived. The cache of
the receiver is written here and read nowhere, so it is left out.
-/

namespace CityG

open Except (ensure ofOption)
open EStateM (check)

def DEFAULT_POLICY_VERSION : String := "0"

structure HpBindingInputs where
  msphfCrsId : String
  paramsId : String
  seedCtxHash : Bytes32
  seedCommit : Bytes32
  rhoCommit : Bytes32
  xkHash : Bytes32
  hpCommit : Bytes32
  deriving DecidableEq

def AnchorCodec.proveHpK (codec : AnchorCodec) (inputs : HpBindingInputs) : Bytes :=
  (codec.hL "msphf/hp-binding/proof" (.bytes (codec.toCbor (Value.ofFields
    [("msphf_crs_id", .text inputs.msphfCrsId), ("params_id", .text inputs.paramsId),
      ("seed_ctx_hash", .bytes inputs.seedCtxHash.val),
      ("seed_commit", .bytes inputs.seedCommit.val), ("rho_commit", .bytes inputs.rhoCommit.val),
      ("xk_hash", .bytes inputs.xkHash.val), ("hp_commit", .bytes inputs.hpCommit.val)])))).val

def invalidAnchor (msg : String) : AcceptanceError := .msphf (.invalidInput msg)

structure AnchorAcceptanceResult where
  outcome : AcceptanceOutcome
  pivotParity : PivotParity
  deriving DecidableEq

section Header
variable (codec : AnchorCodec) (header : HeaderMap)

def headerTextOr (key : Nat) (default : String) : String :=
  ((header.get? key).bind Value.asText).getD default

def headerBytesOrEmpty (key : Nat) : Bytes := ((header.get? key).bind Value.asBytes).getD []

def headerBytes32? (key : Nat) : Option Bytes32 :=
  ((header.get? key).bind Value.asBytes).bind toBytes32

def headerRawBytes (key : Nat) : Bytes :=
  match header.get? key with
  | some (.bytes b) => b
  | some (.text text) => codec.asBytes text
  | _ => []

/-- The parity read back from the header, with a default for each field. -/
def extractPivotParity (anchor : AnchorInstance) (outcome : AcceptanceOutcome) :
    Except AcceptanceError PivotParity := do
  let parentRoot ← ofOption (invalidAnchor "parent_root") (toBytes32 anchor.parentRoot)
  let joinDeltaRoot ← ofOption (invalidAnchor "join_delta_root") (toBytes32 anchor.joinDeltaRoot)
  let revokedSinceRoot ←
    ofOption (invalidAnchor "revoked_since_prev_root") (toBytes32 anchor.revokedSincePrevRoot)
  let revokedRoot ← ofOption (invalidAnchor "revoked_root") (toBytes32 anchor.revokedRoot)
  pure {
    gid := anchor.gid
    cat := anchor.cat
    parentRoot := parentRoot
    weEpochId := outcome.weEpochId
    rhoCommit := outcome.rhoCommit
    seedCtxHash := outcome.seedCtxHash
    seedCommit := outcome.seedCommit
    hpCommit := outcome.hpCommit
    xkHash := outcome.xkHash
    joinDeltaRoot := joinDeltaRoot
    revokedSinceRoot := revokedSinceRoot
    revokedRoot := revokedRoot
    acceptSeq := outcome.acceptSeq
    crsId := headerRawBytes codec header HDR_CRS_ID
    paramsId := headerRawBytes codec header HDR_PARAMS_ID
    policyVersion :=
      (((header.get? HDR_FS_POLICY_VERSION).bind Value.asU64).map toString).getD
        DEFAULT_POLICY_VERSION
    proofMode := headerTextOr header HDR_PROOF_MODE DEFAULT_PROOF_MODE
    vrfId := headerTextOr header HDR_VRF_ID DEFAULT_VRF_ID
    vrfProof := headerBytesOrEmpty header HDR_VRF_PROOF
    vrfPublic := headerBytesOrEmpty header HDR_VRF_PUBLIC_KEY
    maskA := (headerBytes32? header HDR_VRF_MASK_A).getD .zero
    maskB := (headerBytes32? header HDR_VRF_MASK_B).getD .zero
    fsCapss := headerBytesOrEmpty header HDR_FS_CAPSS
    proofsCommit := (headerBytes32? header HDR_PROOFS_COMMIT).getD .zero
    srxCommit := headerBytes32? header HDR_SRX_COMMIT
    srxRootSw := headerBytes32? header HDR_SRX_ROOT_SW
    isJoin := decide (outcome.kind = .nonMerge)
    hpEnvelope := headerHpEnvelope codec header
    fsEpochCommit := outcome.fsEpochCommit
    fsEc := outcome.fsEc
    fsDevCommit := outcome.fsDevCommit }

end Header

section
variable (codec : AnchorCodec) (verifiers : AnchorProofs) (anchor : AnchorInstance)
  (header : HeaderMap)

def acceptAnchorOr : AcceptM AcceptanceOutcome := do
  check fun _ => ensure (codec.buildAnchorSeedCtx header = anchor.anchorHdrCtx)
    (invalidAnchor "anchor_hdr_ctx mismatch")
  let outcome ← acceptAnchor codec verifiers ⟨anchor.toAnchorInstanceParts, anchor.weEpochId, header⟩
  let commit ← check fun _ => ofOption (invalidAnchor "missing msphf_hp_commit") anchor.msphfHpCommit
  check fun _ => ensure (commit = outcome.hpCommit) (invalidAnchor "msphf_hp_commit mismatch")
  pure outcome

def checkBinding (outcome : AcceptanceOutcome) (binding : HpBindingInputs) (witness : Bytes) :
    Except AcceptanceError Unit := do
  ensure (binding.seedCtxHash = outcome.seedCtxHash) (invalidAnchor "seed_ctx_hash mismatch")
  ensure (binding.seedCommit = outcome.seedCommit) (invalidAnchor "seed_commit mismatch")
  ensure (binding.rhoCommit = outcome.rhoCommit) (invalidAnchor "rho_commit mismatch")
  ensure (binding.hpCommit = outcome.hpCommit) (invalidAnchor "hp_commit mismatch")
  ensure (codec.xkHash anchor = binding.xkHash) (invalidAnchor "xk_hash mismatch")
  if witness = [] then pure ()
  else (verifiers.validateWitness anchor witness).mapError .ofMsphf

/-- A proof is verified once per cache key. -/
def verifyHp (binding : HpBindingInputs) (hpProof : Bytes) (now : Nat) : AcceptM Unit := do
  let key ← check fun _ => codec.computeVckKey binding.xkHash binding.seedCommit binding.rhoCommit
    binding.hpCommit header
  let shouldVerify ← modifyGet fun ctx =>
    let result := ctx.vckCache.shouldVerifyHp key hpProof now
    (result.1, ctx.setVckCache result.2)
  if shouldVerify then do
    check fun _ => ensure (codec.proveHpK binding = hpProof) (invalidAnchor "hp_k proof mismatch")
    modify fun ctx => ctx.setVckCache (ctx.vckCache.recordHp key hpProof now)
  else pure ()

/-- A merge reuses the proof of its pivot. -/
def verifyBinding (outcome : AcceptanceOutcome) (binding : HpBindingInputs) (hpProof witness : Bytes) :
    AcceptM Unit :=
  match outcome.kind with
  | .merge _ => pure ()
  | .nonMerge => do
    check fun _ => checkBinding codec verifiers anchor outcome binding witness
    verifyHp codec header binding hpProof outcome.acceptTime

def processAnchorOr (hpProof : Bytes) (binding : HpBindingInputs) (witness : Bytes) :
    AcceptM AnchorAcceptanceResult := do
  let outcome ← acceptAnchorOr codec verifiers anchor header
  let pivotParity ← check fun _ => extractPivotParity codec header anchor outcome
  verifyBinding codec verifiers anchor header outcome binding hpProof witness
  pure ⟨outcome, pivotParity⟩

end

end CityG
