import CityG.Accept.Commitments

/-!
# Checks shared by the pipelines

The stages read the header and the policy of the context; none of them writes.
-/

namespace CityG

open Except (ensure ofOption)

def MERKLE_DS_ID : String := "rpo-256/v2"
def TSWE_ALG_CODE : Int := 31
def TSWE_ALG_LABEL : String := "tswe/msphf-we/fs-hybrid"
def KBROAD_ML_KEM_ALG : String := "ml-kem-768"
def BARRIER_HP_MODE : String := "barrier-sealed-v1"
def BARRIER_HP_CONTEXT_AUTHOR_LOCAL : String := "author-local"
def BARRIER_HP_CONTEXT_BARRIER_RECOVERY : String := "barrier-recovery"
def HP_AEAD_SUITE : String := "chacha20-poly1305"
def DEFAULT_PROOF_MODE : String := "lin+zkvrf"
def DEFAULT_VRF_ID : String := "lb-vrf/v1"
def BASE_PROFILE_VERSION : String := "v0.1.4"
def AEAD_TAG_LEN : Nat := 16
def HP_MAX_CIPHERTEXT_BYTES : Nat := 16 * 1024 + 16
def MAX_HP_PROOF_BYTES : Nat := 512 * 1024
def MAX_VRF_PROOF_BYTES : Nat := 8192
def FS_CAPSS_MAX_BYTES : Nat := 16384
def SRX_SMALLWOOD_MAX_BYTES : Nat := 16384
def MIN_SRX_MAX_BYTES : Nat := 256 * 1024
def ML_KEM_PUBLIC_KEY_BYTES : Nat := 1184
def ML_DSA_65_PUBLIC_KEY_BYTES : Nat := 2592
def ML_DSA_65_SIGNATURE_BYTES : Nat := 4627

section Suite
variable (codec : AnchorCodec) (header : HeaderMap)

def ensureLabel (key : Nat) (label : String) (freeze : FreezeError) : Except AcceptanceError Unit :=
  ensure ((header.get? key).bind codec.textOf = some label) (.freeze freeze)

def ensureMerkleSuite : Except AcceptanceError Unit :=
  ensureLabel codec header HDR_MERKLE_SUITE MERKLE_DS_ID freezeMerkleSuiteInvalid

def ensureKbroadAlg : Except AcceptanceError Unit :=
  ensureLabel codec header HDR_KBROAD_ALG KBROAD_ML_KEM_ALG freezeKbroadAlgInvalid

def ensureTsweAlg : Except AcceptanceError Unit :=
  match header.get? HDR_TSWE_ALG with
  | some (.integer code) => ensure (code = TSWE_ALG_CODE) (.freeze freezeTsweAlgInvalid)
  | _ => ensureLabel codec header HDR_TSWE_ALG TSWE_ALG_LABEL freezeTsweAlgInvalid

def ensureListed {α : Type} [DecidableEq α] (id : α) (allowed : Option (List α))
    (deprecated : List α) (freeze : FreezeError) : Except AcceptanceError Unit := do
  ensure (∀ list ∈ allowed, id ∈ list) (.freeze freeze)
  ensure (id ∉ deprecated) (.freeze freezeSuiteDeprecated)

def ensureCrsId (ctx : AcceptanceContext) : Except AcceptanceError Unit := do
  let crsId ← ofOption (.freeze freezeMsphfCrsInvalid) ((header.get? HDR_CRS_ID).bind codec.textOf)
  ensure (crsId ≠ "") (.freeze freezeMsphfCrsInvalid)
  ensureListed crsId ctx.allowedCrsIds ctx.deprecatedCrsIds freezeMsphfCrsInvalid

def canonicalParamsId : Option Value → Option Bytes
  | some (.bytes b) => if b.length = 32 then some b else none
  | some (.text text) => if text = "" then none else some (codec.asBytes text)
  | _ => none

def ensureParamsId (ctx : AcceptanceContext) : Except AcceptanceError Unit := do
  let paramsId ← ofOption (.freeze freezeParamsIdInvalid)
    (canonicalParamsId codec (header.get? HDR_PARAMS_ID))
  ensureListed paramsId ctx.allowedParamsIds ctx.deprecatedParamsIds freezeParamsIdInvalid

end Suite

def ensureKbroadPub (ctx : AcceptanceContext) (gid : Bytes) (header : HeaderMap) :
    Except AcceptanceError Unit :=
  match header.get? HDR_KBROAD_PUB with
  | none => freezeWith freezeFieldMissing
  | some (.bytes pub) =>
    ensure (pub.length = ML_KEM_PUBLIC_KEY_BYTES ∧
        ∀ registry ∈ ctx.kbroadRegistry, registry.get? gid = some pub)
      (.freeze freezeKbroadParentMismatch)
  | some _ => freezeWith freezeKbroadParentMismatch

def ensureSuite (codec : AnchorCodec) (ctx : AcceptanceContext) (gid : Bytes)
    (header : HeaderMap) : Except AcceptanceError Unit := do
  ensureTsweAlg codec header
  ensureMerkleSuite codec header
  ensureCrsId codec header ctx
  ensureKbroadAlg codec header
  ensureKbroadPub ctx gid header
  ensureParamsId codec header ctx

section Presence
variable (header : HeaderMap)

def ensureMergeJoinKeysAbsent : Except AcceptanceError Unit :=
  ensure (∀ key ∈ [HDR_BARRIER_LEAF_PK, HDR_POP_ALG, HDR_POP_SIG, HDR_BOOTSTRAP_ALG,
      HDR_BOOTSTRAP_SIG, HDR_BOOTSTRAP_PK], key ∉ header)
    (.freeze freezeMergeJoinKeys)

def ensureJoinSrxKeysAbsent : Except AcceptanceError Unit :=
  ensure (∀ key ∈ SRX_ONLY_KEYS ++ LEGACY_SRX_KEYS, key ∉ header) (.freeze freezeSrxInvalid)

def ensureMergeSrxKeys (required : Bool) : Except AcceptanceError Unit := do
  ensure (∀ key ∈ LEGACY_SRX_KEYS, key ∉ header) (.freeze freezeSrxInvalid)
  if required then ensure (∀ key ∈ SRX_ONLY_KEYS, key ∈ header) (.freeze freezeSrxRequired)
  else ensure (∀ key ∈ SRX_ONLY_KEYS, key ∉ header) (.freeze freezeSrxInvalid)

def ensureBootstrapAbsent : Except AcceptanceError Unit :=
  ensure (∀ key ∈ [HDR_BOOTSTRAP_SIG, HDR_BOOTSTRAP_ALG, HDR_BOOTSTRAP_PK], key ∉ header)
    (.freeze freezeBootstrapInvalid)

end Presence

structure AnchorRoots where
  parentRoot : Bytes32
  joinDeltaRoot : Bytes32
  revokedSinceRoot : Bytes32
  revokedRoot : Bytes32
  deriving DecidableEq

def ensureRoot (header : HeaderMap) (key : Nat) (part : Bytes) : Except AcceptanceError Bytes32 := do
  let root ← headerBytes32OrFreeze header key freezeFieldMissing
  ensure (part = root.val) (.freeze freezeFieldMissing)
  pure root

def ensureRoots (parts : AnchorInstanceParts) (header : HeaderMap) :
    Except AcceptanceError AnchorRoots := do
  let parentRoot ← ensureRoot header HDR_PARENT_ROOT parts.parentRoot
  let joinDeltaRoot ← ensureRoot header HDR_JOIN_DELTA_ROOT parts.joinDeltaRoot
  let revokedSinceRoot ← ensureRoot header HDR_REVOKED_SINCE_ROOT parts.revokedSincePrevRoot
  let revokedRoot ← ensureRoot header HDR_REVOKED_ROOT parts.revokedRoot
  pure ⟨parentRoot, joinDeltaRoot, revokedSinceRoot, revokedRoot⟩

def ensureTsweSalt (codec : AnchorCodec) (parts : AnchorInstanceParts) (parentRoot : Bytes32) :
    Except AcceptanceError Unit := do
  ensure (parts.tsweSaltHash.length = 32) (.freeze freezeFieldMissing)
  ensure (parts.tsweSaltHash = (codec.tsweSaltHash parts.gid parentRoot.val).val)
    (.freeze freezeTsweSaltMismatch)

def checkHpEnvelopeFields (contexts : List String) (fields : List Value) :
    Except AcceptanceError Unit :=
  match fields with
  | [.text context, .bytes ciphertext, .text aead] =>
    ensure (context ∈ contexts ∧ AEAD_TAG_LEN ≤ ciphertext.length ∧
        ciphertext.length ≤ HP_MAX_CIPHERTEXT_BYTES ∧ aead = HP_AEAD_SUITE)
      (.freeze freezeHashCbor)
  | _ => freezeWith freezeHashCbor

def verifyHpEnvelope (expectedContext : String) : Value → Except AcceptanceError Unit
  | .array (.text mode :: fields) => do
    ensure (mode = BARRIER_HP_MODE) (.freeze freezeParentEidForbidden)
    checkHpEnvelopeFields [expectedContext] fields
  | _ => freezeWith freezeHashCbor

def verifyJoinPayloadHpEnvelope (header : HeaderMap) (envelopeOverride : Option Value)
    (expectedContext : String) : Except AcceptanceError Unit := do
  let envelope ← ofOption (.freeze freezeFieldMissing)
    (envelopeOverride <|> header.get? HDR_HP_BYTES)
  verifyHpEnvelope expectedContext envelope

def validateBarrierHpEnvelopeBytes (codec : AnchorCodec) (bytes : Bytes) :
    Except AcceptanceError Unit :=
  match codec.fromReader bytes with
  | some (.array [.text mode, context, ciphertext, aead]) => do
    ensure (mode = BARRIER_HP_MODE) (.freeze freezeParentEidForbidden)
    checkHpEnvelopeFields
      [BARRIER_HP_CONTEXT_AUTHOR_LOCAL, BARRIER_HP_CONTEXT_BARRIER_RECOVERY]
      [context, ciphertext, aead]
  | _ => freezeWith freezeHashCbor

end CityG
