import CityG.Accept.Context
import CityG.BarrierUpdate

/-!
# Reading anchor headers

CBOR and UTF-8 conversions are parameters, as is the labelled hash. A field
that is missing or of the wrong type freezes with the code its reader names.
-/

namespace CityG

open Except (ensure ofOption)

structure AnchorCodec where
  hL : HashL
  /-- `to_cbor_vec`. -/
  toCbor : Value → Bytes
  /-- `ciborium::de::from_reader`. -/
  fromReader : Bytes → Option Value
  /-- `str::from_utf8`. -/
  fromUtf8 : Bytes → Option String
  /-- `str::as_bytes`. -/
  asBytes : String → Bytes
  wire : WireDecoder

def MERGE_ONLY_KEYS : List Nat :=
  [HDR_MH_HEADS, HDR_ROLLUP_PIVOT_WEID, HDR_ROLLUP_PROVENANCE_COMMIT, HDR_ROLLUP_EPOCH_REPLAY,
    HDR_ROLLUP_VCK_COMMIT, HDR_MERGE_DELEGATION_SIG, HDR_KBROAD_REPLAY, HDR_ROLLUP_FS_MODE,
    HDR_FS_EVOLUTION_BOUNDARY, HDR_FS_PURGE_TIMES, HDR_FS_CHECKPOINT_EC]

def SRX_ONLY_KEYS : List Nat :=
  [HDR_SRX_COMMIT, HDR_SRX_PAYLOAD, HDR_SRX_ROOT_SW, HDR_SRX_SMALLWOOD]

def LEGACY_SRX_KEYS : List Nat := [HDR_SRX_MODE, HDR_SRX_HINT_COUNTS, HDR_SRX_HINT_SIZES]

def BARRIER_LEAF_PUBLIC_KEY_BYTES : Nat := 1184

def freezeWith {α : Type} (err : FreezeError) : Except AcceptanceError α := .error (.freeze err)

def valueBytes32 (freeze : FreezeError) : Value → Except AcceptanceError Bytes32
  | .bytes b => ofOption (.freeze freeze) (toBytes32 b)
  | _ => freezeWith freeze

section Readers
variable (header : HeaderMap) (key : Nat)

def headerBytes32OrFreeze (freeze : FreezeError) : Except AcceptanceError Bytes32 :=
  match header.get? key with
  | some value => valueBytes32 freeze value
  | none => freezeWith freeze

def headerU64OrFreeze (freeze : FreezeError) : Except AcceptanceError Nat :=
  ofOption (.freeze freeze) ((header.get? key).bind Value.asU64)

def headerBytesOr (freeze : FreezeError) : Except AcceptanceError Bytes :=
  ofOption (.freeze freeze) ((header.get? key).bind Value.asBytes)

def headerBytesOrFreeze : Except AcceptanceError Bytes := headerBytesOr header key freezeFieldMissing

def headerOptionalBytes32 (freeze : FreezeError) : Except AcceptanceError (Option Bytes32) :=
  match header.get? key with
  | none => .ok none
  | some value => some <$> valueBytes32 freeze value

end Readers

namespace AnchorCodec

section Text
variable (codec : AnchorCodec) (header : HeaderMap) (key : Nat)

def textOf : Value → Option String
  | .text text => some text
  | .bytes b => codec.fromUtf8 b
  | _ => none

def headerStringOrFreeze : Except AcceptanceError String :=
  ofOption (.freeze freezeFieldMissing) ((header.get? key).bind codec.textOf)

def headerValueBytes (freeze : FreezeError) : Except AcceptanceError Bytes :=
  match header.get? key with
  | some (.bytes b) => .ok b
  | some (.text text) => .ok (codec.asBytes text)
  | _ => freezeWith freeze

end Text

end AnchorCodec

/-- The policy version, which the legacy field may only repeat. -/
def headerFsPolicyVersion (header : HeaderMap) : Except AcceptanceError Nat := do
  let version ← headerU64OrFreeze header HDR_FS_POLICY_VERSION freezeFsPolicyVersionUnsupported
  if HDR_POLICY_VERSION ∈ header then do
    let legacy ← headerU64OrFreeze header HDR_POLICY_VERSION freezeFsPolicyVersionUnsupported
    ensure (legacy = version) (.freeze freezeFsPolicyVersionUnsupported)
    pure version
  else pure version

inductive AnchorType where
  | join
  | merge
  | regular
  deriving DecidableEq

def classifyAnchorType (header : HeaderMap) : AnchorType :=
  if HDR_BARRIER_UPDATE ∈ header ∨ HDR_BARRIER_UPDATE_REASON ∈ header ∨
      ∃ key ∈ MERGE_ONLY_KEYS, key ∈ header then .merge
  else if HDR_BARRIER_LEAF_PK ∈ header then .join
  else .regular

def isMergeAnchor (header : HeaderMap) : Bool := classifyAnchorType header = .merge

def KNOWN_HEADER_KEYS : List Nat :=
  [20, HDR_TSWE_ALG, HDR_SEED_CTX_HASH, HDR_MERKLE_SUITE, HDR_RHO_COMMIT, HDR_SEED_BUNDLE_COMMIT,
    HDR_VRF_PROOF, HDR_HP_BYTES, HDR_CRS_ID, HDR_HP_COMMIT, 102, HDR_KBROAD_ALG, HDR_KBROAD_PUB,
    HDR_PARAMS_ID, HDR_POP_ALG, HDR_POP_PK, HDR_POP_SIG, HDR_PARENT_ROOT, HDR_JOIN_DELTA_ROOT,
    HDR_REVOKED_SINCE_ROOT, HDR_REVOKED_ROOT, HDR_VRF_ID, HDR_PROOF_MODE, HDR_SRX_MODE,
    HDR_SRX_COMMIT, HDR_SRX_PAYLOAD, HDR_SRX_HINT_COUNTS, HDR_SRX_HINT_SIZES, HDR_PROOFS_COMMIT,
    HDR_POLICY_VERSION, HDR_FS_POLICY_VERSION, HDR_FS_EC, HDR_FS_EPOCH_COMMIT,
    HDR_FS_EPOCH_BASE_TS, HDR_FS_CAPSS, HDR_FS_DEV_PREV_COMMIT, HDR_FS_DEV_COMMIT,
    HDR_BARRIER_UPDATE, HDR_BARRIER_VERSION, HDR_BARRIER_LEAF_PK, HDR_BARRIER_UPDATE_REASON,
    HDR_JOIN_FINALIZE_AUTH, HDR_BARRIER_HISTORY_COMMITMENT, HDR_BARRIER_FULL_VERIFICATION_RECEIPT,
    HDR_BARRIER_GLOBAL_HISTORY_ATTESTATION, HDR_BARRIER_FULL_VERIFICATION_WITNESS, HDR_VRF_MASK_A,
    HDR_VRF_MASK_B, HDR_VRF_PUBLIC_KEY, HDR_SRX_ROOT_SW, HDR_SRX_SMALLWOOD, HDR_BOOTSTRAP_ALG,
    HDR_BOOTSTRAP_SIG, HDR_BOOTSTRAP_PK]

def isKnownHeaderKey (key : Nat) (isMerge : Bool) : Bool :=
  isMerge ∧ key ∈ MERGE_ONLY_KEYS ∨ key ∈ KNOWN_HEADER_KEYS

def ensureKnownHeaderKeys (header : HeaderMap) (isMerge : Bool) : Except AcceptanceError Unit :=
  ensure (∀ key ∈ header.keys, isKnownHeaderKey key isMerge = true) (.freeze freezeHashCbor)

def enforceAnchorPresenceRules (header : HeaderMap) :
    AnchorType → Except AcceptanceError Unit
  | .merge | .regular => ensure (HDR_BARRIER_LEAF_PK ∉ header) (.freeze freezeHashCbor)
  | .join =>
    match (header.get? HDR_BARRIER_LEAF_PK).bind Value.asBytes with
    | some leafPk =>
      ensure (leafPk.length = BARRIER_LEAF_PUBLIC_KEY_BYTES) (.freeze freezeHashCbor)
    | none => freezeWith freezeHashCbor

/-- `None` and every malformed list end in the same freeze of the caller. -/
def parseMhHeads (header : HeaderMap) : Except AcceptanceError (List Bytes32) :=
  match header.get? HDR_MH_HEADS with
  | some (.array entries) => do
    let heads ← Except.mapList (valueBytes32 freezeMhHeadsInvalid) entries
    ensure (isSortedUnique heads = true) (.freeze freezeMhHeadsInvalid)
    pure heads
  | _ => freezeWith freezeMhHeadsInvalid

def parseMhNote (header : HeaderMap) : Except AcceptanceError (Option String) :=
  match header.get? 102 with
  | none => .ok none
  | some (.text note) => .ok (some note)
  | some _ => .error (.msphf (.invalidInput "mh_note not text"))

structure RollupEpochEntry where
  weid : Bytes32
  xkHash : Bytes32
  parentRoot : Bytes32
  joinDeltaRoot : Bytes32
  revokedSinceRoot : Bytes32
  revokedRoot : Bytes32
  isJoin : Bool
  deriving DecidableEq

def parseRollupEpochEntry : Value → Except AcceptanceError RollupEpochEntry
  | .array [weid, xkHash, .array [parentRoot, joinDeltaRoot, revokedSinceRoot, revokedRoot],
      .bool isJoin] => do
      let weid ← valueBytes32 freezeHashCbor weid
      let xkHash ← valueBytes32 freezeHashCbor xkHash
      let parentRoot ← valueBytes32 freezeHashCbor parentRoot
      let joinDeltaRoot ← valueBytes32 freezeHashCbor joinDeltaRoot
      let revokedSinceRoot ← valueBytes32 freezeHashCbor revokedSinceRoot
      let revokedRoot ← valueBytes32 freezeHashCbor revokedRoot
      pure ⟨weid, xkHash, parentRoot, joinDeltaRoot, revokedSinceRoot, revokedRoot, isJoin⟩
  | _ => freezeWith freezeHashCbor

/-- Every defect freezes with the same code, so the order of the checks does
not show. -/
def parseRollupEpochReplay : Value → Except AcceptanceError (List RollupEpochEntry)
  | .array entries => do
    let entries ← Except.mapList parseRollupEpochEntry entries
    ensure ((entries.map (·.weid)).IsChain (· < ·)) (.freeze freezeHashCbor)
    pure entries
  | _ => freezeWith freezeHashCbor

end CityG
