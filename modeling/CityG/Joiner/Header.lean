import CityG.Joiner.ForwardSecrecy
import CityG.Accept.Stages
import CityG.Lib.Stateful

/-!
# The header a joiner starts from

`joiner_kgen_or` completes the header, chains the device and then looks for an
epoch identifier that agrees with the commitment derived from it: the
identifier hashes a header that carries the commitment.
-/

namespace CityG

namespace Joiner

open Except (ensure ofOption)

structure PopKeypair where
  algorithm : String
  publicKey : Bytes
  secretKey : Bytes
  deriving DecidableEq

structure OrchestrationParams where
  msphfCrsId : String
  paramsId : String
  popKeys : Option PopKeypair
  leafIdMode : LeafIdMode
  proofMode : String
  vrfId : String
  vrfSecretKey : Option Bytes
  fsPolicyVersion : String
  fsEpochBaseTs : Nat
  barrierVersion : Nat
  fsJoin : FsJoinInputs

section Fields
variable (codec : AnchorCodec) (params : OrchestrationParams) (header : HeaderMap)

def insertTsweAlg : HeaderMap := header.insert HDR_TSWE_ALG (.integer TSWE_ALG_CODE)

def completeTsweAlg : Except MsphfError HeaderMap :=
  match header.get? HDR_TSWE_ALG with
  | none => pure (insertTsweAlg header)
  | some (.integer code) => do
    ensure (0 ≤ code ∧ code < 256) (.invalidInput "tswe_alg out of range")
    ensure (code = TSWE_ALG_CODE) (.invalidInput "tswe_alg mismatch")
    pure header
  | some (.text text) => do
    ensure (text = TSWE_ALG_LABEL) (.invalidInput "tswe_alg mismatch")
    pure (insertTsweAlg header)
  | some (.bytes bytes) => do
    let text ← ofOption (.invalidInput "tswe_alg invalid utf8") (codec.fromUtf8 bytes)
    ensure (text = TSWE_ALG_LABEL) (.invalidInput "tswe_alg mismatch")
    pure (insertTsweAlg header)
  | some _ => .error (.invalidInput "tswe_alg invalid type")

def completeMerkleSuite : Except MsphfError HeaderMap :=
  match header.get? HDR_MERKLE_SUITE with
  | none => pure (header.insert HDR_MERKLE_SUITE (.text MERKLE_DS_ID))
  | some (.text text) => do
    ensure (text = MERKLE_DS_ID) (.invalidInput "merkle_ds_id mismatch")
    pure header
  | some _ => .error (.invalidInput "merkle_ds_id must be text")

def completeCrsId : Except MsphfError HeaderMap :=
  match header.get? HDR_CRS_ID with
  | none => pure (header.insert HDR_CRS_ID (.text params.msphfCrsId))
  | some (.text text) => do
    ensure (text = params.msphfCrsId) (.invalidInput "msphf_crs_id mismatch")
    pure header
  | some (.bytes bytes) => do
    let text ← ofOption (.invalidInput "msphf_crs_id invalid utf8") (codec.fromUtf8 bytes)
    ensure (text = params.msphfCrsId) (.invalidInput "msphf_crs_id mismatch")
    pure header
  | some _ => .error (.invalidInput "msphf_crs_id invalid type")

def completeParamsId : Except MsphfError HeaderMap :=
  match header.get? HDR_PARAMS_ID with
  | none => pure (header.insert HDR_PARAMS_ID (.text params.paramsId))
  | some (.text text) => do
    ensure (text = params.paramsId) (.invalidInput "msphf_params_id mismatch")
    pure header
  | some (.bytes bytes) => do
    ensure (bytes.length = 32) (.invalidInput "msphf_params_id length")
    pure header
  | some _ => .error (.invalidInput "msphf_params_id invalid type")

def parseFsPolicyVersion (version : String) : Except MsphfError Nat :=
  ofOption (.invalidInput "fs_policy_version must be uint") (parseU64 version)

def insertRoots (parts : AnchorInstanceParts) : HeaderMap :=
  (((header.insert HDR_PARENT_ROOT (.bytes parts.parentRoot)).insert
    HDR_JOIN_DELTA_ROOT (.bytes parts.joinDeltaRoot)).insert
    HDR_REVOKED_SINCE_ROOT (.bytes parts.revokedSincePrevRoot)).insert
    HDR_REVOKED_ROOT (.bytes parts.revokedRoot)

def parseBarrierVersion : Option Value → Except MsphfError Nat
  | none => .error (.invalidInput "missing barrier_version")
  | some (.integer value) =>
    ofOption (.invalidInput "barrier_version out of range") (Value.integer value).asU64
  | some _ => .error (.invalidInput "barrier_version must be uint")

def completeBarrierVersion : Except MsphfError HeaderMap :=
  match header.get? HDR_BARRIER_VERSION with
  | none => pure (header.insert HDR_BARRIER_VERSION (.ofNat params.barrierVersion))
  | some value => do
    let parsed ← parseBarrierVersion (some value)
    ensure (parsed = params.barrierVersion) (.invalidInput "barrier_version mismatch")
    pure header

def devicePublicKey : Except MsphfError Bytes :=
  match params.popKeys with
  | some pop => pure pop.publicKey
  | none => ofOption (.invalidInput "fs_join requires pop_public_key")
      ((header.get? HDR_POP_PK).bind Value.asBytes)

def barrierUpdateDigestForFsDevChain : Except MsphfError Bytes32 :=
  match header.get? HDR_BARRIER_UPDATE with
  | none => pure .zero
  | some (.bytes rawBytes) => pure (codec.hL "barrier/update/digest" (.bytes rawBytes))
  | some _ => .error (.invalidInput "barrier_update must be bytes")

def insertFs (inputs : FsJoinInputs) (fsDevCommit : Bytes32) : HeaderMap :=
  (((header.insert HDR_FS_EC (.ofNat inputs.fsEc)).insert
    HDR_FS_EPOCH_COMMIT (.bytes inputs.fsEpochCommit.val)).insert
    HDR_FS_DEV_PREV_COMMIT (.bytes inputs.fsDevPrevCommit.val)).insert
    HDR_FS_DEV_COMMIT (.bytes fsDevCommit.val)

def parseMhHead : Value → Except MsphfError Bytes32
  | .bytes bytes => ofOption (.invalidInput "mh_heads entry wrong length") (toBytes32 bytes)
  | _ => .error (.invalidInput "mh_heads entry not bytes")

def parseMhHeads : Value → Except MsphfError (List Bytes32)
  | .array entries => do
    ensure (entries ≠ []) (.invalidInput "mh_heads empty")
    let heads ← Except.mapList parseMhHead entries
    ensure (heads.IsChain (· < ·)) (.invalidInput "mh_heads must be sorted and unique")
    pure heads
  | _ => .error (.invalidInput "mh_heads must be array")

def parseMergeMetadata : Except MsphfError (Option (List Bytes32) × Option String) :=
  match header.get? HDR_MH_HEADS with
  | none => pure (none, none)
  | some value => do
    let heads ← parseMhHeads value
    match header.get? 102 with
    | none => pure (some heads, none)
    | some (.text note) => pure (some heads, some note)
    | some _ => .error (.invalidInput "mh_note must be text")

end Fields

structure PreparedJoin where
  header : HeaderMap
  binding : DeviceBinding
  fsDevCommit : Bytes32
  fsPolicyVersion : Nat
  retiredHeads : Option (List Bytes32)
  mhNote : Option String

def prepareHeader (codec : AnchorCodec) (hash : FsHashes) (parts : AnchorInstanceParts)
    (params : OrchestrationParams) (header : HeaderMap) : Except MsphfError PreparedJoin := do
  let fsPolicyVersion ← parseFsPolicyVersion params.fsPolicyVersion
  let header ← completeTsweAlg codec header
  let header ← completeMerkleSuite header
  let header ← completeCrsId codec params header
  let header ← completeParamsId params header
  let header := ((insertRoots header parts).insert HDR_FS_POLICY_VERSION
    (.ofNat fsPolicyVersion)).insert HDR_FS_EPOCH_BASE_TS (.ofNat params.fsEpochBaseTs)
  let header ← completeBarrierVersion params header
  let devicePk ← devicePublicKey params header
  let barrierVersion ← parseBarrierVersion (header.get? HDR_BARRIER_VERSION)
  let barrierUpdateDigest ← barrierUpdateDigestForFsDevChain codec header
  let fsDevCommit := hash.computeFsDevCommitV2 devicePk params.fsJoin.fsEc
    params.fsJoin.fsDevPrevCommit barrierVersion barrierUpdateDigest
  let header := insertFs header params.fsJoin fsDevCommit
  let (retiredHeads, mhNote) ← parseMergeMetadata header
  pure ⟨header, ⟨devicePk, barrierVersion, barrierUpdateDigest⟩, fsDevCommit, fsPolicyVersion,
    retiredHeads, mhNote⟩

structure SeededHeader where
  header : HeaderMap
  anchorSeedCtx : Bytes
  seedCtxHash : Bytes32
  weEpochId : Bytes32

def seedHeader (codec : AnchorCodec) (parts : AnchorInstanceParts) (header : HeaderMap) :
    SeededHeader :=
  let anchorSeedCtx := codec.buildAnchorSeedCtx header
  let seedCtxHash := codec.computeSeedCtxHash anchorSeedCtx
  ⟨header.insert HDR_SEED_CTX_HASH (.bytes seedCtxHash.val), anchorSeedCtx, seedCtxHash,
    codec.deriveWeEpochId parts.gid parts.parentRoot seedCtxHash⟩

structure FsRound extends SeededHeader where
  artifacts : FsJoinArtifacts
  state : ForwardSecrecyState

section Rounds
variable (codec : AnchorCodec) (hash : FsHashes) (parts : AnchorInstanceParts)
  (binding : DeviceBinding) (original : ForwardSecrecyState)

def fsRound (now : Nat) (header : HeaderMap) (weid : Bytes32) : FsRound :=
  let prepared := original.prepareJoin hash binding weid now
  ⟨seedHeader codec parts (insertFs header prepared.1.inputs prepared.1.fsDevCommit), prepared.1,
    prepared.2⟩

def fsRounds (clock : Nat → Nat) : Nat → HeaderMap → Bytes32 → FsRound
  | 0, header, weid => fsRound codec hash parts binding original (clock 0) header weid
  | n + 1, header, weid =>
    let round := fsRound codec hash parts binding original (clock (n + 1)) header weid
    if round.weEpochId = weid then round
    else fsRounds clock n round.header round.weEpochId

end Rounds

def FS_ROUNDS : Nat := 4

abbrev KGenM := EStateM MsphfError (Option ForwardSecrecyState)

structure SettledEpoch where
  seeded : SeededHeader
  fsInputs : FsJoinInputs
  fsDevCommit : Bytes32
  fsEpochSecret : Option Bytes32
  fsTau : Option Bytes32

def settleEpoch (codec : AnchorCodec) (hash : FsHashes) (parts : AnchorInstanceParts)
    (params : OrchestrationParams) (clock : Nat → Nat) (prepared : PreparedJoin) :
    KGenM SettledEpoch := do
  let seeded := seedHeader codec parts prepared.header
  match ← get with
  | some original => do
    let round := fsRounds codec hash parts prepared.binding original clock (FS_ROUNDS - 1)
      seeded.header seeded.weEpochId
    set (some { round.state with fsDevCommit := round.artifacts.fsDevCommit })
    pure ⟨round.toSeededHeader, round.artifacts.inputs, round.artifacts.fsDevCommit,
      some round.artifacts.epochSk, some round.artifacts.tauE⟩
  | none =>
    -- The header already carries the inputs the caller provides.
    pure ⟨seedHeader codec parts seeded.header, params.fsJoin, prepared.fsDevCommit, none, none⟩

end Joiner

end CityG
