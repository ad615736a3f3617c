import CityG.Accept.Extract
import CityG.Roster

/-!
# Epoch bundles

What a client submits, without its local secrets and the ciphertext that the
server only passes on.
-/

namespace CityG

open Except (ensure ofOption)

structure AnchorBundle where
  gid : Bytes
  cat : Bytes
  tsweSaltHash : Bytes
  parentRoot : Bytes32
  joinDeltaRoot : Bytes32
  revokedSincePrevRoot : Bytes32
  revokedRoot : Bytes32
  poxRCommit : Option Bytes32
  anchorHdrCtx : Bytes
  deriving DecidableEq

structure ClientEpochBundle where
  anchor : AnchorBundle
  headerMap : HeaderMap
  hpProof : Bytes
  hpBinding : HpBindingInputs
  witness : Option Bytes
  /-- A witness bundle, by its encoding. -/
  capssWitness : Bytes
  weEpochId : Bytes32

/-- The keys that make a header without SRX payload a merge for the roster. -/
def MERGE_HEADER_KEYS : List Nat :=
  [HDR_MH_HEADS, HDR_ROLLUP_PIVOT_WEID, HDR_ROLLUP_PROVENANCE_COMMIT, HDR_ROLLUP_EPOCH_REPLAY,
    HDR_ROLLUP_VCK_COMMIT, HDR_MERGE_DELEGATION_SIG, HDR_KBROAD_REPLAY, HDR_ROLLUP_FS_MODE,
    HDR_FS_EVOLUTION_BOUNDARY, HDR_FS_PURGE_TIMES, HDR_FS_CHECKPOINT_EC]

def isMergeHeader (header : HeaderMap) : Bool := ∃ key ∈ MERGE_HEADER_KEYS, key ∈ header

def parseLeafEntry : Value → Except CityGError Bytes32
  | .bytes b => ofOption (.invalidInput "leaf entry must be 32 bytes") (toBytes32 b)
  | _ => .error (.invalidInput "leaf entry must be 32 bytes")

def parseLeafArray : Value → Except CityGError (List Bytes32)
  | .array entries => Except.mapList parseLeafEntry entries
  | _ => .error (.invalidInput "expected leaf array")

def parseSrxCompleteMembership : Value → Except CityGError MembershipDelta
  | .array items => do
    ensure (items.length = 9) (.invalidInput "srx complete payload arity")
    let joined ← parseLeafArray (items.getD 4 .null)
    let revoked ← parseLeafArray (items.getD 6 .null)
    pure ⟨joined, revoked⟩
  | _ => .error (.invalidInput "srx payload must be array")

def joinPopAlg (header : HeaderMap) : Except CityGError String :=
  match header.get? HDR_POP_ALG with
  | some (.text text) => do
    ensure (text ≠ "") (.invalidInput "pop_alg must be text")
    pure text
  | some _ => .error (.invalidInput "pop_alg must be text")
  | none => .error (.invalidInput "missing pop_alg")

def joinPopPk (header : HeaderMap) : Except CityGError Bytes :=
  match header.get? HDR_POP_PK with
  | some (.bytes pk) => do
    ensure (pk ≠ []) (.invalidInput "pop_pk must be bytes")
    pure pk
  | some _ => .error (.invalidInput "pop_pk must be bytes")
  | none => .error (.invalidInput "missing pop_pk")

namespace ClientEpochBundle
variable (bundle : ClientEpochBundle)

def gid : Bytes := bundle.anchor.gid

/-- Without a payload a merge changes nobody and a join adds the leaf of its
device in this group. -/
def membershipDelta (codec : AnchorCodec) : Except CityGError MembershipDelta :=
  match bundle.headerMap.get? HDR_SRX_PAYLOAD with
  | some (.bytes payload) => do
    let value ← ofOption (.invalidInput "unable to decode srx payload") (codec.fromReader payload)
    parseSrxCompleteMembership value
  | some _ => .error (.invalidInput "srx_payload must be bytes")
  | none =>
    if isMergeHeader bundle.headerMap then pure {}
    else do
      let popAlg ← joinPopAlg bundle.headerMap
      let popPk ← joinPopPk bundle.headerMap
      pure ⟨[codec.computeLeafId .perGroup bundle.gid popAlg popPk], []⟩

def anchorInstance : AnchorInstance where
  gid := bundle.anchor.gid
  cat := bundle.anchor.cat
  tsweSaltHash := bundle.anchor.tsweSaltHash
  parentRoot := bundle.anchor.parentRoot.val
  joinDeltaRoot := bundle.anchor.joinDeltaRoot.val
  revokedSincePrevRoot := bundle.anchor.revokedSincePrevRoot.val
  revokedRoot := bundle.anchor.revokedRoot.val
  poxRCommit := bundle.anchor.poxRCommit.map (·.val)
  weEpochId := bundle.weEpochId
  anchorHdrCtx := bundle.anchor.anchorHdrCtx
  msphfHpCommit := some bundle.hpBinding.hpCommit

def hasUpdate : Bool := HDR_BARRIER_UPDATE ∈ bundle.headerMap

end ClientEpochBundle

end CityG
