import CityG.Bytes
import CityG.Errors
import CityG.Lib.Except
import CityG.Lib.OrdMap

/-!
# CBOR values, headers and hashing

Anchor headers map integer keys to CBOR values. The labelled hash `h_l` is a
parameter over the value it serialises; serialising a value does not fail.
-/

namespace CityG

/-- `ciborium::Value`; a float is kept by its bits. -/
inductive Value where
  | integer (value : Int)
  | bytes (value : Bytes)
  | float (bits : Nat)
  | text (value : String)
  | bool (value : Bool)
  | null
  | tag (number : Nat) (value : Value)
  | array (items : List Value)
  | map (entries : List (Value × Value))

namespace Value

def asBytes : Value → Option Bytes
  | bytes b => some b
  | _ => none

def asText : Value → Option String
  | text s => some s
  | _ => none

def asBool : Value → Option Bool
  | bool b => some b
  | _ => none

def isMap : Value → Bool
  | map _ => true
  | _ => false

def asU64 : Value → Option Nat
  | integer (.ofNat n) => if n < 18446744073709551616 then some n else none
  | _ => none

def ofNat (n : Nat) : Value := integer n

def ofFields (fields : List (String × Value)) : Value :=
  map (fields.map fun f => (text f.1, f.2))

end Value

abbrev HeaderMap := OrdMap Nat Value

abbrev HashL := String → Value → Bytes32

def toBytes32 (b : Bytes) : Option Bytes32 :=
  if h : b.length = 32 then some ⟨b, h⟩ else none

@[simp] theorem toBytes32_val (b : Bytes32) : toBytes32 b.val = some b := by
  simp [toBytes32, b.property]

def HDR_TSWE_ALG : Nat := 90
def HDR_SEED_CTX_HASH : Nat := 91
def HDR_MERKLE_SUITE : Nat := 92
def HDR_RHO_COMMIT : Nat := 93
def HDR_SEED_BUNDLE_COMMIT : Nat := 94
def HDR_VRF_PROOF : Nat := 95
def HDR_HP_BYTES : Nat := 97
def HDR_CRS_ID : Nat := 98
def HDR_HP_COMMIT : Nat := 99
def HDR_KBROAD_ALG : Nat := 104
def HDR_KBROAD_PUB : Nat := 105
def HDR_PARAMS_ID : Nat := 106
def HDR_POP_ALG : Nat := 107
def HDR_POP_PK : Nat := 108
def HDR_POP_SIG : Nat := 109
def HDR_PARENT_ROOT : Nat := 110
def HDR_JOIN_DELTA_ROOT : Nat := 111
def HDR_REVOKED_SINCE_ROOT : Nat := 112
def HDR_REVOKED_ROOT : Nat := 113
def HDR_VRF_ID : Nat := 116
def HDR_PROOF_MODE : Nat := 119
def HDR_SRX_MODE : Nat := 120
def HDR_SRX_COMMIT : Nat := 121
def HDR_SRX_PAYLOAD : Nat := 122
def HDR_SRX_HINT_COUNTS : Nat := 123
def HDR_SRX_HINT_SIZES : Nat := 124
def HDR_PROOFS_COMMIT : Nat := 125
def HDR_MH_HEADS : Nat := 130
def HDR_ROLLUP_PIVOT_WEID : Nat := 131
def HDR_ROLLUP_PROVENANCE_COMMIT : Nat := 132
def HDR_ROLLUP_EPOCH_REPLAY : Nat := 133
def HDR_ROLLUP_VCK_COMMIT : Nat := 134
def HDR_MERGE_DELEGATION_SIG : Nat := 135
def HDR_KBROAD_REPLAY : Nat := 136
def HDR_ROLLUP_FS_MODE : Nat := 138
def HDR_FS_POLICY_VERSION : Nat := 139
def HDR_POLICY_VERSION : Nat := 140
def HDR_FS_EC : Nat := 141
def HDR_FS_EPOCH_COMMIT : Nat := 142
def HDR_FS_EPOCH_BASE_TS : Nat := 143
def HDR_FS_EVOLUTION_BOUNDARY : Nat := 144
def HDR_FS_PURGE_TIMES : Nat := 145
def HDR_FS_CAPSS : Nat := 146
def HDR_FS_CHECKPOINT_EC : Nat := 148
def HDR_FS_DEV_PREV_COMMIT : Nat := 152
def HDR_FS_DEV_COMMIT : Nat := 153
def HDR_VRF_MASK_A : Nat := 154
def HDR_VRF_MASK_B : Nat := 155
def HDR_VRF_PUBLIC_KEY : Nat := 156
def HDR_SRX_ROOT_SW : Nat := 160
def HDR_SRX_SMALLWOOD : Nat := 161
def HDR_BOOTSTRAP_ALG : Nat := 170
def HDR_BOOTSTRAP_SIG : Nat := 171
def HDR_BOOTSTRAP_PK : Nat := 172
def HDR_BARRIER_UPDATE : Nat := 175
def HDR_BARRIER_VERSION : Nat := 176
def HDR_BARRIER_LEAF_PK : Nat := 177
def HDR_BARRIER_UPDATE_REASON : Nat := 178
def HDR_JOIN_FINALIZE_AUTH : Nat := 179
def HDR_BARRIER_HISTORY_COMMITMENT : Nat := 180
def HDR_BARRIER_FULL_VERIFICATION_RECEIPT : Nat := 181
def HDR_BARRIER_GLOBAL_HISTORY_ATTESTATION : Nat := 182
def HDR_BARRIER_FULL_VERIFICATION_WITNESS : Nat := 183

def computeRevocationRootsHash (hL : HashL) (revokedSinceRoot revokedRoot : Bytes32) : Bytes32 :=
  hL "barrier/roots" (.array [.bytes revokedSinceRoot.val, .bytes revokedRoot.val])

section Header
variable (header : HeaderMap) (key : Nat)

def headerRequiredBytes (label : String) : Except CityGError Bytes :=
  match header.get? key with
  | some (.bytes b) => .ok b
  | some _ => .error (.invalidInput "pivot field wrong type")
  | none => .error (.invalidInput label)

def headerOptionalBytes : Except CityGError (Option Bytes) :=
  match header.get? key with
  | some (.bytes b) => .ok (some b)
  | some .null | none => .ok none
  | some _ => .error (.invalidInput "pivot field wrong type")

def headerBytes32FromSlice (b : Bytes) : Except CityGError Bytes32 :=
  Except.ofOption (.invalidInput "pivot field wrong length") (toBytes32 b)

def headerBytes32 (label : String) : Except CityGError Bytes32 := do
  headerBytes32FromSlice (← headerRequiredBytes header key label)

def headerBytes32Opt : Except CityGError (Option Bytes32) := do
  match ← headerOptionalBytes header key with
  | some b => some <$> headerBytes32FromSlice b
  | none => pure none

end Header

end CityG
