import CityG.Accept.Stages
import CityG.Witness

/-!
# Canonical witnesses

A witness shows membership of a leaf in one of the two roots of the instance,
and may carry non-membership in the revoked root and a proof of possession.
-/

namespace CityG

open Except (ensure ofOption)

inductive WitnessMode where
  | A
  | B
  deriving DecidableEq, Repr

structure RawPopWitness where
  publicKey : Bytes
  signature : Bytes
  deriving DecidableEq, Repr

inductive CanonicalWitness where
  | A (witness : RawMembershipWitness) (pop : Option RawPopWitness)
  | B (witness : RawMembershipWitness) (nonmem : Option RawNonMembershipWitness)
      (pop : Option RawPopWitness)
  deriving DecidableEq, Repr

structure ValidatedPop where
  publicKey : Bytes
  signature : Bytes
  message : Option Bytes
  deriving DecidableEq, Repr

structure ValidatedWitness where
  mode : WitnessMode
  membership : ValidatedMembership
  nonmembership : Option ValidatedNonMembership
  pop : Option ValidatedPop
  deriving DecidableEq, Repr

inductive MlDsa65VerifyError where
  | verificationFailed
  | invalidPublicKeyLength
  | invalidSignatureLength
  | invalidPublicKey
  | invalidSignature
  deriving DecidableEq, Repr

def mapCitygPopVerifyError : MlDsa65VerifyError → MsphfError
  | .verificationFailed => .witness .projEvalFail
  | .invalidPublicKeyLength | .invalidSignatureLength | .invalidPublicKey | .invalidSignature =>
    .witness .cborMalformed

def AnchorInstance.toCborBytes (codec : AnchorCodec) (anchor : AnchorInstance) : Bytes :=
  codec.toCbor anchor.asCborTuple

def AnchorCodec.popMsg (codec : AnchorCodec) (anchor : AnchorInstance) (leafId : Bytes32) : Bytes32 :=
  codec.hL "msphf/pop/msg" (Value.ofFields [("xk", .bytes (anchor.toCborBytes codec)),
    ("leaf_id", .bytes leafId.val), ("epoch", .bytes anchor.weEpochId.val)])

structure WitnessSuite where
  merkle : MerkleHash
  /-- Public key, message and signature. -/
  verifyMlDsa65 : Bytes → Bytes → Bytes → Except MlDsa65VerifyError Unit
  /-- `ciborium::de::from_reader` at canonical witnesses. -/
  decodeWitness : Bytes → Option CanonicalWitness

/-- A present part is validated, a missing one stays missing. -/
def validateOptional {α β : Type} (validate : α → Except MsphfError β) :
    Option α → Except MsphfError (Option β)
  | some raw => some <$> validate raw
  | none => pure none

section
variable (suite : WitnessSuite) (codec : AnchorCodec) (anchor : AnchorInstance)

def validatePop (membership : ValidatedMembership) (raw : RawPopWitness) :
    Except MsphfError ValidatedPop := do
  ensure (raw.publicKey.length = ML_DSA_65_PUBLIC_KEY_BYTES) (.witness .cborMalformed)
  ensure (raw.signature.length = ML_DSA_65_SIGNATURE_BYTES) (.witness .cborMalformed)
  let msg := codec.popMsg anchor membership.leafId
  (suite.verifyMlDsa65 raw.publicKey msg.val raw.signature).mapError mapCitygPopVerifyError
  ensure (codec.hL "leaf-id" (Value.ofFields [("public_key", .bytes raw.publicKey)]) =
    membership.leafId) (.witness .leafBindMismatch)
  pure ⟨raw.publicKey, raw.signature, some msg.val⟩

namespace CanonicalWitness

def validateAgainst : CanonicalWitness → Except MsphfError ValidatedWitness
  | .A witness pop => do
    let expected ← ofOption (.witness .cborMalformed) (toBytes32 anchor.parentRoot)
    let membership ← validateMembershipAgainst suite.merkle witness expected
    let pop ← validateOptional (validatePop suite codec anchor membership) pop
    pure ⟨.A, membership, none, pop⟩
  | .B witness nonmem pop => do
    let expected ← ofOption (.witness .cborMalformed) (toBytes32 anchor.joinDeltaRoot)
    let membership ← validateMembershipAgainst suite.merkle witness expected
    let nonmembership ← validateOptional (fun raw => do
      let revoked ← ofOption (.witness .cborMalformed) (toBytes32 anchor.revokedRoot)
      validateNonmembershipAgainst suite.merkle raw revoked) nonmem
    let pop ← validateOptional (validatePop suite codec anchor membership) pop
    pure ⟨.B, membership, nonmembership, pop⟩

end CanonicalWitness

def parseValidatedWitness (witness : Bytes) : Except MsphfError (Option ValidatedWitness) :=
  if witness = [] then pure none
  else do
    let canonical ← ofOption (.witness .cborMalformed) (suite.decodeWitness witness)
    some <$> canonical.validateAgainst suite codec anchor

end

section
variable {suite : WitnessSuite} {codec : AnchorCodec} {anchor : AnchorInstance} {witness : Bytes}

theorem parseValidatedWitness_of_valid {canonical : CanonicalWitness} {validated : ValidatedWitness}
    (hne : witness ≠ []) (hdecode : suite.decodeWitness witness = some canonical)
    (hvalid : canonical.validateAgainst suite codec anchor = .ok validated) :
    parseValidatedWitness suite codec anchor witness = .ok (some validated) := by
  simp [parseValidatedWitness, hne, hdecode, hvalid]

theorem parseValidatedWitness_valid {parsed : Option ValidatedWitness} (hne : witness ≠ [])
    (h : parseValidatedWitness suite codec anchor witness = .ok parsed) :
    ∃ canonical validated, suite.decodeWitness witness = some canonical ∧
      canonical.validateAgainst suite codec anchor = .ok validated := by
  simp only [parseValidatedWitness, if_neg hne, Except.bind_eq_ok, Except.ofOption_eq_ok,
    Except.map_eq_ok] at h
  obtain ⟨canonical, hdecode, validated, hvalid, _⟩ := h
  exact ⟨canonical, validated, hdecode, hvalid⟩

end

def AnchorInstance.branchRoot (anchor : AnchorInstance) : WitnessMode → Bytes
  | .A => anchor.parentRoot
  | .B => anchor.joinDeltaRoot

theorem validateMembershipAgainst_root {H : MerkleHash} {raw : RawMembershipWitness}
    {expected : Bytes32} {m : ValidatedMembership}
    (h : validateMembershipAgainst H raw expected = .ok m) : m.root = expected := by
  simp only [validateMembershipAgainst, Except.bind_eq_ok, Except.pure_eq_ok] at h
  obtain ⟨_, _, _, _, _, _, _, _, _, _, rfl⟩ := h
  rfl

theorem CanonicalWitness.validateAgainst_root {suite : WitnessSuite} {codec : AnchorCodec}
    {anchor : AnchorInstance} {witness : CanonicalWitness} {validated : ValidatedWitness}
    (h : witness.validateAgainst suite codec anchor = .ok validated) :
    toBytes32 (anchor.branchRoot validated.mode) = some validated.membership.root := by
  cases witness with
  | A witness pop =>
    simp only [validateAgainst, Except.bind_eq_ok, Except.ofOption_eq_ok, Except.pure_eq_ok] at h
    obtain ⟨expected, hroot, membership, hmember, _, _, rfl⟩ := h
    rw [validateMembershipAgainst_root hmember]
    exact hroot
  | B witness nonmem pop =>
    simp only [validateAgainst, Except.bind_eq_ok, Except.ofOption_eq_ok, Except.pure_eq_ok] at h
    obtain ⟨expected, hroot, membership, hmember, _, _, _, _, rfl⟩ := h
    rw [validateMembershipAgainst_root hmember]
    exact hroot

end CityG
