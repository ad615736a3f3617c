import CityG.Joiner.Witness

/-!
# The projective hash over module lattices

Key generation hashes the artifact of a branch directly; extraction reads the
artifact back and corrects by the distance between the root a witness was
validated against and the root of the branch. The arithmetic of the polynomial
ring is a parameter.
-/

namespace CityG

open Except (ensure ofOption)

namespace Bytes32

def xor (a b : Bytes32) : Bytes32 :=
  ⟨List.zipWith (· ^^^ ·) a.val b.val, by simp [a.property, b.property]⟩

theorem byte_xor_xor (a b : Byte) : (a ^^^ b) ^^^ b = a := by
  have hlt : a.val ^^^ b.val < 256 := Nat.xor_lt_two_pow (n := 8) a.isLt b.isLt
  apply Fin.ext
  simp only [Fin.xor_val, Nat.mod_eq_of_lt hlt, Nat.xor_assoc, Nat.xor_self, Nat.xor_zero]
  exact Nat.mod_eq_of_lt a.isLt

theorem zipWith_xor_xor {a b : Bytes} (h : a.length = b.length) :
    List.zipWith (· ^^^ ·) (List.zipWith (· ^^^ ·) a b) b = a := by
  induction a generalizing b with
  | nil => rfl
  | cons x xs ih =>
    cases b with
    | nil => simp at h
    | cons y ys =>
      simp only [List.zipWith_cons_cons, byte_xor_xor, List.cons.injEq, true_and]
      exact ih (Nat.succ.inj h)

@[simp] theorem xor_xor (a b : Bytes32) : (a.xor b).xor b = a :=
  Subtype.ext (zipWith_xor_xor (a.property.trans b.property.symm))

end Bytes32

namespace Rlwe

abbrev N : Nat := 256
def Q : Nat := 3329
abbrev K : Nat := 3
def POLY_LE_BYTES : Nat := N * 2
def POLYVEC_LE_BYTES : Nat := K * POLY_LE_BYTES
def LIN_DESC_LABEL : String := "root32-identity"

local instance : NeZero K := ⟨by decide⟩

abbrev Poly := Fin N → Int
abbrev PolyVec := Fin K → Poly

structure Ring where
  expandA : Bytes32 → Fin K → PolyVec
  toNtt : Poly → Poly
  fromNtt : Poly → Poly
  pointwiseMul : Poly → Poly → Poly
  add : Poly → Poly → Poly
  /-- Noise from a seed and a label. -/
  samplePolyvec : Bytes32 → String → PolyVec

structure LinDesc where
  label : String
  dim : Nat
  modulus : Nat
  deriving DecidableEq

structure HpFlags where
  polyEncoding : String
  coefEndian : String
  nttOrder : String
  deriving DecidableEq

structure HpBranch where
  k : Nat
  n : Nat
  q : Nat
  aSeed : Bytes
  bVec : Bytes
  uVec : Bytes
  vVec : Bytes
  saltRlwe : Bytes
  linDesc : LinDesc
  ctxTag : Bytes
  flags : HpFlags
  deriving DecidableEq

def HpBranch.validate (hp : HpBranch) : Except MsphfError Unit := do
  ensure (hp.k = K) (.invalidInput "hp_k mismatch")
  ensure (hp.n = N) (.invalidInput "hp_n mismatch")
  ensure (hp.q = Q) (.invalidInput "hp_q mismatch")
  ensure (hp.aSeed.length = 32) (.invalidInput "A_seed length")
  ensure (hp.saltRlwe.length = 32) (.invalidInput "salt length")
  ensure (hp.ctxTag.length = 32) (.invalidInput "ctx_tag length")
  ensure (hp.bVec.length = POLYVEC_LE_BYTES ∧ hp.uVec.length = POLYVEC_LE_BYTES ∧
    hp.vVec.length = POLYVEC_LE_BYTES) (.invalidInput "polyvec byte length")
  ensure (hp.linDesc = ⟨LIN_DESC_LABEL, 32, 3329⟩) (.invalidInput "lin_desc mismatch")
  ensure (hp.flags = ⟨"ntt-le16", "le16", "bitrev"⟩) (.invalidInput "hp flags mismatch")

structure Suite where
  xof32 : String → Bytes → Bytes32
  ring : Ring
  encodeBranch : HpBranch → Bytes
  decodeBranch : Bytes → Option HpBranch

structure Suite.Decodes (suite : Suite) : Prop where
  ne_nil : ∀ hp, suite.encodeBranch hp ≠ []
  decode : ∀ hp, hp.validate = .ok () → suite.decodeBranch (suite.encodeBranch hp) = some hp

def le16 (value : Nat) : Bytes := [Fin.ofNat 256 value, Fin.ofNat 256 (value / 256)]

def polyvecToLeBytes (pv : PolyVec) : Bytes :=
  (List.finRange K).flatMap fun i => (List.finRange N).flatMap fun j => le16 (pv i j % Q).toNat

theorem length_polyvecToLeBytes (pv : PolyVec) :
    (polyvecToLeBytes pv).length = POLYVEC_LE_BYTES := by
  simp only [polyvecToLeBytes, le16, List.length_flatMap, List.length_cons, List.length_nil,
    List.map_const', List.length_finRange, List.sum_replicate_nat]
  rfl

section
variable (suite : Suite) (hL : HashL) (crsId paramsId : String)

def matVecMul (ring : Ring) (matrix : Fin K → PolyVec) (vec error : PolyVec) : PolyVec := fun i =>
  let row := ring.add (ring.add (ring.pointwiseMul (matrix i 0) (vec 0))
    (ring.pointwiseMul (matrix i 1) (vec 1))) (ring.pointwiseMul (matrix i 2) (vec 2))
  ring.toNtt (ring.add (ring.fromNtt row) (error i))

def componentWiseMul (ring : Ring) (b r error : PolyVec) : PolyVec := fun i =>
  ring.toNtt (ring.add (ring.fromNtt (ring.pointwiseMul (b i) (r i))) (error i))

def computeCtxTag (xkHash : Bytes32) : Bytes32 :=
  hL "hps/ctx" (Value.ofFields [("xk_hash", .bytes xkHash.val), ("crs", .text crsId),
    ("params", .text paramsId)])

def buildBranchArtifact (seed xkHash : Bytes32) : HpBranch :=
  let ring := suite.ring
  let aSeed := suite.xof32 "hps/A-seed" seed.val
  let matrix := fun i j => ring.toNtt (ring.expandA aSeed i j)
  let s := fun i => ring.toNtt (ring.samplePolyvec seed "hps/s" i)
  let r := fun i => ring.toNtt (ring.samplePolyvec seed "hps/r" i)
  let b := matVecMul ring matrix s (ring.samplePolyvec seed "hps/eB")
  let u := matVecMul ring matrix r (ring.samplePolyvec seed "hps/e1")
  let v := componentWiseMul ring b r (ring.samplePolyvec seed "hps/e2")
  { k := K
    n := N
    q := Q
    aSeed := aSeed.val
    bVec := polyvecToLeBytes b
    uVec := polyvecToLeBytes u
    vVec := polyvecToLeBytes v
    saltRlwe := (suite.xof32 "hps/salt" seed.val).val
    linDesc := ⟨LIN_DESC_LABEL, 32, 3329⟩
    ctxTag := (computeCtxTag hL crsId paramsId xkHash).val
    flags := ⟨"ntt-le16", "le16", "bitrev"⟩ }

theorem buildBranchArtifact_valid (seed xkHash : Bytes32) :
    (buildBranchArtifact suite hL crsId paramsId seed xkHash).validate = .ok () := by
  have h32 (b : Bytes32) : b.val.length = 32 := b.property
  simp only [HpBranch.validate, buildBranchArtifact, length_polyvecToLeBytes, h32,
    Except.bind_eq_ok, Except.ensure_eq_ok, and_self, exists_const]

def branchLabel : WitnessMode → String
  | .A => "A"
  | .B => "B"

def hBranchBytes (label : String) (branch : WitnessMode) (args : List Bytes) : Bytes32 :=
  hL label (Value.ofFields [("branch", .text (branchLabel branch)), ("crs", .text crsId),
    ("params", .text paramsId), ("args", .array (args.map .bytes))])

def baseHash (branch : WitnessMode) (hp : HpBranch) : Bytes32 :=
  hBranchBytes hL crsId paramsId "msphf/hash" branch [hp.ctxTag, hp.uVec, hp.vVec]

def mapRootToField (root : Bytes32) : List Nat := root.val.map fun byte => byte.val % Q

def subFieldVectors (u g : List Nat) : List Nat :=
  List.zipWith (fun a b => (((a : Int) - b) % Q).toNat) u g

def linmaskFromDelta (delta : List Nat) : Bytes32 :=
  hL "hps/linmask" (Value.ofFields [("desc", .text LIN_DESC_LABEL),
    ("delta", .bytes (delta.flatMap le16))])

def zeroDelta : List Nat := List.replicate 32 0

def linmaskZero : Bytes32 := linmaskFromDelta hL zeroDelta

def computeDelta (branch : WitnessMode) (anchor : AnchorInstance) :
    Option ValidatedWitness → Except MsphfError (List Nat)
  | some w => do
    ensure (w.mode = branch) (.invalidInput "witness mode/branch mismatch")
    let root ← ofOption (.invalidInput "root length") (toBytes32 (anchor.branchRoot branch))
    pure (subFieldVectors (mapRootToField w.membership.root) (mapRootToField root))
  | none => pure zeroDelta

theorem subFieldVectors_self (v : List Nat) : subFieldVectors v v = List.replicate v.length 0 := by
  induction v with
  | nil => rfl
  | cons a v ih =>
    rw [List.length_cons, List.replicate_succ, ← ih]
    simp [subFieldVectors]

theorem computeDelta_of_root {branch : WitnessMode} {anchor : AnchorInstance}
    {witness : Option ValidatedWitness}
    (h : ∀ w ∈ witness, w.mode = branch ∧
      toBytes32 (anchor.branchRoot w.mode) = some w.membership.root) :
    computeDelta branch anchor witness = .ok zeroDelta := by
  cases witness with
  | none => rfl
  | some w =>
    obtain ⟨hmode, hroot⟩ := h w rfl
    rw [hmode] at hroot
    simp only [computeDelta, hmode, hroot, Except.bind_eq_ok, Except.ensure_eq_ok,
      Except.ofOption_eq_ok, Except.pure_eq_ok]
    refine ⟨(), trivial, w.membership.root, rfl, ?_⟩
    rw [subFieldVectors_self]
    simp [mapRootToField, w.membership.root.property, zeroDelta]

structure CapssBranchWitness where
  branchArtifact : Bytes
  ctxTag : Bytes
  deriving DecidableEq

structure FullHashResult where
  yFull : Bytes32
  hpBytes : Bytes
  capssWitness : CapssBranchWitness
  deriving DecidableEq

def hashFull (seed : Bytes32) (branch : WitnessMode) (xkHash : Bytes32) : FullHashResult :=
  let artifact := buildBranchArtifact suite hL crsId paramsId seed xkHash
  let hpBytes := suite.encodeBranch artifact
  ⟨(baseHash hL crsId paramsId branch artifact).xor (linmaskZero hL), hpBytes,
    ⟨hpBytes, artifact.ctxTag⟩⟩

def decode (hpBytes : Bytes) : Except MsphfError HpBranch := do
  ensure (hpBytes ≠ []) (.invalidInput "hp bytes not initialised")
  ofOption (.serialization "hp branch") (suite.decodeBranch hpBytes)

def hashProj (hpBytes : Bytes) (branch : WitnessMode) (anchor : AnchorInstance)
    (witness : Option ValidatedWitness) : Except MsphfError Bytes32 := do
  let hp ← decode suite hpBytes
  hp.validate
  let delta ← computeDelta branch anchor witness
  pure ((baseHash hL crsId paramsId branch hp).xor (linmaskFromDelta hL delta))

theorem hashProj_hashFull {suite : Suite} (hdec : suite.Decodes) (seed xkHash : Bytes32)
    {branch : WitnessMode} {anchor : AnchorInstance} {witness : Option ValidatedWitness}
    (hroot : ∀ w ∈ witness, w.mode = branch ∧
      toBytes32 (anchor.branchRoot w.mode) = some w.membership.root) :
    hashProj suite hL crsId paramsId (hashFull suite hL crsId paramsId seed branch xkHash).hpBytes
        branch anchor witness =
      .ok (hashFull suite hL crsId paramsId seed branch xkHash).yFull := by
  have hread : decode suite (suite.encodeBranch
      (buildBranchArtifact suite hL crsId paramsId seed xkHash)) =
      .ok (buildBranchArtifact suite hL crsId paramsId seed xkHash) := by
    simp [decode, hdec.ne_nil, hdec.decode _ (buildBranchArtifact_valid ..)]
  simp only [hashFull, hashProj, hread, Except.bind_eq_ok, Except.pure_eq_ok]
  refine ⟨_, rfl, (), buildBranchArtifact_valid .., zeroDelta, computeDelta_of_root hroot, rfl⟩

end

end Rlwe

end CityG
