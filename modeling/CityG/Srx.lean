import CityG.Witness

/-!
# Anchored non-membership arrays of an SRX payload

Each entry of `join_nonmem_parent` is a non-membership witness whose bounds are
also opened by membership witnesses taken from a shared pool.
-/

namespace CityG

open Except (ensure ofOption)

structure AnchoredNonMembership where
  witness : RawNonMembershipWitness
  leftRef : Option Nat
  rightRef : Option Nat
  deriving DecidableEq, Repr

def anchorReferenceError : MsphfError → AcceptanceError
  | .witness .projEvalFail => .freeze freezeSrxAnchorMismatch
  | .witness _ => .freeze freezeHashMemMalformed
  | err => .ofMsphf err

def validateAnchorReference (H : MerkleHash) (anchorMemPool : List RawMembershipWitness)
    (expectedRoot : Bytes32) (bound : Option Bytes) (index : Option Nat) :
    Except AcceptanceError (Option ValidatedMembership) :=
  match bound, index with
  | none, none => pure none
  | none, some _ => .error (.freeze freezeSrxAnchorMissing)
  | some _, none => .error (.freeze freezeSrxAnchorMissing)
  | some bound, some idx => do
    ensure (bound.length = 32) (.freeze freezeSrxAnchorMismatch)
    let witness ← ofOption (.freeze freezeSrxAnchorOob) anchorMemPool[idx]?
    ensure (witness.leafId.length = 32 ∧ witness.root.length = 32)
      (.freeze freezeHashMemMalformed)
    ensure (witness.path.length ≤ 64) (.freeze freezeHashPathOversize)
    let validated ← (validateMembershipAgainst H witness expectedRoot).mapError
      anchorReferenceError
    ensure (validated.root = expectedRoot ∧ validated.leafId.val = bound)
      (.freeze freezeSrxAnchorMismatch)
    pure (some validated)

def verifyAnchoredBound (anchor : Option ValidatedMembership) (bound : Option Bytes32) :
    Except AcceptanceError Unit :=
  ensure (anchor.map (·.leafId) = bound) (.freeze freezeNonmemAdjIncoherent)

def verifyAnchoredAdjacency (entry : ValidatedNonMembership)
    (leftAnchor rightAnchor : Option ValidatedMembership) : Except AcceptanceError Unit := do
  verifyAnchoredBound leftAnchor entry.left
  verifyAnchoredBound rightAnchor entry.right
  match leftAnchor, rightAnchor with
  | some _, some _ =>
    -- No direction is looked at here, unlike in the one-bound cases below.
    match entry.left, entry.right with
    | some left, some right =>
      ensure (left < entry.query ∧ entry.query < right) (.freeze freezeNonmemAdjIncoherent)
    | _, _ => .error (.freeze freezeNonmemAdjIncoherent)
  | none, some rightMem => do
    ensure (∀ e ∈ rightMem.path, e.1 = 0) (.freeze freezeNonmemAdjIncoherent)
    ensure (entry.path = rightMem.path) (.freeze freezeNonmemAdjIncoherent)
  | some leftMem, none => do
    ensure (∀ e ∈ leftMem.path, e.1 = 1) (.freeze freezeNonmemAdjIncoherent)
    ensure (entry.path = leftMem.path) (.freeze freezeNonmemAdjIncoherent)
  | none, none => pure ()

def nonmemArrayError (conflict : FreezeError) : MsphfError → AcceptanceError
  | .witness .projEvalFail => .freeze conflict
  | err => .ofMsphf err

def validateAnchoredNonmemFrom (H : MerkleHash) (anchorMemPool : List RawMembershipWitness)
    (expectedRoot : Bytes32) (conflict : FreezeError) (seen : List Bytes32) :
    List AnchoredNonMembership → Except AcceptanceError (List ValidatedNonMembership)
  | [] => pure []
  | anchor :: rest => do
    let entry ← (validateNonmembershipAgainst H anchor.witness expectedRoot).mapError
      (nonmemArrayError conflict)
    ensure (entry.query ∉ seen) (.freeze freezeSrxInvalid)
    let leftAnchor ← validateAnchorReference H anchorMemPool expectedRoot
      anchor.witness.left anchor.leftRef
    let rightAnchor ← validateAnchorReference H anchorMemPool expectedRoot
      anchor.witness.right anchor.rightRef
    verifyAnchoredAdjacency entry leftAnchor rightAnchor
    let validated ← validateAnchoredNonmemFrom H anchorMemPool expectedRoot conflict
      (entry.query :: seen) rest
    pure (entry :: validated)

def validateAnchoredNonmemArray (H : MerkleHash) (witnesses : List AnchoredNonMembership)
    (anchorMemPool : List RawMembershipWitness) (expectedRoot : Bytes32)
    (conflict : FreezeError) : Except AcceptanceError (List ValidatedNonMembership) :=
  validateAnchoredNonmemFrom H anchorMemPool expectedRoot conflict [] witnesses

def intervalContains (witness : ValidatedNonMembership) (leaf : Bytes32) : Bool :=
  match witness.left, witness.right with
  | none, none => witness.root.isZero
  | left, right => left.all (· < leaf) && right.all (leaf < ·)

def ensureNonmemCoverage (leaves : List Bytes32) (witnesses : List ValidatedNonMembership) :
    Except AcceptanceError Unit :=
  ensure (∀ leaf ∈ leaves, ∃ w ∈ witnesses, intervalContains w leaf = true)
    (.freeze freezeSrxInvalid)

end CityG
