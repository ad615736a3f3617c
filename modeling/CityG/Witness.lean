import CityG.Merkle

/-!
# Membership and non-membership witnesses

The raw witnesses carry byte strings of any length; validation fixes their
shape and recomputes the root they claim.
-/

namespace CityG

def maxMerkleDepth : Nat := 64

structure RawPathEntry where
  sibling : Bytes
  dir : Byte
  deriving DecidableEq, Repr

structure RawMembershipWitness where
  leafId : Bytes
  root : Bytes
  path : List RawPathEntry
  deriving DecidableEq, Repr

structure RawNonMembershipWitness where
  query : Bytes
  root : Bytes
  left : Option Bytes
  right : Option Bytes
  path : List RawPathEntry
  leftBelow : List RawPathEntry := []
  rightBelow : List RawPathEntry := []
  above : List RawPathEntry := []
  nmint : Option Bytes := none
  lcaLeftHeight : Option Byte := none
  lcaRightHeight : Option Byte := none
  deriving DecidableEq, Repr

structure ValidatedMembership where
  leafId : Bytes32
  root : Bytes32
  path : List (Byte × Bytes32)
  deriving DecidableEq, Repr

structure ValidatedNonMembership where
  query : Bytes32
  root : Bytes32
  left : Option Bytes32
  right : Option Bytes32
  path : List (Byte × Bytes32)
  deriving DecidableEq, Repr

open Except (ensure ofOption)

def toArray32 (bytes : Bytes) : Except MsphfError Bytes32 :=
  if h : bytes.length = 32 then .ok ⟨bytes, h⟩ else .error (.witness .cborMalformed)

@[simp] theorem toArray32_eq_ok {bytes : Bytes} {b : Bytes32} :
    toArray32 bytes = .ok b ↔ bytes = b.val := by
  obtain ⟨l, hl⟩ := b
  unfold toArray32
  split
  · simp
  · simp only [reduceCtorEq, false_iff]
    rintro rfl
    contradiction

@[simp] theorem toArray32_val (b : Bytes32) : toArray32 b.val = .ok b :=
  toArray32_eq_ok.mpr rfl

def validatePathEntry (entry : RawPathEntry) : Except MsphfError (Byte × Bytes32) := do
  ensure (entry.dir ≤ 1) (.witness .projEvalFail)
  let sib ← toArray32 entry.sibling
  pure (entry.dir, sib)

def validatePath (path : List RawPathEntry) : Except MsphfError (List (Byte × Bytes32)) := do
  ensure (path.length ≤ maxMerkleDepth) (.witness .pathOversize)
  Except.mapList validatePathEntry path

def validateMembershipAgainst (H : MerkleHash) (raw : RawMembershipWitness)
    (expectedRoot : Bytes32) : Except MsphfError ValidatedMembership := do
  let leaf ← toArray32 raw.leafId
  let witnessRoot ← toArray32 raw.root
  ensure (witnessRoot = expectedRoot) (.witness .projEvalFail)
  let path ← validatePath raw.path
  ensure (applyPath H leaf path = expectedRoot) (.witness .projEvalFail)
  pure ⟨leaf, expectedRoot, path⟩

def validateMembershipWitness (H : MerkleHash) (raw : RawMembershipWitness)
    (expectedRoot : Bytes32) : Except MsphfError ValidatedMembership :=
  validateMembershipAgainst H raw expectedRoot

def foldStep (H : MerkleHash) (acc : Bytes32) (entry : RawPathEntry) :
    Except MsphfError Bytes32 := do
  let sibling ← toArray32 entry.sibling
  if entry.dir = 0 then pure (H.hashNode acc sibling)
  else if entry.dir = 1 then pure (H.hashNode sibling acc)
  else .error (.witness .cborMalformed)

/-- The directions are folded as they come: nothing here says on which side of
its subtree the bound lies. -/
def foldExtendedAnchor (H : MerkleHash) : Bytes32 → List RawPathEntry → Except MsphfError Bytes32
  | acc, [] => .ok acc
  | acc, entry :: rest => do
    let acc ← foldStep H acc entry
    foldExtendedAnchor H acc rest

def validateBound (inOrder : Bytes → Bool) : Option Bytes → Except MsphfError (Option Bytes32)
  | some bound => do
    ensure (bound.length = 32) (.witness .cborMalformed)
    ensure (inOrder bound = true) (.witness .nonCanonical)
    some <$> toArray32 bound
  | none => pure none

def validateLeftBound (raw : RawNonMembershipWitness) : Except MsphfError (Option Bytes32) :=
  validateBound (fun left => left < raw.query) raw.left

def validateRightBound (raw : RawNonMembershipWitness) : Except MsphfError (Option Bytes32) :=
  validateBound (fun right => raw.query < right) raw.right

def validateTwoBounds (H : MerkleHash) (raw : RawNonMembershipWitness) (expectedRoot : Bytes32)
    (left right : Bytes32) : Except MsphfError ValidatedNonMembership := do
  ensure (raw.path = []) (.witness .nonCanonical)
  let lcaLeftHeight ← ofOption (.witness .nonCanonical) raw.lcaLeftHeight
  let lcaRightHeight ← ofOption (.witness .nonCanonical) raw.lcaRightHeight
  ensure (lcaLeftHeight.val = raw.leftBelow.length + 1 ∧
    lcaRightHeight.val = raw.rightBelow.length + 1) (.witness .nonCanonical)
  let nmintBytes ← ofOption (.witness .nonCanonical) raw.nmint
  let nmint ← toArray32 nmintBytes
  let leftAnchor ← foldExtendedAnchor H left raw.leftBelow
  let rightAnchor ← foldExtendedAnchor H right raw.rightBelow
  let acc ← foldExtendedAnchor H (H.hashNode leftAnchor rightAnchor) raw.above
  ensure (raw.leftBelow.length + raw.rightBelow.length + raw.above.length ≤ 64)
    (.witness .pathOversize)
  ensure (acc = expectedRoot) (.witness .nonCanonical)
  ensure (nmint = H.hashIntervalBinding left left right right lcaLeftHeight lcaRightHeight)
    (.witness .nonCanonical)
  let query ← toArray32 raw.query
  pure ⟨query, expectedRoot, some left, some right, []⟩

def validateNonmembershipAgainst (H : MerkleHash) (raw : RawNonMembershipWitness)
    (expectedRoot : Bytes32) : Except MsphfError ValidatedNonMembership := do
  ensure (raw.query.length = 32) (.witness .cborMalformed)
  let root ← toArray32 raw.root
  ensure (root = expectedRoot) (.witness .projEvalFail)
  let left ← validateLeftBound raw
  let right ← validateRightBound raw
  match left, right with
  | some l, some r => do
    ensure (l < r) (.witness .nonCanonical)
    let _ ← validatePath raw.path
    validateTwoBounds H raw expectedRoot l r
  | none, none => do
    let path ← validatePath raw.path
    ensure (path = []) (.witness .nonCanonical)
    ensure (expectedRoot.isZero = true) (.witness .nonCanonical)
    let query ← toArray32 raw.query
    pure ⟨query, expectedRoot, none, none, path⟩
  | some l, none => do
    let path ← validatePath raw.path
    ensure (applyPath H l path = expectedRoot) (.witness .nonCanonical)
    let query ← toArray32 raw.query
    pure ⟨query, expectedRoot, some l, none, path⟩
  | none, some r => do
    let path ← validatePath raw.path
    ensure (applyPath H r path = expectedRoot) (.witness .nonCanonical)
    let query ← toArray32 raw.query
    pure ⟨query, expectedRoot, none, some r, path⟩

def RawPathEntry.Reads (e : RawPathEntry) (step : Bool × Bytes32) : Prop :=
  e.sibling = step.2.val ∧ e.dir = if step.1 then 1 else 0

theorem foldStep_eq_ok {H : MerkleHash} {acc out : Bytes32} {entry : RawPathEntry} :
    foldStep H acc entry = .ok out ↔
      ∃ step, entry.Reads step ∧ HashTree.foldPath H.hashNode acc [step] = out := by
  simp only [foldStep, Except.bind_eq_ok, toArray32_eq_ok]
  constructor
  · rintro ⟨sib, hsib, h⟩
    split at h
    · next hdir => exact ⟨(false, sib), ⟨hsib, hdir⟩, by simpa [HashTree.foldPath] using h⟩
    · split at h
      · next hdir => exact ⟨(true, sib), ⟨hsib, hdir⟩, by simpa [HashTree.foldPath] using h⟩
      · cases h
  · rintro ⟨⟨right, sib⟩, ⟨hsib, hdir⟩, h⟩
    refine ⟨sib, hsib, ?_⟩
    cases right <;> simpa [hdir, HashTree.foldPath] using h

theorem foldExtendedAnchor_eq_ok {H : MerkleHash} {acc out : Bytes32}
    {path : List RawPathEntry} :
    foldExtendedAnchor H acc path = .ok out ↔
      ∃ steps, List.Forall₂ RawPathEntry.Reads path steps ∧
        HashTree.foldPath H.hashNode acc steps = out := by
  induction path generalizing acc with
  | nil => simp [foldExtendedAnchor, HashTree.foldPath]
  | cons entry rest ih =>
    simp only [foldExtendedAnchor, Except.bind_eq_ok, foldStep_eq_ok, ih]
    constructor
    · rintro ⟨_, ⟨step, hstep, rfl⟩, steps, hsteps, h⟩
      refine ⟨step :: steps, .cons hstep hsteps, ?_⟩
      rw [← h, ← HashTree.foldPath_append]
      rfl
    · rintro ⟨_, hsteps, h⟩
      cases hsteps with
      | @cons _ step _ steps hstep hsteps =>
        refine ⟨_, ⟨step, hstep, rfl⟩, steps, hsteps, ?_⟩
        rw [← h, ← HashTree.foldPath_append]
        rfl

/-- What an accepted non-membership witness shows, one case per pair of bounds. -/
inductive NonMembershipShown (H : MerkleHash) (raw : RawNonMembershipWitness) (root : Bytes32) :
    ValidatedNonMembership → Prop
  | twoBounds {q l r lb rb ab} : raw.left = some l.val → raw.right = some r.val → l < r →
      List.Forall₂ RawPathEntry.Reads raw.leftBelow lb →
      List.Forall₂ RawPathEntry.Reads raw.rightBelow rb →
      HashTree.foldPath H.hashNode (H.hashNode (HashTree.foldPath H.hashNode l lb)
        (HashTree.foldPath H.hashNode r rb)) ab = root →
      NonMembershipShown H raw root ⟨q, root, some l, some r, []⟩
  | sentinel {q} : raw.left = none → raw.right = none → root = Bytes32.zero →
      NonMembershipShown H raw root ⟨q, root, none, none, []⟩
  | leftBound {q l path} : raw.left = some l.val → raw.right = none →
      applyPath H l path = root → NonMembershipShown H raw root ⟨q, root, some l, none, path⟩
  | rightBound {q r path} : raw.left = none → raw.right = some r.val →
      applyPath H r path = root → NonMembershipShown H raw root ⟨q, root, none, some r, path⟩

theorem validateBound_eq_ok {inOrder : Bytes → Bool} {raw : Option Bytes}
    {bound : Option Bytes32} (h : validateBound inOrder raw = .ok bound) :
    raw = bound.map Subtype.val := by
  cases raw with
  | none =>
    simp only [validateBound, Except.pure_eq_ok] at h
    rw [← h]
    rfl
  | some b =>
    simp only [validateBound, Except.bind_eq_ok, Except.map_eq_ok, toArray32_eq_ok] at h
    obtain ⟨_, _, _, _, b, rfl, rfl⟩ := h
    rfl

theorem validateNonmembershipAgainst_shown {H : MerkleHash} {raw : RawNonMembershipWitness}
    {root : Bytes32} {entry : ValidatedNonMembership}
    (h : validateNonmembershipAgainst H raw root = .ok entry) :
    NonMembershipShown H raw root entry := by
  simp only [validateNonmembershipAgainst, Except.bind_eq_ok] at h
  obtain ⟨_, _, _, _, _, _, left, hleft, right, hright, h⟩ := h
  replace hleft := validateBound_eq_ok hleft
  replace hright := validateBound_eq_ok hright
  match left, right with
  | some l, some r =>
    simp only [validateTwoBounds, Except.bind_eq_ok, Except.ensure_eq_ok, Except.pure_eq_ok,
      foldExtendedAnchor_eq_ok] at h
    obtain ⟨_, hlt, _, _, _, _, _, _, _, _, _, _, _, _, _, _, _, ⟨lb, hlb, rfl⟩, _,
      ⟨rb, hrb, rfl⟩, _, ⟨ab, _, rfl⟩, _, _, _, hroot, _, _, q, _, rfl⟩ := h
    exact .twoBounds hleft hright hlt hlb hrb hroot
  | none, none =>
    simp only [Except.bind_eq_ok, Except.ensure_eq_ok, Except.pure_eq_ok] at h
    obtain ⟨_, _, _, rfl, _, hroot, q, _, rfl⟩ := h
    exact .sentinel hleft hright ((Bytes32.isZero_iff root).mp hroot)
  | some l, none =>
    simp only [Except.bind_eq_ok, Except.ensure_eq_ok, Except.pure_eq_ok] at h
    obtain ⟨path, _, _, hroot, q, _, rfl⟩ := h
    exact .leftBound hleft hright hroot
  | none, some r =>
    simp only [Except.bind_eq_ok, Except.ensure_eq_ok, Except.pure_eq_ok] at h
    obtain ⟨path, _, _, hroot, q, _, rfl⟩ := h
    exact .rightBound hleft hright hroot

end CityG
