import CityG.Bytes
import CityG.Errors
import CityG.Lib.Except
import CityG.Lib.HashTree

/-!
# Canonical Merkle sets

The RPO-256 hashes are parameters; what the results need of them is said where
it is needed.
-/

namespace CityG

structure MerkleHash where
  hashNode : Bytes32 → Bytes32 → Bytes32
  hashIntervalBinding : Bytes32 → Bytes32 → Bytes32 → Bytes32 → Byte → Byte → Bytes32

/-- The set root: empty sets commit to zero, a single leaf to itself, larger
sets must be strictly increasing and are reduced level by level. -/
def canonicalSetRoot (H : MerkleHash) : List Bytes32 → Except MsphfError Bytes32
  | [] => .ok Bytes32.zero
  | [leaf] => .ok leaf
  | leaves => do
    Except.ensure (leaves.IsChain (· < ·)) (.invalidInput "set must be strictly increasing")
    -- The loop ends with one digest (`HashTree.reduceLevels_length`).
    pure ((HashTree.reduceLevels H.hashNode leaves.length leaves).headD Bytes32.zero)

def applyPath (H : MerkleHash) (acc : Bytes32) (path : List (Byte × Bytes32)) : Bytes32 :=
  path.foldl (fun acc e => if e.1 = 0 then H.hashNode acc e.2 else H.hashNode e.2 acc) acc

def pathStep (e : Byte × Bytes32) : Bool × Bytes32 := (e.1 ≠ 0, e.2)

theorem applyPath_eq_foldPath (H : MerkleHash) (acc : Bytes32) (path : List (Byte × Bytes32)) :
    applyPath H acc path = HashTree.foldPath H.hashNode acc (path.map pathStep) := by
  induction path generalizing acc with
  | nil => rfl
  | cons e path ih =>
    simp only [applyPath, List.foldl_cons, List.map_cons] at ih ⊢
    rw [ih]
    by_cases he : e.1 = 0 <;> simp [HashTree.foldPath, pathStep, he]

theorem canonicalSetRoot_tree (H : MerkleHash) {leaves : List Bytes32} {root : Bytes32}
    (hne : leaves ≠ []) (hroot : canonicalSetRoot H leaves = .ok root) :
    ∃ t : HashTree Bytes32, HashTree.ofLeaves leaves = some t ∧ t.leaves = leaves ∧
      t.digest H.hashNode = root := by
  match leaves, hne with
  | [leaf], _ => exact ⟨.leaf leaf, rfl, rfl, by simpa [canonicalSetRoot] using hroot⟩
  | a :: b :: rest, _ =>
    obtain ⟨t, htree, hleaves, hred⟩ :=
      HashTree.reduceLevels_tree H.hashNode (a :: b :: rest) (by simp)
    refine ⟨t, htree, hleaves, ?_⟩
    simp only [canonicalSetRoot, hred, List.headD_cons, Except.bind_eq_ok,
      Except.ensure_eq_ok, Except.pure_eq_ok] at hroot
    obtain ⟨_, _, h⟩ := hroot
    exact h

theorem canonicalSetRoot_of_sorted (H : MerkleHash) {leaves : List Bytes32}
    (h : leaves.Pairwise (· < ·)) : ∃ root, canonicalSetRoot H leaves = .ok root := by
  match leaves, h with
  | [], _ => exact ⟨_, rfl⟩
  | [leaf], _ => exact ⟨_, rfl⟩
  | a :: b :: rest, h =>
    have hchain : (a :: b :: rest).IsChain (· < ·) := h.isChain
    exact ⟨_, by simp only [canonicalSetRoot, Except.ensure, if_pos hchain]; rfl⟩

theorem canonicalSetRoot_node (H : MerkleHash) {leaves : List Bytes32} {root : Bytes32}
    (hlen : 2 ≤ leaves.length) (hroot : canonicalSetRoot H leaves = .ok root) :
    ∃ x y, H.hashNode x y = root := by
  have hne : leaves ≠ [] := by rintro rfl; simp at hlen
  obtain ⟨t, _, hleaves, hdigest⟩ := canonicalSetRoot_tree H hne hroot
  cases t with
  | leaf d => simp [← hleaves] at hlen
  | node l r => exact ⟨_, _, hdigest⟩

end CityG
