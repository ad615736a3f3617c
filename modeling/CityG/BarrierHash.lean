import CityG.BarrierTree
import CityG.Cbor
import CityG.Roster

/-!
# Hashes of the barrier key tree

The tree hash is computed from scratch, or from a changed set of nodes with the
hashes of the others taken from caches. Node indices grow downwards, so the
number of entries bounds the depth of the recursions.
-/

namespace CityG

open HeapTree (leftChild rightChild)

abbrev BarrierHashCache := OrdMap Nat Bytes32

section
variable (hL : HashL) (nMax : Nat)

def barrierTreeLeafHash (node : Nat) (pk : Bytes) : Bytes32 :=
  hL "barrier/tree/leaf-hash" (Value.ofFields
    [("n_max", .ofNat nMax), ("node_index", .ofNat node), ("pk", .bytes pk)])

def barrierTreeNodeHash (node : Nat) (pk : Bytes) (leftHash rightHash : Bytes32) : Bytes32 :=
  hL "barrier/tree/node-hash" (Value.ofFields
    [("n_max", .ofNat nMax), ("node_index", .ofNat node), ("pk", .bytes pk),
      ("left_hash", .bytes leftHash.val), ("right_hash", .bytes rightHash.val)])

def expectedTreeLen (nMax : Nat) : Except CityGError Nat := do
  Except.ensure (nMax ≠ 0 ∧ 2 * nMax ≤ U64_MAX) (.invalidInput "barrier tree size overflow")
  pure (2 * nMax - 1)

def computeBarrierTreeHashRecursive (pk : PkEntries) : Nat → Nat → Except CityGError Bytes32
  | 0, _ => .error (.invalidInput "barrier node index out of range")
  | fuel + 1, node => do
    let entry ← Except.ofOption (.invalidInput "barrier node index out of range") pk[node]?
    if nMax - 1 ≤ node then pure (barrierTreeLeafHash hL nMax node entry)
    else
      let leftHash ← computeBarrierTreeHashRecursive pk fuel (leftChild node)
      let rightHash ← computeBarrierTreeHashRecursive pk fuel (rightChild node)
      pure (barrierTreeNodeHash hL nMax node entry leftHash rightHash)

def computeBarrierTreeHash (pk : PkEntries) : Except CityGError Bytes32 := do
  let expectedLen ← expectedTreeLen nMax
  Except.ensure (pk.length = expectedLen) (.invalidInput "barrier tree size mismatch")
  computeBarrierTreeHashRecursive hL nMax pk pk.length 0

/-- A cached hash is trusted; others are computed and added to the cache. -/
def computeBarrierSubtreeHashCached (pk : PkEntries) (baseCache : Option BarrierHashCache) :
    Nat → Nat → BarrierHashCache → Except CityGError (Bytes32 × BarrierHashCache)
  | 0, _, _ => .error (.invalidInput "barrier node index out of range")
  | fuel + 1, node, cache =>
    match cache.get? node with
    | some existing => pure (existing, cache)
    | none =>
      match baseCache.bind (·.get? node) with
      | some existing => pure (existing, cache)
      | none => do
        let entry ← Except.ofOption (.invalidInput "barrier node index out of range") pk[node]?
        if nMax - 1 ≤ node then
          let hash := barrierTreeLeafHash hL nMax node entry
          pure (hash, cache.insert node hash)
        else
          let (leftHash, cache) ←
            computeBarrierSubtreeHashCached pk baseCache fuel (leftChild node) cache
          let (rightHash, cache) ←
            computeBarrierSubtreeHashCached pk baseCache fuel (rightChild node) cache
          let hash := barrierTreeNodeHash hL nMax node entry leftHash rightHash
          pure (hash, cache.insert node hash)

/-- The hash after a change: nodes above a change are hashed anew into the
after-cache, the others come from the caches of the tree before. -/
def computeBarrierSubtreeHashAfterChanges (pk : PkEntries) (impacted : OrdSet Nat)
    (baseBeforeCache : Option BarrierHashCache) :
    Nat → Nat → BarrierHashCache → BarrierHashCache →
      Except CityGError (Bytes32 × BarrierHashCache × BarrierHashCache)
  | 0, _, _, _ => .error (.invalidInput "barrier node index out of range")
  | fuel + 1, node, before, after =>
    match after.get? node with
    | some existing => pure (existing, before, after)
    | none =>
      if node ∉ impacted then do
        let (hash, before) ←
          computeBarrierSubtreeHashCached hL nMax pk baseBeforeCache (fuel + 1) node before
        pure (hash, before, after)
      else do
        let entry ← Except.ofOption (.invalidInput "barrier node index out of range") pk[node]?
        if nMax - 1 ≤ node then
          let hash := barrierTreeLeafHash hL nMax node entry
          pure (hash, before, after.insert node hash)
        else
          let (leftHash, before, after) ← computeBarrierSubtreeHashAfterChanges pk impacted
            baseBeforeCache fuel (leftChild node) before after
          let (rightHash, before, after) ← computeBarrierSubtreeHashAfterChanges pk impacted
            baseBeforeCache fuel (rightChild node) before after
          let hash := barrierTreeNodeHash hL nMax node entry leftHash rightHash
          pure (hash, before, after.insert node hash)

/-- Root hash, after-cache and the grown before-cache. -/
def computeBarrierTreeHashWithChanges (updated : PkEntries) (changed : OrdSet Nat)
    (baseBeforeCache : Option BarrierHashCache) (before : BarrierHashCache) :
    Except CityGError (Bytes32 × BarrierHashCache × BarrierHashCache) := do
  let expectedLen ← expectedTreeLen nMax
  Except.ensure (updated.length = expectedLen) (.invalidInput "barrier tree size mismatch")
  if changed.isEmpty then
    let hash ← computeBarrierTreeHash hL nMax updated
    pure (hash, .empty, before)
  else
    Except.ensure (∀ node ∈ changed.keys, node < expectedLen)
      (.invalidInput "barrier node index out of range")
    let impacted := OrdSet.ofList (changed.keys.flatMap directPathNodes)
    let (root, before, after) ← computeBarrierSubtreeHashAfterChanges hL nMax updated impacted
      baseBeforeCache updated.length 0 before .empty
    pure (root, after, before)

def computeBarrierPkhash (hL : HashL) (ek : Bytes) : Bytes32 :=
  hL "barrier/pk-hash" (.bytes ek)

end

def buildAllBlankPkEntries (nMax : Nat) : Except CityGError PkEntries := do
  let expectedLen ← expectedTreeLen nMax
  pure (List.replicate expectedLen [])

end CityG
