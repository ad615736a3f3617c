import CityG.Bytes
import CityG.Errors
import CityG.Lib.Except
import CityG.Lib.HeapTree
import Mathlib.Data.List.Sort

/-!
# Resolution and expected pairs of the barrier key tree

The tree has `n_max` leaves and is stored as one array of `2 * n_max - 1`
entries, leaf slot `s` at node `n_max - 1 + s`. An empty entry is a blank node.
-/

namespace CityG

open HeapTree (Above IsLCA parent)

abbrev PkEntries := List Bytes

def isBlank (pk : PkEntries) (node : Nat) : Bool := (pk.getD node []).isEmpty

def leafNode (nMax slot : Nat) : Nat := nMax - 1 + slot

def directPathNodes (node : Nat) : List Nat := HeapTree.path node

def siblingNode (node : Nat) : Option Nat := HeapTree.sibling node

/-- The highest non-blank nodes below a node. The index grows with every call,
so the number of entries bounds the depth. -/
def resolutionFrom (pk : PkEntries) (leafBase : Nat) : Nat → Nat → List Nat
  | 0, _ => []
  | fuel + 1, node =>
    if pk.length ≤ node then []
    else if isBlank pk node = false then [node]
    else if leafBase ≤ node then []
    else
      resolutionFrom pk leafBase fuel (HeapTree.leftChild node) ++
        resolutionFrom pk leafBase fuel (HeapTree.rightChild node)

def collectResolutionNodes (pk : PkEntries) (node leafBase : Nat) : List Nat :=
  resolutionFrom pk leafBase pk.length node

def pairLE (a b : Nat × Nat) : Prop := a.1 < b.1 ∨ a.1 = b.1 ∧ a.2 ≤ b.2

instance : DecidableRel pairLE := fun _ _ => inferInstanceAs (Decidable (_ ∨ _))

def expectedPairsFrom (pk : PkEntries) (leafBase : Nat) :
    List Nat → Except CityGError (List (Nat × Nat))
  | child :: source :: rest => do
    let sibling ← Except.ofOption (.invalidInput "barrier_update malformed") (siblingNode child)
    let targets := (collectResolutionNodes pk sibling leafBase).insertionSort (· ≤ ·)
    let pairs ← expectedPairsFrom pk leafBase (source :: rest)
    pure (targets.map (fun target => (source, target)) ++ pairs)
  | _ => pure []

def collectExpectedPairs (pk : PkEntries) (pathNodes : List Nat) (nMax : Nat) :
    Except CityGError (List (Nat × Nat)) := do
  let pairs ← expectedPairsFrom pk (nMax - 1) pathNodes
  pure (pairs.insertionSort pairLE)

end CityG
