import CityG.Lib.HeapTree
import CityG.Lib.OrdMap

/-!
# Digests of a heap-indexed tree

The digest of a leaf is a function of its entry, the digest of an inner node one
of its entry and the digests of its children. Caches hold digests of some nodes.
A digest depends on the entries below its node only, so that after a change the
digests of the other nodes may stay in the cache.
-/

namespace HeapTree

variable {E H : Type*}

structure Digester (E H : Type*) where
  leafBase : Nat
  leaf : Nat → E → H
  inner : Nat → E → H → H → H

inductive Digest (d : Digester E H) (entries : List E) : Nat → H → Prop
  | leaf {v e} : d.leafBase ≤ v → entries[v]? = some e → Digest d entries v (d.leaf v e)
  | inner {v e left right} : v < d.leafBase → entries[v]? = some e →
      Digest d entries (leftChild v) left → Digest d entries (rightChild v) right →
      Digest d entries v (d.inner v e left right)

variable {d : Digester E H} {entries entries' : List E} {v : Nat} {h h' : H}

theorem Digest.lt_length (hd : Digest d entries v h) : v < entries.length := by
  cases hd with
  | leaf _ he => exact (List.getElem?_eq_some_iff.mp he).1
  | inner _ he _ _ => exact (List.getElem?_eq_some_iff.mp he).1

theorem Digest.unique (hd : Digest d entries v h) (hd' : Digest d entries v h') : h = h' := by
  induction hd generalizing h' with
  | leaf hv he =>
    cases hd' with
    | leaf _ he' => rw [Option.some.inj (he.symm.trans he')]
    | inner hv' _ _ _ => omega
  | inner hv he _ _ ihl ihr =>
    cases hd' with
    | leaf hv' _ => omega
    | inner _ he' hl' hr' =>
      rw [Option.some.inj (he.symm.trans he'), ihl hl', ihr hr']

theorem exists_digest (hfull : entries.length = 2 * d.leafBase + 1) {v : Nat}
    (hv : v < entries.length) : ∃ h, Digest d entries v h := by
  have hentry : ∀ v < entries.length, ∃ e, entries[v]? = some e :=
    fun v hv => ⟨entries[v], List.getElem?_eq_getElem hv⟩
  by_cases hleaf : d.leafBase ≤ v
  · obtain ⟨e, he⟩ := hentry v hv
    exact ⟨_, .leaf hleaf he⟩
  · obtain ⟨e, he⟩ := hentry v hv
    have hchildren : leftChild v < entries.length ∧ rightChild v < entries.length := by
      simp only [leftChild, rightChild]
      omega
    obtain ⟨left, hl⟩ := exists_digest hfull hchildren.1
    obtain ⟨right, hr⟩ := exists_digest hfull hchildren.2
    exact ⟨_, .inner (by omega) he hl hr⟩
termination_by entries.length - v
decreasing_by
  all_goals
    simp only [leftChild, rightChild] at *
    omega

def SameBelow (entries entries' : List E) (v : Nat) : Prop :=
  ∀ x, Above v x → entries[x]? = entries'[x]?

theorem SameBelow.symm (hs : SameBelow entries entries' v) : SameBelow entries' entries v :=
  fun x hx => (hs x hx).symm

theorem above_leftChild (v : Nat) : Above v (leftChild v) :=
  .up (Nat.succ_pos _) (by rw [parent_leftChild]; exact .refl v)

theorem above_rightChild (v : Nat) : Above v (rightChild v) :=
  .up (Nat.succ_pos _) (by rw [parent_rightChild]; exact .refl v)

theorem SameBelow.leftChild (hs : SameBelow entries entries' v) :
    SameBelow entries entries' (leftChild v) :=
  fun x hx => hs x ((above_leftChild v).trans hx)

theorem SameBelow.rightChild (hs : SameBelow entries entries' v) :
    SameBelow entries entries' (rightChild v) :=
  fun x hx => hs x ((above_rightChild v).trans hx)

theorem Digest.congr (hd : Digest d entries v h) (hs : SameBelow entries entries' v) :
    Digest d entries' v h := by
  induction hd with
  | leaf hv he => exact .leaf hv ((hs _ (.refl _)).symm.trans he)
  | inner hv he _ _ ihl ihr =>
    exact .inner hv ((hs _ (.refl _)).symm.trans he) (ihl hs.leftChild) (ihr hs.rightChild)

def CorrectCache (d : Digester E H) (entries : List E) (cache : OrdMap Nat H) : Prop :=
  ∀ v h, cache.get? v = some h → Digest d entries v h

def CompleteCache (d : Digester E H) (entries : List E) (cache : OrdMap Nat H) : Prop :=
  ∀ v < entries.length, ∃ h, cache.get? v = some h ∧ Digest d entries v h

theorem correctCache_empty : CorrectCache d entries .empty := fun _ _ hget => by simp at hget

theorem CorrectCache.insert {cache : OrdMap Nat H} (hc : CorrectCache d entries cache)
    (hd : Digest d entries v h) : CorrectCache d entries (cache.insert v h) := by
  intro u k hget
  rw [OrdMap.get?_insert] at hget
  split at hget
  next heq =>
    obtain rfl := Option.some.inj hget
    exact heq ▸ hd
  next => exact hc u k hget

theorem CompleteCache.extend {cache after : OrdMap Nat H} (hc : CompleteCache d entries cache)
    (hafter : CorrectCache d entries' after) (hlen : entries.length = entries'.length)
    (hsame : ∀ v < entries'.length, after.get? v = none → SameBelow entries entries' v) :
    CompleteCache d entries' (cache.extend after) := by
  intro v hv
  simp only [OrdMap.get?_extend]
  cases hget : after.get? v with
  | some h => exact ⟨h, rfl, hafter v h hget⟩
  | none =>
    obtain ⟨h, hcache, hd⟩ := hc v (by omega)
    exact ⟨h, by simpa using hcache, hd.congr (hsame v hv hget)⟩

end HeapTree
