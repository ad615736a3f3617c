import Mathlib.Data.List.Basic
import Mathlib.Tactic.Common

/-!
# Heap-indexed binary trees

Node 0 is the root, node `v` has the children `2v + 1` and `2v + 2`. `Above a x`
says that `a` is `x` or an ancestor of `x`.
-/

namespace HeapTree

def parent (v : Nat) : Nat := (v - 1) / 2

def leftChild (v : Nat) : Nat := 2 * v + 1

def rightChild (v : Nat) : Nat := 2 * v + 2

def sibling (v : Nat) : Option Nat :=
  if v = 0 then none else if v % 2 = 0 then some (v - 1) else some (v + 1)

@[simp] theorem parent_leftChild (v : Nat) : parent (leftChild v) = v := by
  simp only [parent, leftChild]
  omega

@[simp] theorem parent_rightChild (v : Nat) : parent (rightChild v) = v := by
  simp only [parent, rightChild]
  omega

variable {v s x b : Nat}

theorem parent_lt (h : 0 < v) : parent v < v := by
  simp only [parent]
  omega

theorem eq_child_of_pos (h : 0 < v) :
    v = leftChild (parent v) ∨ v = rightChild (parent v) := by
  simp only [parent, leftChild, rightChild]
  omega

theorem sibling_eq_some (h : sibling v = some s) :
    0 < v ∧ 0 < s ∧ s ≠ v ∧ parent s = parent v := by
  unfold sibling at h
  split_ifs at h with h0 heven
  · have hs := Option.some.inj h
    simp only [parent]
    omega
  · have hs := Option.some.inj h
    simp only [parent]
    omega

theorem exists_sibling (h : 0 < v) : ∃ s, sibling v = some s := by
  unfold sibling
  rw [if_neg (by omega)]
  split
  · exact ⟨_, rfl⟩
  · exact ⟨_, rfl⟩

theorem sibling_leftChild (v : Nat) : sibling (leftChild v) = some (rightChild v) := by
  have hpos : leftChild v ≠ 0 := Nat.succ_ne_zero _
  have hodd : leftChild v % 2 ≠ 0 := by
    simp only [leftChild]
    omega
  rw [sibling, if_neg hpos, if_neg hodd]
  rfl

inductive Above : Nat → Nat → Prop
  | refl (a) : Above a a
  | up {a x} : 0 < x → Above a (parent x) → Above a x

theorem Above.le {a : Nat} (h : Above a x) : a ≤ x := by
  induction h with
  | refl => exact Nat.le_refl _
  | up hx _ ih => exact Nat.le_trans ih (Nat.le_of_lt (parent_lt hx))

theorem Above.trans {a : Nat} (hab : Above a b) (hbx : Above b x) : Above a x := by
  induction hbx with
  | refl => exact hab
  | up hx _ ih => exact .up hx ih

theorem above_parent (h : 0 < v) : Above (parent v) v := .up h (.refl _)

theorem root_above (x : Nat) : Above 0 x := by
  induction x using Nat.strongRecOn with
  | ind x ih =>
    by_cases hx : x = 0
    · subst hx
      exact .refl 0
    · exact .up (by omega) (ih _ (parent_lt (by omega)))

theorem Above.comparable {a : Nat} (ha : Above a x) (hb : Above b x) :
    Above a b ∨ Above b a := by
  induction ha with
  | refl => exact .inr hb
  | up hx ha ih =>
    cases hb with
    | refl => exact .inl (.up hx ha)
    | up _ hb => exact ih hb

theorem Above.cases_child (h : Above v x) :
    v = x ∨ Above (leftChild v) x ∨ Above (rightChild v) x := by
  induction h with
  | refl => exact .inl rfl
  | @up x hx _ ih =>
    rcases ih with hv | hl | hr
    · subst hv
      rcases eq_child_of_pos hx with hc | hc
      · exact .inr (.inl (hc ▸ .refl _))
      · exact .inr (.inr (hc ▸ .refl _))
    · exact .inr (.inl (.up hx hl))
    · exact .inr (.inr (.up hx hr))

theorem Above.eq_of_parent_eq {a : Nat} (hb : 0 < b) (hpar : parent a = parent b) (h : Above b a) :
    b = a := by
  cases h with
  | refl => rfl
  | up _ h =>
    have hle := h.le
    have hlt := parent_lt hb
    omega

theorem sibling_disjoint (hs : sibling v = some s) (hv : Above v x) :
    ¬ Above s x := by
  intro hsx
  obtain ⟨hvpos, hspos, hne, hpar⟩ := sibling_eq_some hs
  rcases hv.comparable hsx with h | h
  · exact hne (h.eq_of_parent_eq hvpos hpar).symm
  · exact hne (h.eq_of_parent_eq hspos hpar.symm)

theorem above_sibling_of_not_above (hs : sibling v = some s) (hx : Above (parent v) x)
    (hne : parent v ≠ x) (hv : ¬ Above v x) : Above s x := by
  obtain ⟨hvpos, hspos, hsne, hpar⟩ := sibling_eq_some hs
  have hv' := eq_child_of_pos hvpos
  have hs' := eq_child_of_pos hspos
  rw [hpar] at hs'
  rcases hx.cases_child with h | h | h
  · exact absurd h hne
  · rcases hv' with hv' | hv'
    · exact absurd (hv' ▸ h) hv
    · rcases hs' with hs' | hs'
      · exact hs' ▸ h
      · exact absurd (hs'.trans hv'.symm) hsne
  · rcases hv' with hv' | hv'
    · rcases hs' with hs' | hs'
      · exact absurd (hs'.trans hv'.symm) hsne
      · exact hs' ▸ h
    · exact absurd (hv' ▸ h) hv

/-- The nodes from `v` up to the root, in that order. The index falls at every
step, so it bounds the number of steps. -/
def pathFrom : Nat → Nat → List Nat
  | 0, v => [v]
  | n + 1, v => if v = 0 then [v] else v :: pathFrom n (parent v)

def path (v : Nat) : List Nat := pathFrom v v

theorem pathFrom_fuel {n m : Nat} (hn : v ≤ n) (hm : v ≤ m) : pathFrom n v = pathFrom m v := by
  induction n generalizing m v with
  | zero =>
    obtain rfl : v = 0 := by omega
    cases m <;> simp [pathFrom]
  | succ n ih =>
    cases m with
    | zero =>
      obtain rfl : v = 0 := by omega
      simp [pathFrom]
    | succ m =>
      simp only [pathFrom]
      split
      · rfl
      · next hv =>
          have hlt := parent_lt (v := v) (by omega)
          rw [ih (m := m) (by omega) (by omega)]

@[simp] theorem path_zero : path 0 = [0] := rfl

theorem path_of_pos (h : 0 < v) : path v = v :: path (parent v) := by
  cases v with
  | zero => omega
  | succ n =>
    have hlt := parent_lt h
    simp only [path, pathFrom, Nat.succ_ne_zero, if_false]
    rw [pathFrom_fuel (n := n) (m := parent (n + 1)) (by omega) (by omega)]

theorem mem_path {a : Nat} : a ∈ path v ↔ Above a v := by
  induction v using Nat.strongRecOn with
  | ind v ih =>
    by_cases hv : v = 0
    · subst hv
      constructor
      · intro h
        rw [path_zero, List.mem_singleton] at h
        exact h ▸ .refl _
      · intro h
        have hle := h.le
        simp only [path_zero, List.mem_singleton]
        omega
    · have hpos : 0 < v := by omega
      rw [path_of_pos hpos, List.mem_cons, ih _ (parent_lt hpos)]
      constructor
      · rintro (rfl | h)
        · exact .refl _
        · exact .up hpos h
      · intro h
        cases h with
        | refl => exact .inl rfl
        | up _ h => exact .inr h

theorem path_eq_cons (v : Nat) : ∃ rest, path v = v :: rest := by
  by_cases hv : v = 0
  · exact ⟨[], by rw [hv, path_zero]⟩
  · exact ⟨_, path_of_pos (by omega)⟩

theorem path_decreasing (v : Nat) : (path v).Pairwise (· > ·) := by
  induction v using Nat.strongRecOn with
  | ind v ih =>
    by_cases hv : v = 0
    · rw [hv, path_zero]
      exact List.pairwise_singleton _ _
    · have hpos : 0 < v := by omega
      rw [path_of_pos hpos]
      refine List.pairwise_cons.mpr ⟨?_, ih _ (parent_lt hpos)⟩
      intro a ha
      exact Nat.lt_of_le_of_lt (mem_path.mp ha).le (parent_lt hpos)

theorem path_nodup (v : Nat) : (path v).Nodup :=
  (path_decreasing v).imp fun h => Nat.ne_of_gt h

theorem getLast?_path (v : Nat) : (path v).getLast? = some 0 := by
  induction v using Nat.strongRecOn with
  | ind v ih =>
    by_cases hv : v = 0
    · rw [hv, path_zero]
      rfl
    · have hpos : 0 < v := by omega
      obtain ⟨rest, hrest⟩ := path_eq_cons (parent v)
      have hlast := ih _ (parent_lt hpos)
      rw [path_of_pos hpos]
      rw [hrest] at hlast ⊢
      rw [List.getLast?_cons_cons, hlast]

theorem isChain_path (v : Nat) : (path v).IsChain fun child up => child ≠ 0 ∧ parent child = up := by
  induction v using Nat.strongRecOn with
  | ind v ih =>
    by_cases hv : v = 0
    · rw [hv, path_zero]
      exact .singleton 0
    · have hpos : 0 < v := by omega
      obtain ⟨rest, hrest⟩ := path_eq_cons (parent v)
      have hchain := ih _ (parent_lt hpos)
      rw [path_of_pos hpos]
      rw [hrest] at hchain ⊢
      exact .cons_cons ⟨hv, rfl⟩ hchain

structure IsLCA (a x y : Nat) : Prop where
  left : Above a x
  right : Above a y
  deepest : ∀ c, Above c x → Above c y → Above c a

theorem isLCA_parent {c : Nat} (hc : 0 < c) (hx : Above (parent c) x) (hcx : ¬ Above c x) :
    IsLCA (parent c) c x := by
  refine ⟨HeapTree.above_parent hc, hx, ?_⟩
  intro d hd hdx
  cases hd with
  | refl => exact absurd hdx hcx
  | up _ hd => exact hd

theorem IsLCA.of_parent {a c : Nat} (hc : 0 < c) (hcx : ¬ Above c x) (h : IsLCA a (parent c) x) :
    IsLCA a c x := by
  refine ⟨.up hc h.left, h.right, ?_⟩
  intro d hd hdx
  cases hd with
  | refl => exact absurd hdx hcx
  | up _ hd => exact h.deepest d hd hdx

def Apart (a b : Nat) : Prop := ∀ x, Above a x → ¬ Above b x

theorem Apart.symm {a : Nat} (h : Apart a b) : Apart b a := fun x hb ha => h x ha hb

theorem Apart.below {a a' b' : Nat} (h : Apart a b) (ha : Above a a') (hb : Above b b') :
    Apart a' b' := fun x ha' hb' => h x (ha.trans ha') (hb.trans hb')

end HeapTree
