import Mathlib.Data.List.Basic
import Mathlib.Data.List.Induction
import Mathlib.Tactic.Common

/-!
# Binary hash trees and their openings

A tree carries digests at its leaves and is committed to by one binary hash.
An opening is the list of siblings met while climbing from a subtree to the
root. Nothing here assumes an injective hash: the soundness results ask only
that the nodes of the tree in question have no second preimage.
-/

inductive HashTree (D : Type*) where
  | leaf (d : D)
  | node (l r : HashTree D)
  deriving DecidableEq, Repr

namespace HashTree

def pairUp {α : Type*} (f : α → α → α) : List α → List α
  | [] => []
  | [a] => [a]
  | a :: b :: rest => f a b :: pairUp f rest

def reduceLevels {α : Type*} (f : α → α → α) : Nat → List α → List α
  | 0, level => level
  | n + 1, level => if level.length ≤ 1 then level else reduceLevels f n (pairUp f level)

variable {α : Type*}

theorem pairUp_map {β : Type*} (g : α → β) (f : α → α → α) (f' : β → β → β)
    (hg : ∀ a b, g (f a b) = f' (g a) (g b)) (level : List α) :
    (pairUp f level).map g = pairUp f' (level.map g) := by
  fun_induction pairUp f level with
  | case1 => rfl
  | case2 a => rfl
  | case3 a b rest ih => simp only [List.map_cons, pairUp, hg, ih]

theorem reduceLevels_map {β : Type*} (g : α → β) (f : α → α → α) (f' : β → β → β)
    (hg : ∀ a b, g (f a b) = f' (g a) (g b)) (n : Nat) (level : List α) :
    (reduceLevels f n level).map g = reduceLevels f' n (level.map g) := by
  induction n generalizing level with
  | zero => rfl
  | succ n ih =>
    simp only [reduceLevels, List.length_map]
    split
    · rfl
    · rw [ih, pairUp_map g f f' hg]

theorem pairUp_length (f : α → α → α) (level : List α) :
    (pairUp f level).length = (level.length + 1) / 2 := by
  fun_induction pairUp f level with
  | case1 => simp
  | case2 a => simp
  | case3 a b rest ih => simp only [List.length_cons, ih]; omega

theorem reduceLevels_length (f : α → α → α) (n : Nat) (level : List α) (hpos : 0 < level.length)
    (hfuel : level.length ≤ n + 1) :
    (reduceLevels f n level).length = 1 := by
  induction n generalizing level with
  | zero => simp only [reduceLevels]; omega
  | succ n ih =>
    simp only [reduceLevels]
    split
    · omega
    · apply ih <;> rw [pairUp_length] <;> omega

section Digest
variable {D : Type*} (h : D → D → D)

@[simp] def digest : HashTree D → D
  | leaf d => d
  | node l r => h (digest l) (digest r)

@[simp] def leaves : HashTree D → List D
  | leaf d => [d]
  | node l r => leaves l ++ leaves r

theorem leaves_ne_nil (t : HashTree D) : t.leaves ≠ [] := by
  induction t with
  | leaf d => simp
  | node l r hl hr => simp [hl]

theorem pairUp_leaves (level : List (HashTree D)) :
    (pairUp node level).flatMap leaves = level.flatMap leaves := by
  fun_induction pairUp node level with
  | case1 => rfl
  | case2 a => rfl
  | case3 a b rest ih => simp only [List.flatMap_cons, leaves, ih, List.append_assoc]

theorem reduceLevels_leaves (n : Nat) (level : List (HashTree D)) :
    (reduceLevels node n level).flatMap leaves = level.flatMap leaves := by
  induction n generalizing level with
  | zero => rfl
  | succ n ih =>
    simp only [reduceLevels]
    split
    · rfl
    · rw [ih, pairUp_leaves]

def ofLeaves (xs : List D) : Option (HashTree D) :=
  (reduceLevels node xs.length (xs.map leaf)).head?

/-- The bottom-up reduction of a non-empty leaf list is the digest of a tree
with exactly those leaves, in the same order. -/
theorem reduceLevels_tree (xs : List D) (hpos : 0 < xs.length) :
    ∃ t : HashTree D, ofLeaves xs = some t ∧ t.leaves = xs ∧
      reduceLevels h xs.length xs = [t.digest h] := by
  have hlen : (reduceLevels node xs.length (xs.map leaf)).length = 1 :=
    reduceLevels_length node _ _ (by simpa using hpos) (by simp)
  obtain ⟨t, ht⟩ := List.length_eq_one_iff.mp hlen
  have hleaves := reduceLevels_leaves xs.length (xs.map leaf)
  have hdigest := reduceLevels_map (digest h) node h (fun _ _ => rfl) xs.length (xs.map leaf)
  rw [ht] at hleaves hdigest
  refine ⟨t, by rw [ofLeaves, ht]; rfl, ?_, ?_⟩
  · simpa [List.flatMap_map] using hleaves
  · simpa [Function.comp_def] using hdigest.symm

end Digest

section Opening
variable {D : Type*} (h : D → D → D)

def foldPath : D → List (Bool × D) → D
  | acc, [] => acc
  | acc, (right, sib) :: rest => foldPath (if right then h sib acc else h acc sib) rest

theorem foldPath_append (acc : D) (p q : List (Bool × D)) :
    foldPath h acc (p ++ q) = foldPath h (foldPath h acc p) q := by
  induction p generalizing acc with
  | nil => rfl
  | cons e p ih => exact ih _

/-- The path from subtree `s` up to the root of `t`, with the siblings of `t`. -/
inductive Opens : HashTree D → HashTree D → List (Bool × D) → Prop
  | here (t) : Opens t t []
  | left {l r s p} : Opens l s p → Opens (node l r) s (p ++ [(false, digest h r)])
  | right {l r s p} : Opens r s p → Opens (node l r) s (p ++ [(true, digest h l)])

/-- No node of the tree has a second preimage and no leaf is a node digest. -/
def Binding : HashTree D → Prop
  | leaf d => ∀ x y, h x y ≠ d
  | node l r =>
    (∀ x y, h x y = h (digest h l) (digest h r) → x = digest h l ∧ y = digest h r) ∧
      Binding l ∧ Binding r

variable {h}

variable {t : HashTree D} {p : List (Bool × D)}

theorem Opens.binding {s : HashTree D} (ho : Opens h t s p) (hb : Binding h t) : Binding h s := by
  induction ho with
  | here t => exact hb
  | left _ ih => exact ih hb.2.1
  | right _ ih => exact ih hb.2.2

/-- A climb that reaches the root of a binding tree started at one of its
subtrees and used that subtree's own siblings. -/
theorem opens_of_foldPath (hb : Binding h t) {x : D} (hp : foldPath h x p = digest h t) :
    ∃ s, Opens h t s p ∧ digest h s = x := by
  -- The last step of the climb is the top node, so the path is peeled from its end.
  induction p using List.reverseRecOn generalizing t with
  | nil => exact ⟨t, .here t, hp.symm⟩
  | append_singleton p e ih =>
    obtain ⟨right, sib⟩ := e
    rw [foldPath_append] at hp
    cases t with
    | leaf d =>
      cases right with
      | false => exact absurd hp (hb _ _)
      | true => exact absurd hp (hb _ _)
    | node l r =>
      cases right with
      | false =>
        obtain ⟨hacc, rfl⟩ := hb.1 _ _ hp
        obtain ⟨s, hs, hd⟩ := ih hb.2.1 hacc
        exact ⟨s, .left hs, hd⟩
      | true =>
        obtain ⟨rfl, hacc⟩ := hb.1 _ _ hp
        obtain ⟨s, hs, hd⟩ := ih hb.2.2 hacc
        exact ⟨s, .right hs, hd⟩

theorem opens_leaf_of_foldPath (hb : Binding h t) {x : D} (hx : ∀ u v, h u v ≠ x)
    (hp : foldPath h x p = digest h t) :
    Opens h t (leaf x) p := by
  obtain ⟨s, hs, hd⟩ := opens_of_foldPath hb hp
  cases s with
  | leaf d => exact (show d = x from hd) ▸ hs
  | node l r => exact absurd hd (hx _ _)

/-- A binding tree shares its digest with no other tree whose leaves are no node
digests, whatever its shape. -/
theorem eq_of_digest_eq {u : HashTree D} (hb : Binding h t) (hu : ∀ d ∈ u.leaves, ∀ x y, h x y ≠ d)
    (heq : digest h t = digest h u) : t = u := by
  induction t generalizing u with
  | leaf d =>
    cases u with
    | leaf e => exact congrArg leaf heq
    | node l r => exact absurd heq.symm (hb _ _)
  | node tl tr ihl ihr =>
    cases u with
    | leaf e => exact absurd heq (hu e List.mem_cons_self _ _)
    | node l r =>
      obtain ⟨hnode, hl, hr⟩ := hb
      obtain ⟨hdl, hdr⟩ := hnode _ _ heq.symm
      have heql := ihl hl (fun d hd => hu d (List.mem_append_left _ hd)) hdl.symm
      have heqr := ihr hr (fun d hd => hu d (List.mem_append_right _ hd)) hdr.symm
      rw [heql, heqr]

/-- Where an opened subtree lies among the leaves: the sides taken on the path
tell whether anything stands before or after it. -/
theorem Opens.leaves_split {s : HashTree D} (ho : Opens h t s p) :
    ∃ before after, t.leaves = before ++ s.leaves ++ after ∧
      (before = [] ↔ ∀ e ∈ p, e.1 = false) ∧ (after = [] ↔ ∀ e ∈ p, e.1 = true) := by
  induction ho with
  | here t => exact ⟨[], [], by simp, by simp, by simp⟩
  | @left l r s p _ ih =>
    obtain ⟨before, after, hsplit, hbefore, hafter⟩ := ih
    refine ⟨before, after ++ r.leaves, by simp [hsplit], ?_, ?_⟩
    · simpa [or_imp, forall_and] using hbefore
    · simp [or_imp, forall_and, r.leaves_ne_nil]
  | @right l r s p _ ih =>
    obtain ⟨before, after, hsplit, hbefore, hafter⟩ := ih
    refine ⟨l.leaves ++ before, after, by simp [hsplit], ?_, ?_⟩
    · simp [or_imp, forall_and, l.leaves_ne_nil]
    · simpa [or_imp, forall_and] using hafter

end Opening

end HashTree
