import CityG.Lib.HashTree
import Mathlib.Algebra.Order.Group.Nat
import Mathlib.Data.List.Nodup

/-!
# Building openings

The prover collects the siblings of one entry while the levels are reduced. Its
path opens the entry in the tree of the reduction, and the paths of two leaves
meet in one node: they agree above it and leave it on different sides.
-/

namespace HashTree

section Siblings
variable {D : Type*} (h : D → D → D)

def siblingStep (level : List D) (index : Nat) : List (Bool × D) :=
  if index % 2 = 0 then
    match level[index + 1]? with
    | some sibling => [(false, sibling)]
    | none => []
  else
    match level[index - 1]? with
    | some sibling => [(true, sibling)]
    | none => []

def siblingPath : Nat → List D → Nat → List (Bool × D)
  | 0, _, _ => []
  | n + 1, level, index =>
    if level.length ≤ 1 then []
    else siblingStep level index ++ siblingPath n (pairUp h level) (index / 2)

variable {h}

theorem siblingStep_length_le (level : List D) (index : Nat) :
    (siblingStep level index).length ≤ 1 := by
  unfold siblingStep
  split
  · split <;> simp
  · split <;> simp

theorem siblingPath_length_le (n : Nat) (level : List D) (index k : Nat)
    (hlevel : level.length ≤ 2 ^ k) : (siblingPath h n level index).length ≤ k := by
  induction n generalizing level index k with
  | zero => exact Nat.zero_le k
  | succ n ih =>
    rw [siblingPath]
    split
    · exact Nat.zero_le k
    · next hlen =>
        cases k with
        | zero => exact absurd hlevel hlen
        | succ k =>
          have hhalf : (pairUp h level).length ≤ 2 ^ k := by
            rw [pairUp_length]
            rw [pow_succ] at hlevel
            omega
          have hstep := siblingStep_length_le level index
          have hrest := ih (pairUp h level) (index / 2) k hhalf
          rw [List.length_append]
          omega

variable {t s : HashTree D} {index : Nat}

theorem Opens.trans {u : HashTree D} {p q : List (Bool × D)} (ht : Opens h t s p)
    (hs : Opens h s u q) : Opens h t u (q ++ p) := by
  induction ht with
  | here t => simpa using hs
  | left _ ih =>
    rw [← List.append_assoc]
    exact .left (ih hs)
  | right _ ih =>
    rw [← List.append_assoc]
    exact .right (ih hs)

theorem Opens.foldPath_eq {p : List (Bool × D)} (ho : Opens h t s p) :
    foldPath h (digest h s) p = digest h t := by
  induction ho with
  | here t => rfl
  | left _ ih => rw [foldPath_append, ih]; rfl
  | right _ ih => rw [foldPath_append, ih]; rfl

theorem eq_singleton_of_getElem? {α : Type*} {level : List α} {s : α} (hlen : level.length ≤ 1)
    (hs : level[index]? = some s) : index = 0 ∧ level = [s] := by
  obtain ⟨hindex, hget⟩ := List.getElem?_eq_some_iff.mp hs
  obtain ⟨a, rfl⟩ := List.length_eq_one_iff.mp (show level.length = 1 by omega)
  obtain rfl : index = 0 := by simpa using hindex
  exact ⟨rfl, congrArg (fun x => [x]) hget⟩

theorem pairUp_opens {level : List (HashTree D)} (hs : level[index]? = some s) :
    ∃ parent, (pairUp node level)[index / 2]? = some parent ∧
      Opens h parent s (siblingStep (level.map (digest h)) index) := by
  induction level using pairUp.induct generalizing index with
  | case1 => simp at hs
  | case2 a =>
    obtain ⟨rfl, hsingle⟩ := eq_singleton_of_getElem? (by simp) hs
    obtain rfl : a = s := by simpa using hsingle
    exact ⟨a, rfl, .here a⟩
  | case3 a b rest ih =>
    match index, hs with
    | 0, hs =>
      obtain rfl : a = s := by simpa using hs
      exact ⟨node a b, rfl, .left (.here a)⟩
    | 1, hs =>
      obtain rfl : b = s := by simpa using hs
      exact ⟨node a b, rfl, .right (.here b)⟩
    | i + 2, hs =>
      obtain ⟨parent, hparent, hopens⟩ := @ih i (by simpa using hs)
      refine ⟨parent, by simpa [pairUp] using hparent, ?_⟩
      -- Two entries are taken off the front: the same sibling, two places later.
      have hstep : siblingStep ((a :: b :: rest).map (digest h)) (i + 2) =
          siblingStep (rest.map (digest h)) i := by
        simp only [siblingStep, Nat.add_mod_right, List.map_cons]
        split
        · simp
        · next hodd =>
            obtain ⟨j, rfl⟩ : ∃ j, i = j + 1 := ⟨i - 1, by omega⟩
            simp
      rw [hstep]
      exact hopens

theorem siblingPath_opens {n : Nat} {level : List (HashTree D)} (hs : level[index]? = some s)
    (hfuel : level.length ≤ n + 1) (ht : (reduceLevels node n level).head? = some t) :
    Opens h t s (siblingPath h n (level.map (digest h)) index) := by
  induction n generalizing level index s with
  | zero =>
    obtain ⟨rfl, rfl⟩ := eq_singleton_of_getElem? (by omega) hs
    obtain rfl : s = t := by simpa [reduceLevels] using ht
    exact .here s
  | succ n ih =>
    rw [siblingPath, List.length_map]
    rw [reduceLevels] at ht
    split
    · next hlen =>
        rw [if_pos hlen] at ht
        obtain ⟨rfl, rfl⟩ := eq_singleton_of_getElem? hlen hs
        obtain rfl : s = t := by simpa using ht
        exact .here s
    · next hlen =>
        rw [if_neg hlen] at ht
        obtain ⟨parent, hparent, hopens⟩ := pairUp_opens (h := h) hs
        have hrest := ih hparent (by rw [pairUp_length]; omega) ht
        rw [← pairUp_map (digest h) node h (fun _ _ => rfl)]
        exact hrest.trans hopens

end Siblings

section Meeting
variable {D : Type*} {h : D → D → D}

def children : HashTree D → List (HashTree D × HashTree D)
  | leaf _ => []
  | node l r => (l, r) :: (children l ++ children r)

/-- The inner nodes of one tree have different digests unless they hash the same pair. -/
def InjectiveOn (h : D → D → D) (t : HashTree D) : Prop :=
  ∀ a ∈ t.children, ∀ b ∈ t.children,
    h (digest h a.1) (digest h a.2) = h (digest h b.1) (digest h b.2) →
      digest h a.1 = digest h b.1 ∧ digest h a.2 = digest h b.2

variable {t : HashTree D} {p q : List (Bool × D)} {l r x : D}

theorem Binding.of_children (hb : Binding h t) :
    ∀ c ∈ t.children, ∀ x y, h x y = h (digest h c.1) (digest h c.2) →
      x = digest h c.1 ∧ y = digest h c.2 := by
  induction t with
  | leaf d => simp [children]
  | node l r ihl ihr =>
    obtain ⟨hnode, hl, hr⟩ := hb
    intro c hc
    rcases List.mem_cons.mp hc with rfl | hc
    · exact hnode
    · rcases List.mem_append.mp hc with hc | hc
      · exact ihl hl c hc
      · exact ihr hr c hc

theorem Binding.injectiveOn (hb : Binding h t) : InjectiveOn h t :=
  fun _ _ b hb' heq => hb.of_children b hb' _ _ heq

theorem Binding.leaf_ne (hb : Binding h t) : ∀ d ∈ t.leaves, ∀ x y, h x y ≠ d := by
  induction t with
  | leaf d =>
    intro e he
    obtain rfl := List.mem_singleton.mp he
    exact hb
  | node l r ihl ihr =>
    intro d hd
    rcases List.mem_append.mp hd with hd | hd
    · exact ihl hb.2.1 d hd
    · exact ihr hb.2.2 d hd

theorem Opens.children_subset {s : HashTree D} (ho : Opens h t s p) :
    s.children ⊆ t.children := by
  induction ho with
  | here t => exact List.Subset.refl _
  | left _ ih => exact fun a ha => List.mem_cons_of_mem _ (List.mem_append_left _ (ih ha))
  | right _ ih => exact fun a ha => List.mem_cons_of_mem _ (List.mem_append_right _ (ih ha))

theorem Opens.leaves_sublist {s : HashTree D} (ho : Opens h t s p) :
    List.Sublist s.leaves t.leaves := by
  induction ho with
  | here t => exact List.Sublist.refl _
  | left _ ih => exact ih.trans (List.sublist_append_left _ _)
  | right _ ih => exact ih.trans (List.sublist_append_right _ _)

/-- Two subtrees with different leaves have different digests, when the nodes are
told apart by the hash and no leaf is the digest of an inner node. -/
theorem digest_ne_of_disjoint {a b : HashTree D} (hinj : InjectiveOn h t)
    (hfresh : ∀ c ∈ t.children, h (digest h c.1) (digest h c.2) ∉ t.leaves)
    (ha : a.children ⊆ t.children) (hb : b.children ⊆ t.children)
    (hleaves : (a.leaves ++ b.leaves).Nodup) (hla : a.leaves ⊆ t.leaves) (hlb : b.leaves ⊆ t.leaves) :
    digest h a ≠ digest h b := by
  -- Both trees are descended on their left sides until one of them is a leaf.
  induction a generalizing b with
  | leaf x =>
    intro heq
    cases b with
    | leaf y => simp_all
    | node bl br =>
      refine hfresh (bl, br) (hb List.mem_cons_self) ?_
      rw [show h (digest h bl) (digest h br) = x from heq.symm]
      exact hla List.mem_cons_self
  | node al ar ihl ihr =>
    intro heq
    have hal : (al, ar) ∈ t.children := ha List.mem_cons_self
    cases b with
    | leaf y =>
      refine hfresh (al, ar) hal ?_
      rw [show h (digest h al) (digest h ar) = y from heq]
      exact hlb List.mem_cons_self
    | node bl br =>
      have hleft := (hinj (al, ar) hal (bl, br) (hb List.mem_cons_self) heq).1
      refine ihl ?_ ?_ ?_ ?_ ?_ hleft
      · exact fun c hc => ha (List.mem_cons_of_mem _ (List.mem_append_left _ hc))
      · exact fun c hc => hb (List.mem_cons_of_mem _ (List.mem_append_left _ hc))
      · refine hleaves.sublist ?_
        exact (List.sublist_append_left _ _).append (List.sublist_append_left _ _)
      · exact fun c hc => hla (List.mem_append_left _ hc)
      · exact fun c hc => hlb (List.mem_append_left _ hc)

/-- The node in which the openings of two leaves meet: `l` lies below its left
child, `r` below its right child, and above it the paths are the same. -/
structure Meeting (h : D → D → D) (t : HashTree D) (l r : D) (p q : List (Bool × D)) where
  left : HashTree D
  right : HashTree D
  leftBelow : List (Bool × D)
  rightBelow : List (Bool × D)
  above : List (Bool × D)
  opensNode : Opens h t (node left right) above
  opensLeft : Opens h left (leaf l) leftBelow
  opensRight : Opens h right (leaf r) rightBelow
  left_path : p = leftBelow ++ (false, digest h right) :: above
  right_path : q = rightBelow ++ (true, digest h left) :: above

theorem Meeting.opens_left_path (m : Meeting h t l r p q) : Opens h t (leaf l) p := by
  have hopens := m.opensNode.trans (.left m.opensLeft)
  rw [List.append_assoc, List.singleton_append] at hopens
  exact m.left_path ▸ hopens

theorem Meeting.opens_right_path (m : Meeting h t l r p q) : Opens h t (leaf r) q := by
  have hopens := m.opensNode.trans (.right m.opensRight)
  rw [List.append_assoc, List.singleton_append] at hopens
  exact m.right_path ▸ hopens

theorem Opens.leaf_mem (ho : Opens h t (leaf x) p) : x ∈ t.leaves :=
  ho.leaves_sublist.subset List.mem_cons_self

theorem Opens.right_of_last {before : List D} (ho : Opens h t (leaf x) p) (hnodup : t.leaves.Nodup)
    (hlast : t.leaves = before ++ [x]) :
    ∀ e ∈ p, e.1 = true := by
  obtain ⟨xs, ys, hsplit, _, hafter⟩ := ho.leaves_split
  refine hafter.mp ?_
  rw [hlast] at hsplit hnodup
  obtain ⟨_, _, hdisj⟩ := List.nodup_append.mp hnodup
  have hx : x ∉ before := fun hmem => hdisj x hmem x List.mem_cons_self rfl
  rw [leaves, List.append_assoc, List.singleton_append,
    List.append_cons_inj_of_notMem hx List.not_mem_nil] at hsplit
  exact hsplit.2.2.symm

theorem Opens.left_of_first {after : List D} (ho : Opens h t (leaf x) p) (hnodup : t.leaves.Nodup)
    (hfirst : t.leaves = x :: after) :
    ∀ e ∈ p, e.1 = false := by
  obtain ⟨xs, ys, hsplit, hbefore, _⟩ := ho.leaves_split
  refine hbefore.mp ?_
  rw [hfirst] at hsplit hnodup
  have hx : x ∉ after := (List.nodup_cons.mp hnodup).1
  have hsplit' : [] ++ x :: after = xs ++ x :: ys := by simpa using hsplit
  rw [List.append_cons_inj_of_notMem List.not_mem_nil hx] at hsplit'
  exact hsplit'.1.symm

theorem Opens.meeting {R : D → D → Prop} (hsorted : t.leaves.Pairwise R) (hne : l ≠ r)
    (horder : ¬ R r l) (hl : Opens h t (leaf l) p) (hr : Opens h t (leaf r) q) :
    Nonempty (Meeting h t l r p q) := by
  induction t generalizing p q with
  | leaf x =>
    cases hl
    cases hr
    exact absurd rfl hne
  | node a b iha ihb =>
    obtain ⟨hsa, hsb, hsab⟩ := List.pairwise_append.mp hsorted
    cases hl with
    | left hl =>
      cases hr with
      | left hr =>
        obtain ⟨m⟩ := iha hsa hl hr
        exact ⟨{ m with
          above := m.above ++ [(false, digest h b)]
          opensNode := .left m.opensNode
          left_path := by simp [m.left_path]
          right_path := by simp [m.right_path] }⟩
      | right hr => exact ⟨⟨a, b, _, _, [], .here _, hl, hr, rfl, rfl⟩⟩
    | right hl =>
      cases hr with
      | left hr => exact absurd (hsab r hr.leaf_mem l hl.leaf_mem) horder
      | right hr =>
        obtain ⟨m⟩ := ihb hsb hl hr
        exact ⟨{ m with
          above := m.above ++ [(true, digest h a)]
          opensNode := .right m.opensNode
          left_path := by simp [m.left_path]
          right_path := by simp [m.right_path] }⟩

def climb (h : D → D → D) : D → List (Bool × D) → List D
  | acc, [] => [acc]
  | acc, e :: rest => acc :: climb h (foldPath h acc [e]) rest

theorem climb_length (acc : D) (p : List (Bool × D)) : (climb h acc p).length = p.length + 1 := by
  induction p generalizing acc with
  | nil => rfl
  | cons e p ih => rw [climb, List.length_cons, ih, List.length_cons]

theorem climb_append_cons (acc : D) (p : List (Bool × D)) (e : Bool × D) (q : List (Bool × D)) :
    climb h acc (p ++ e :: q) = climb h acc p ++ climb h (foldPath h acc (p ++ [e])) q := by
  induction p generalizing acc with
  | nil => rfl
  | cons d p ih =>
    rw [List.cons_append, climb, ih, climb, List.cons_append]
    rfl

theorem climb_eq_concat (acc : D) (p : List (Bool × D)) :
    ∃ below, climb h acc p = below ++ [foldPath h acc p] := by
  induction p generalizing acc with
  | nil => exact ⟨[], rfl⟩
  | cons e p ih =>
    obtain ⟨below, hbelow⟩ := ih (foldPath h acc [e])
    exact ⟨acc :: below, by rw [climb, hbelow, List.cons_append]; rfl⟩

theorem Meeting.climb_left (m : Meeting h t l r p q) :
    climb h l p = climb h l m.leftBelow ++ climb h (digest h (node m.left m.right)) m.above := by
  have hfold : foldPath h l m.leftBelow = digest h m.left := m.opensLeft.foldPath_eq
  refine (congrArg (climb h l) m.left_path).trans ?_
  rw [climb_append_cons, foldPath_append, hfold]
  rfl

theorem Meeting.climb_right (m : Meeting h t l r p q) :
    climb h r q = climb h r m.rightBelow ++ climb h (digest h (node m.left m.right)) m.above := by
  have hfold : foldPath h r m.rightBelow = digest h m.right := m.opensRight.foldPath_eq
  refine (congrArg (climb h r) m.right_path).trans ?_
  rw [climb_append_cons, foldPath_append, hfold]
  rfl

end Meeting

end HashTree

namespace List

def sharedPrefix {α : Type*} [DecidableEq α] : List α → List α → Nat
  | x :: xs, y :: ys => if x = y then sharedPrefix xs ys + 1 else 0
  | _, _ => 0

variable {α : Type*}

theorem sharedPrefix_append [DecidableEq α] (common xs ys : List α) :
    sharedPrefix (common ++ xs) (common ++ ys) = common.length + sharedPrefix xs ys := by
  induction common with
  | nil => simp
  | cons c common ih => simp only [cons_append, sharedPrefix, ih, length_cons, if_pos]; omega

theorem sharedPrefix_cons_ne [DecidableEq α] {x y : α} (hne : x ≠ y) (xs ys : List α) :
    sharedPrefix (x :: xs) (y :: ys) = 0 :=
  if_neg hne

theorem sharedPrefix_le [DecidableEq α] (xs ys : List α) :
    sharedPrefix xs ys ≤ xs.length := by
  fun_induction sharedPrefix xs ys with
  | case1 x xs ys ih => simpa using ih
  | case2 => exact Nat.zero_le _
  | case3 => exact Nat.zero_le _

def sharedSuffix {α : Type*} [DecidableEq α] (xs ys : List α) : Nat :=
  sharedPrefix xs.reverse ys.reverse

theorem sharedSuffix_le [DecidableEq α] (xs ys : List α) :
    sharedSuffix xs ys ≤ xs.length := by
  simpa [sharedSuffix] using sharedPrefix_le xs.reverse ys.reverse

theorem sharedSuffix_append [DecidableEq α] {x y : α} (hne : x ≠ y) (xs ys common : List α) :
    sharedSuffix (xs ++ x :: common) (ys ++ y :: common) = common.length := by
  have hrev : ∀ (zs : List α) (z : α),
      (zs ++ z :: common).reverse = common.reverse ++ z :: zs.reverse := by simp
  rw [sharedSuffix, hrev, hrev, sharedPrefix_append, sharedPrefix_cons_ne hne, length_reverse,
    Nat.add_zero]

end List
