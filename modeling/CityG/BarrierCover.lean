import CityG.BarrierTree
import Mathlib.Data.List.Pairwise

/-!
# The expected pairs cover the key tree

The resolution of a node is the antichain of highest non-blank nodes below it;
along the updater's path the siblings split the rest of the tree.
-/

namespace CityG

open HeapTree (Above Apart IsLCA parent leftChild rightChild)

variable {pk : PkEntries} {v leafBase : Nat}

theorem lt_length_of_not_blank (h : isBlank pk v = false) :
    v < pk.length := by
  by_contra hv
  have hnone : pk[v]? = none := List.getElem?_eq_none (by omega)
  simp [isBlank, List.getD_eq_getElem?_getD, hnone] at h

structure Resolves (pk : PkEntries) (leafBase v : Nat) (targets : List Nat) : Prop where
  below : ∀ t ∈ targets, Above v t
  notBlank : ∀ t ∈ targets, isBlank pk t = false
  covers : ∀ x, leafBase ≤ x → Above v x → isBlank pk x = false → ∃ t ∈ targets, Above t x
  apart : targets.Pairwise Apart

theorem Resolves.nil (h : ∀ x, leafBase ≤ x → Above v x → isBlank pk x = true) :
    Resolves pk leafBase v [] := by
  refine ⟨by simp, by simp, ?_, .nil⟩
  intro x hx hv hb
  rw [h x hx hv] at hb
  cases hb

theorem Resolves.children {ls rs : List Nat} (hv : v < leafBase)
    (hl : Resolves pk leafBase (leftChild v) ls) (hr : Resolves pk leafBase (rightChild v) rs) :
    Resolves pk leafBase v (ls ++ rs) := by
  have hvl : Above v (leftChild v) := .up (Nat.succ_pos _) (by simpa using .refl v)
  have hvr : Above v (rightChild v) := .up (Nat.succ_pos _) (by simpa using .refl v)
  have hsplit : Apart (leftChild v) (rightChild v) :=
    fun x hx => HeapTree.sibling_disjoint (HeapTree.sibling_leftChild v) hx
  refine ⟨?_, ?_, ?_, ?_⟩
  · intro t ht
    rcases List.mem_append.mp ht with ht | ht
    · exact hvl.trans (hl.below t ht)
    · exact hvr.trans (hr.below t ht)
  · intro t ht
    rcases List.mem_append.mp ht with ht | ht
    · exact hl.notBlank t ht
    · exact hr.notBlank t ht
  · intro x hx hvx hb
    rcases hvx.cases_child with rfl | h | h
    · omega
    · obtain ⟨t, ht, htx⟩ := hl.covers x hx h hb
      exact ⟨t, List.mem_append_left _ ht, htx⟩
    · obtain ⟨t, ht, htx⟩ := hr.covers x hx h hb
      exact ⟨t, List.mem_append_right _ ht, htx⟩
  · rw [List.pairwise_append]
    refine ⟨hl.apart, hr.apart, ?_⟩
    intro a ha b hb
    exact hsplit.below (hl.below a ha) (hr.below b hb)

theorem resolutionFrom_resolves (hlen : pk.length = 2 * leafBase + 1) (fuel v : Nat)
    (hfuel : pk.length ≤ v + fuel) :
    Resolves pk leafBase v (resolutionFrom pk leafBase fuel v) := by
  induction fuel generalizing v with
  | zero =>
    apply Resolves.nil
    intro x _ hx
    by_contra hb
    have hlt := lt_length_of_not_blank (by simpa using hb)
    have hle := hx.le
    omega
  | succ fuel ih =>
    simp only [resolutionFrom]
    split
    · apply Resolves.nil
      intro x _ hx
      by_contra hb
      have hlt := lt_length_of_not_blank (by simpa using hb)
      have hle := hx.le
      omega
    · split
      · next hv =>
          exact ⟨by simpa using .refl v, by simpa using hv,
            fun x _ hx _ => ⟨v, by simp, hx⟩, List.pairwise_singleton _ _⟩
      · next hblank =>
          split
          · next hleaf =>
              -- The children of a leaf are beyond the array.
              apply Resolves.nil
              intro x _ hx
              by_contra hb
              have hlt := lt_length_of_not_blank (by simpa using hb)
              rcases hx.cases_child with rfl | h | h
              · exact hblank (by simpa using hb)
              · have hle := h.le
                simp only [leftChild] at hle
                omega
              · have hle := h.le
                simp only [rightChild] at hle
                omega
          · next hleaf =>
              apply Resolves.children (by omega)
              · exact ih _ (by simp only [leftChild]; omega)
              · exact ih _ (by simp only [rightChild]; omega)

theorem collectResolutionNodes_resolves (hlen : pk.length = 2 * leafBase + 1) (v : Nat) :
    Resolves pk leafBase v (collectResolutionNodes pk v leafBase) :=
  resolutionFrom_resolves hlen _ v (by omega)

structure PairsCover (pk : PkEntries) (leafBase c : Nat) (pairs : List (Nat × Nat)) : Prop where
  offPath : ∀ p ∈ pairs, Apart c p.2 ∧ ¬ Above p.2 c
  notBlank : ∀ p ∈ pairs, isBlank pk p.2 = false
  covers : ∀ x, leafBase ≤ x → ¬ Above c x → isBlank pk x = false →
    ∃ p ∈ pairs, Above p.2 x ∧ IsLCA p.1 c x
  apart : pairs.Pairwise (fun p q => Apart p.2 q.2)

/-- One step of the walk: the sibling's resolution is added to the pairs that
cover everything outside the parent. -/
theorem PairsCover.step {c s : Nat} {targets : List Nat} {pairs : List (Nat × Nat)}
    (hs : HeapTree.sibling c = some s) (hpar : parent c < leafBase)
    (hres : Resolves pk leafBase s targets) (hp : PairsCover pk leafBase (parent c) pairs) :
    PairsCover pk leafBase c (targets.map (fun t => (parent c, t)) ++ pairs) := by
  obtain ⟨hc, hspos, _, hspar⟩ := HeapTree.sibling_eq_some hs
  have hpc := HeapTree.above_parent hc
  have hps : Above (parent c) s := hspar ▸ HeapTree.above_parent hspos
  have hcs : Apart c s := fun x hx => HeapTree.sibling_disjoint hs hx
  refine ⟨?_, ?_, ?_, ?_⟩
  · intro p hmem
    rcases List.mem_append.mp hmem with hmem | hmem
    · obtain ⟨t, ht, rfl⟩ := List.mem_map.mp hmem
      have hst := hres.below t ht
      exact ⟨hcs.below (.refl c) hst, fun htc => hcs c (.refl c) (hst.trans htc)⟩
    · obtain ⟨hap, hnot⟩ := hp.offPath p hmem
      refine ⟨hap.below hpc (.refl _), ?_⟩
      intro h
      exact hap c hpc h
  · intro p hmem
    rcases List.mem_append.mp hmem with hmem | hmem
    · obtain ⟨t, ht, rfl⟩ := List.mem_map.mp hmem
      exact hres.notBlank t ht
    · exact hp.notBlank p hmem
  · intro x hx hcx hb
    by_cases hpx : Above (parent c) x
    · have hsx := HeapTree.above_sibling_of_not_above hs hpx (by omega) hcx
      obtain ⟨t, ht, htx⟩ := hres.covers x hx hsx hb
      refine ⟨(parent c, t), List.mem_append_left _ (List.mem_map_of_mem ht), htx, ?_⟩
      exact HeapTree.isLCA_parent hc hpx hcx
    · obtain ⟨p, hmem, hpx', hlca⟩ := hp.covers x hx hpx hb
      exact ⟨p, List.mem_append_right _ hmem, hpx', .of_parent hc hcx hlca⟩
  · rw [List.pairwise_append, List.pairwise_map]
    refine ⟨hres.apart, hp.apart, ?_⟩
    intro p hmem q hq
    obtain ⟨t, ht, rfl⟩ := List.mem_map.mp hmem
    exact (hp.offPath q hq).1.below (hps.trans (hres.below t ht)) (.refl _)

theorem Resolves.perm {ts ts' : List Nat} (h : Resolves pk leafBase v ts) (hp : ts'.Perm ts) :
    Resolves pk leafBase v ts' := by
  refine ⟨fun t ht => h.below t (hp.mem_iff.mp ht), fun t ht => h.notBlank t (hp.mem_iff.mp ht),
    ?_, (hp.pairwise_iff Apart.symm).mpr h.apart⟩
  intro x hx hv hb
  obtain ⟨t, ht, htx⟩ := h.covers x hx hv hb
  exact ⟨t, hp.mem_iff.mpr ht, htx⟩

theorem expectedPairsFrom_cover (hlen : pk.length = 2 * leafBase + 1) (c : Nat) (hc : c < pk.length) :
    ∃ pairs, expectedPairsFrom pk leafBase (directPathNodes c) = .ok pairs ∧
      PairsCover pk leafBase c pairs := by
  induction c using Nat.strongRecOn with
  | ind c ih =>
    by_cases hzero : c = 0
    · subst hzero
      refine ⟨[], rfl, by simp, by simp, ?_, .nil⟩
      intro x _ hx
      exact absurd (HeapTree.root_above x) hx
    · have hpos : 0 < c := by omega
      have hlt := HeapTree.parent_lt hpos
      obtain ⟨s, hs⟩ := HeapTree.exists_sibling hpos
      obtain ⟨pairs, hpairs, hcover⟩ := ih _ hlt (by omega)
      have hres := (collectResolutionNodes_resolves hlen s).perm
        (List.perm_insertionSort (· ≤ ·) _)
      refine ⟨_, ?_, hcover.step hs (by simp only [parent]; omega) hres⟩
      have hpath : directPathNodes c = c :: directPathNodes (parent c) := HeapTree.path_of_pos hpos
      obtain ⟨rest, hrest⟩ : ∃ rest, directPathNodes (parent c) = parent c :: rest := by
        by_cases hpz : parent c = 0
        · exact ⟨[], by rw [hpz]; rfl⟩
        · exact ⟨_, HeapTree.path_of_pos (by omega)⟩
      rw [hrest] at hpath hpairs
      simp [hpath, expectedPairsFrom, siblingNode, hs, Except.ofOption, hpairs]

/-- The pairs split the non-blank leaves among their targets: every slot but the
updater's lies under exactly one of them, reached from the lowest common ancestor. -/
structure CoversExactly (pk : PkEntries) (nMax u : Nat) (pairs : List (Nat × Nat)) : Prop where
  nodup : pairs.Nodup
  oneTarget : ∀ s < nMax, s ≠ u → isBlank pk (leafNode nMax s) = false →
    ∃! p, p ∈ pairs ∧ Above p.2 (leafNode nMax s)
  source : ∀ s < nMax, s ≠ u → isBlank pk (leafNode nMax s) = false →
    ∀ p ∈ pairs, Above p.2 (leafNode nMax s) → IsLCA p.1 (leafNode nMax s) (leafNode nMax u)
  target : ∀ p ∈ pairs, isBlank pk p.2 = false ∧ p.2 ∉ directPathNodes (leafNode nMax u)

/-- The expected pairs of an updater cover the key tree exactly, whatever nodes
are blank. Any number of leaves will do; it need not be a power of two. -/
theorem collectExpectedPairs_covers_exactly (nMax u : Nat) (pk : PkEntries)
    (hlen : pk.length = 2 * nMax - 1) (hu : u < nMax) :
    ∃ pairs, collectExpectedPairs pk (directPathNodes (leafNode nMax u)) nMax = .ok pairs ∧
      CoversExactly pk nMax u pairs := by
  have hbase : pk.length = 2 * (nMax - 1) + 1 := by omega
  have hleaf : ∀ s < nMax, nMax - 1 ≤ leafNode nMax s := by
    intro s _
    simp only [leafNode]
    omega
  obtain ⟨pairs, hpairs, hcover⟩ := expectedPairsFrom_cover hbase (leafNode nMax u) (by
    simp only [leafNode]
    omega)
  -- Leaves of different slots are not above one another.
  have hother : ∀ s < nMax, s ≠ u → ¬ Above (leafNode nMax u) (leafNode nMax s) := by
    intro s hs hne h
    rcases h.cases_child with h | h | h
    · simp only [leafNode] at h
      omega
    · have hle := h.le
      simp only [leafNode, leftChild] at hle
      omega
    · have hle := h.le
      simp only [leafNode, rightChild] at hle
      omega
  have hperm := List.perm_insertionSort pairLE pairs
  have hapart : (pairs.insertionSort pairLE).Pairwise (fun p q => Apart p.2 q.2) :=
    (hperm.pairwise_iff (fun h => Apart.symm h)).mpr hcover.apart
  have hunique : ∀ p ∈ pairs.insertionSort pairLE, ∀ q ∈ pairs.insertionSort pairLE,
      ∀ x, Above p.2 x → Above q.2 x → p = q := by
    intro p hp q hq x hpx hqx
    by_contra hne
    have : Std.Symm (fun p q : Nat × Nat => Apart p.2 q.2) := ⟨fun _ _ h => h.symm⟩
    exact hapart.forall hp hq hne x hpx hqx
  refine ⟨pairs.insertionSort pairLE, by simp [collectExpectedPairs, hpairs], ?_, ?_, ?_, ?_⟩
  · apply hapart.imp
    intro p q h heq
    exact h p.2 (.refl _) (heq ▸ .refl _)
  · intro s hs hne hb
    obtain ⟨p, hp, hpx, _⟩ := hcover.covers _ (hleaf s hs) (hother s hs hne) hb
    refine ⟨p, ⟨hperm.mem_iff.mpr hp, hpx⟩, ?_⟩
    intro q hq
    exact hunique q hq.1 p (hperm.mem_iff.mpr hp) _ hq.2 hpx
  · intro s hs hne hb p hp hpx
    obtain ⟨q, hq, hqx, hlca⟩ := hcover.covers _ (hleaf s hs) (hother s hs hne) hb
    obtain rfl := hunique p hp q (hperm.mem_iff.mpr hq) _ hpx hqx
    exact ⟨hlca.right, hlca.left, fun c hs hu => hlca.deepest c hu hs⟩
  · intro p hp
    have hp' := hperm.mem_iff.mp hp
    refine ⟨hcover.notBlank p hp', ?_⟩
    intro hmem
    exact (hcover.offPath p hp').2 (HeapTree.mem_path.mp hmem)

theorem collectExpectedPairs_covers_four :
    ∃ pairs, collectExpectedPairs [[], [], [5], [1], [2], [3], []] (directPathNodes (leafNode 4 0)) 4 =
        .ok pairs ∧ CoversExactly [[], [], [5], [1], [2], [3], []] 4 0 pairs :=
  collectExpectedPairs_covers_exactly 4 0 _ rfl (by decide)

example : collectExpectedPairs [[], [], [5], [1], [2], [3], []] (directPathNodes (leafNode 4 0)) 4 =
    .ok [(0, 2), (1, 4)] := by decide

end CityG
