import CityG.Lib.HashPath
import CityG.SrxSound

/-!
# Building non-membership witnesses

The client opens the neighbours of an absent leaf in the tree over the parent
set. With a neighbour on each side, the two paths are split at the node in which
they meet, which the client finds by comparing the digests they climb through.
-/

namespace CityG.Client

open Except (ensure ofOption)

def pathEntry (step : Bool × Bytes32) : RawPathEntry where
  sibling := step.2.val
  dir := if step.1 then 1 else 0

def canonicalMembershipPath (H : MerkleHash) (leaves : List Bytes32) (target : Bytes32) :
    Except CityGError (List RawPathEntry) :=
  if leaves.length ≤ 1 then pure []
  else do
    let index ← ofOption (.invalidInput "membership target missing from leaf set")
      (leaves.findIdx? (· = target))
    pure ((HashTree.siblingPath H.hashNode leaves.length leaves index).map pathEntry)

def foldStepInto (H : MerkleHash) (acc : Bytes32) (entry : RawPathEntry) :
    Except CityGError Bytes32 :=
  if hlen : entry.sibling.length = 32 then
    if entry.dir = 0 then pure (H.hashNode acc ⟨entry.sibling, hlen⟩)
    else if entry.dir = 1 then pure (H.hashNode ⟨entry.sibling, hlen⟩ acc)
    else .error (.invalidInput "invalid path entry")
  else .error (.invalidInput "invalid path entry")

def buildChain (H : MerkleHash) : Bytes32 → List RawPathEntry → Except CityGError (List Bytes32)
  | acc, [] => pure [acc]
  | acc, entry :: rest => do
    let next ← foldStepInto H acc entry
    let chain ← buildChain H next rest
    pure (acc :: chain)

def sharedSuffixEntries (shared : Nat) (leftPath rightPath : List RawPathEntry) :
    Except CityGError (List RawPathEntry) :=
  if 0 < shared then do
    let suffixLeft := leftPath.drop (leftPath.length - shared)
    let suffixRight := rightPath.drop (rightPath.length - shared)
    ensure (suffixLeft.length = suffixRight.length) (.invalidInput "shared suffix mismatch")
    ensure (∀ e ∈ suffixLeft.zip suffixRight, e.1.dir = e.2.dir ∧ e.1.sibling = e.2.sibling)
      (.invalidInput "shared suffix mismatch")
    ensure (∀ e ∈ suffixLeft, e.dir ≤ 1) (.invalidInput "shared suffix malformed")
    pure suffixLeft
  else pure []

def lcaHeight (below : List RawPathEntry) : Except CityGError Byte :=
  if h : below.length + 1 < 256 then pure ⟨below.length + 1, h⟩
  else .error (.invalidInput "lca depth overflow")

structure SplitPaths where
  leftBelow : List RawPathEntry
  rightBelow : List RawPathEntry
  above : List RawPathEntry
  lcaLeftHeight : Byte
  lcaRightHeight : Byte
  deriving DecidableEq, Repr

def splitIntervalPaths (H : MerkleHash) (leftLeaf : Bytes32) (leftPath : List RawPathEntry)
    (rightLeaf : Bytes32) (rightPath : List RawPathEntry) (parentRoot : Bytes32) :
    Except CityGError SplitPaths := do
  let leftChain ← buildChain H leftLeaf leftPath
  let rightChain ← buildChain H rightLeaf rightPath
  let leftRoot ← ofOption (.invalidInput "empty membership path") leftChain.getLast?
  let rightRoot ← ofOption (.invalidInput "empty membership path") rightChain.getLast?
  ensure (leftRoot = parentRoot ∧ rightRoot = parentRoot)
    (.invalidInput "membership path inconsistent with root")
  let common := List.sharedSuffix leftChain rightChain
  ensure (common ≠ 0) (.invalidInput "anchors share no ancestry")
  ensure (common ≤ leftPath.length ∧ common ≤ rightPath.length) (.invalidInput "invalid LCA depth")
  let leftBelow := leftPath.take (leftPath.length - common)
  let rightBelow := rightPath.take (rightPath.length - common)
  let above ← sharedSuffixEntries (common - 1) leftPath rightPath
  let leftHeight ← lcaHeight leftBelow
  let rightHeight ← lcaHeight rightBelow
  pure ⟨leftBelow, rightBelow, above, leftHeight, rightHeight⟩

def intervalBounds (leaves : List Bytes32) (query : Bytes32) : Option Bytes32 × Option Bytes32 :=
  let pos := (leaves.takeWhile (· < query)).length
  (if 0 < pos then leaves[pos - 1]? else none, leaves[pos]?)

def sentinelNonmem (root query : Bytes32) : RawNonMembershipWitness where
  query := query.val
  root := root.val
  left := none
  right := none
  path := []

def intervalNonmem (H : MerkleHash) (root query l r : Bytes32) (split : SplitPaths) :
    RawNonMembershipWitness where
  query := query.val
  root := root.val
  left := some l.val
  right := some r.val
  path := []
  leftBelow := split.leftBelow
  rightBelow := split.rightBelow
  above := split.above
  nmint := some (H.hashIntervalBinding l l r r split.lcaLeftHeight split.lcaRightHeight).val
  lcaLeftHeight := some split.lcaLeftHeight
  lcaRightHeight := some split.lcaRightHeight

def parentNonmemWitness (H : MerkleHash) (parentLeaves : List Bytes32)
    (parentRoot query : Bytes32) :
    Except CityGError (RawNonMembershipWitness × Option Bytes32 × Option Bytes32) :=
  if parentLeaves = [] then pure (sentinelNonmem parentRoot query, none, none)
  else
    match intervalBounds parentLeaves query with
    | (some l, some r) => do
      let leftPath ← canonicalMembershipPath H parentLeaves l
      let rightPath ← canonicalMembershipPath H parentLeaves r
      let split ← splitIntervalPaths H l leftPath r rightPath parentRoot
      pure (intervalNonmem H parentRoot query l r split, some l, some r)
    | (some l, none) => do
      let path ← canonicalMembershipPath H parentLeaves l
      pure ({ sentinelNonmem parentRoot query with left := some l.val, path }, some l, none)
    | (none, some r) => do
      let path ← canonicalMembershipPath H parentLeaves r
      pure ({ sentinelNonmem parentRoot query with right := some r.val, path }, none, some r)
    | (none, none) =>
      .error (.invalidInput "non-empty parent set yielded no interval boundary")

section Paths

theorem pathEntry_reads (step : Bool × Bytes32) : (pathEntry step).Reads step := ⟨rfl, rfl⟩

theorem pathEntry_dir_le (step : Bool × Bytes32) : (pathEntry step).dir ≤ 1 := by
  obtain ⟨right, sib⟩ := step
  cases right
  · exact (by decide : (0 : Byte) ≤ 1)
  · exact (by decide : (1 : Byte) ≤ 1)

theorem reads_map_pathEntry (steps : List (Bool × Bytes32)) :
    List.Forall₂ RawPathEntry.Reads (steps.map pathEntry) steps := by
  induction steps with
  | nil => exact .nil
  | cons step steps ih => exact .cons (pathEntry_reads step) ih

theorem foldExtendedAnchor_map (H : MerkleHash) (acc : Bytes32) (steps : List (Bool × Bytes32)) :
    foldExtendedAnchor H acc (steps.map pathEntry) = .ok (HashTree.foldPath H.hashNode acc steps) :=
  foldExtendedAnchor_eq_ok.mpr ⟨steps, reads_map_pathEntry steps, rfl⟩

def checkedStep (step : Bool × Bytes32) : Byte × Bytes32 := (if step.1 then 1 else 0, step.2)

theorem validatePath_map {steps : List (Bool × Bytes32)} (hlen : steps.length ≤ maxMerkleDepth) :
    validatePath (steps.map pathEntry) = .ok (steps.map checkedStep) := by
  simp only [validatePath, List.length_map, Except.bind_eq_ok, Except.ensure_eq_ok]
  refine ⟨(), hlen, ?_⟩
  refine Except.mapList_eq_ok.mpr ?_
  rw [List.forall₂_map_left_iff, List.forall₂_map_right_iff, List.forall₂_same]
  intro step _
  simp only [validatePathEntry, Except.bind_eq_ok, Except.ensure_eq_ok, Except.pure_eq_ok]
  exact ⟨(), pathEntry_dir_le step, step.2, toArray32_val step.2, rfl⟩

theorem applyPath_map (H : MerkleHash) (acc : Bytes32) (steps : List (Bool × Bytes32)) :
    applyPath H acc (steps.map checkedStep) = HashTree.foldPath H.hashNode acc steps := by
  have hstep : pathStep ∘ checkedStep = id := by
    funext ⟨right, sib⟩
    cases right <;> rfl
  rw [applyPath_eq_foldPath, List.map_map, hstep, List.map_id]

theorem buildChain_map (H : MerkleHash) (acc : Bytes32) (steps : List (Bool × Bytes32)) :
    buildChain H acc (steps.map pathEntry) = .ok (HashTree.climb H.hashNode acc steps) := by
  induction steps generalizing acc with
  | nil => rfl
  | cons step steps ih =>
    obtain ⟨right, sib⟩ := step
    have hstep : foldStepInto H acc (pathEntry (right, sib)) =
        .ok (HashTree.foldPath H.hashNode acc [(right, sib)]) := by
      have hlen : (pathEntry (right, sib)).sibling.length = 32 := sib.property
      rw [foldStepInto, dif_pos hlen]
      cases right <;> rfl
    rw [List.map_cons, buildChain, hstep, Except.ok_bind, ih]
    rfl

theorem canonicalMembershipPath_opens (H : MerkleHash) {leaves : List Bytes32} {target : Bytes32}
    (hmem : target ∈ leaves) {t : HashTree Bytes32} (ht : HashTree.ofLeaves leaves = some t) :
    ∃ steps, canonicalMembershipPath H leaves target = .ok (steps.map pathEntry) ∧
      t.Opens H.hashNode (.leaf target) steps ∧
      ∀ k, leaves.length ≤ 2 ^ k → steps.length ≤ k := by
  by_cases hlen : leaves.length ≤ 1
  · obtain ⟨a, rfl⟩ : ∃ a, leaves = [a] :=
      List.length_eq_one_iff.mp (by have := List.length_pos_of_mem hmem; omega)
    obtain rfl : target = a := by simpa using hmem
    obtain rfl : HashTree.leaf target = t := Option.some.inj ht
    exact ⟨[], by simp [canonicalMembershipPath, pure, Except.pure], .here _, fun k _ => Nat.zero_le k⟩
  · obtain ⟨index, hindex⟩ : ∃ index, leaves.findIdx? (· = target) = some index := by
      refine Option.isSome_iff_exists.mp ?_
      rw [List.findIdx?_isSome, List.any_eq_true]
      exact ⟨target, hmem, by simp⟩
    have hget : leaves[index]? = some target := by
      obtain ⟨hlt, heq, _⟩ := List.findIdx?_eq_some_iff_getElem.mp hindex
      rw [List.getElem?_eq_getElem hlt]
      simpa using heq
    refine ⟨HashTree.siblingPath H.hashNode leaves.length leaves index, ?_, ?_, ?_⟩
    · rw [canonicalMembershipPath, if_neg hlen, hindex]
      rfl
    · have hleaf : (leaves.map HashTree.leaf)[index]? = some (.leaf target) := by
        rw [List.getElem?_map, hget]
        rfl
      have hopens := HashTree.siblingPath_opens (h := H.hashNode) (n := leaves.length) hleaf
        (by simp) ht
      simpa [Function.comp_def] using hopens
    · exact fun k hk => HashTree.siblingPath_length_le _ _ _ k hk

end Paths

section Split
variable {H : MerkleHash} {t : HashTree Bytes32} {l r : Bytes32} {p q : List (Bool × Bytes32)}

theorem lcaHeight_map {below : List (Bool × Bytes32)} (hlen : below.length + 1 < 256) :
    lcaHeight (below.map pathEntry) = .ok ⟨below.length + 1, hlen⟩ := by
  simp [lcaHeight, hlen, pure, Except.pure]

theorem take_map_append {α β : Type*} (f : α → β) (below : List α) (e : α) (above : List α) :
    ((below ++ e :: above).map f).take
      (((below ++ e :: above).map f).length - (above.length + 1)) = below.map f := by
  have hlen : ((below ++ e :: above).map f).length - (above.length + 1) = (below.map f).length := by
    simp
  rw [hlen, List.map_append, List.take_left]

theorem drop_map_append {α β : Type*} (f : α → β) (below : List α) (e : α) (above : List α) :
    ((below ++ e :: above).map f).drop (((below ++ e :: above).map f).length - above.length) =
      above.map f := by
  have hlen : ((below ++ e :: above).map f).length - above.length =
      ((below ++ [e]).map f).length := by
    simp
    omega
  have hsplit : (below ++ e :: above).map f = (below ++ [e]).map f ++ above.map f := by simp
  rw [hlen, hsplit, List.drop_left]

/-- When the children of the meeting node have different digests, the digests of
the two climbs agree exactly from that node on. -/
theorem sharedSuffix_climbs (m : t.Meeting H.hashNode l r p q)
    (hne : m.left.digest H.hashNode ≠ m.right.digest H.hashNode) :
    List.sharedSuffix (HashTree.climb H.hashNode l p) (HashTree.climb H.hashNode r q) =
      m.above.length + 1 := by
  obtain ⟨belowLeft, hleft⟩ := HashTree.climb_eq_concat (h := H.hashNode) l m.leftBelow
  obtain ⟨belowRight, hright⟩ := HashTree.climb_eq_concat (h := H.hashNode) r m.rightBelow
  rw [show HashTree.foldPath H.hashNode l m.leftBelow = _ from m.opensLeft.foldPath_eq] at hleft
  rw [show HashTree.foldPath H.hashNode r m.rightBelow = _ from m.opensRight.foldPath_eq] at hright
  rw [m.climb_left, m.climb_right, hleft, hright, List.append_assoc, List.append_assoc,
    List.singleton_append, List.singleton_append, List.sharedSuffix_append hne,
    HashTree.climb_length]

theorem sharedSuffixEntries_above (m : t.Meeting H.hashNode l r p q) :
    sharedSuffixEntries m.above.length (p.map pathEntry) (q.map pathEntry) =
      .ok (m.above.map pathEntry) := by
  have hp := drop_map_append pathEntry m.leftBelow (false, m.right.digest H.hashNode) m.above
  have hq := drop_map_append pathEntry m.rightBelow (true, m.left.digest H.hashNode) m.above
  rw [← m.left_path] at hp
  rw [← m.right_path] at hq
  unfold sharedSuffixEntries
  split
  · have hsame : ∀ e ∈ (m.above.map pathEntry).zip (m.above.map pathEntry),
        e.1.dir = e.2.dir ∧ e.1.sibling = e.2.sibling := by
      intro e he
      rw [List.zip, List.zipWith_self, List.mem_map] at he
      obtain ⟨entry, _, rfl⟩ := he
      exact ⟨rfl, rfl⟩
    have hdirs : ∀ e ∈ m.above.map pathEntry, e.dir ≤ 1 := by
      intro e he
      obtain ⟨step, _, rfl⟩ := List.mem_map.mp he
      exact pathEntry_dir_le step
    simp only [hp, hq, Except.bind_eq_ok, Except.ensure_eq_ok, Except.pure_eq_ok]
    exact ⟨(), trivial, (), hsame, (), hdirs, trivial⟩
  · next hshared =>
      rw [List.length_eq_zero_iff.mp (by omega : m.above.length = 0)]
      rfl

theorem splitIntervalPaths_meeting (m : t.Meeting H.hashNode l r p q)
    (hne : m.left.digest H.hashNode ≠ m.right.digest H.hashNode)
    (hleft : m.leftBelow.length + 1 < 256) (hright : m.rightBelow.length + 1 < 256) :
    splitIntervalPaths H l (p.map pathEntry) r (q.map pathEntry) (t.digest H.hashNode) =
      .ok ⟨m.leftBelow.map pathEntry, m.rightBelow.map pathEntry, m.above.map pathEntry,
        ⟨_, hleft⟩, ⟨_, hright⟩⟩ := by
  have htakeLeft := take_map_append pathEntry m.leftBelow (false, m.right.digest H.hashNode) m.above
  have htakeRight := take_map_append pathEntry m.rightBelow (true, m.left.digest H.hashNode) m.above
  rw [← m.left_path] at htakeLeft
  rw [← m.right_path] at htakeRight
  have hlast : ∀ {x : Bytes32} {steps : List (Bool × Bytes32)},
      t.Opens H.hashNode (.leaf x) steps →
        (HashTree.climb H.hashNode x steps).getLast? = some (t.digest H.hashNode) := by
    intro x steps ho
    obtain ⟨below, hbelow⟩ := HashTree.climb_eq_concat (h := H.hashNode) x steps
    rw [hbelow, show HashTree.foldPath H.hashNode x steps = _ from ho.foldPath_eq]
    simp
  have hlenLeft : m.above.length + 1 ≤ (p.map pathEntry).length := by
    rw [List.length_map, congrArg List.length m.left_path]
    simp
  have hlenRight : m.above.length + 1 ≤ (q.map pathEntry).length := by
    rw [List.length_map, congrArg List.length m.right_path]
    simp
  simp only [splitIntervalPaths, buildChain_map, Except.ok_bind, hlast m.opens_left_path,
    hlast m.opens_right_path, Except.ofOption, sharedSuffix_climbs m hne, htakeLeft, htakeRight,
    Nat.add_sub_cancel, sharedSuffixEntries_above m, lcaHeight_map hleft, lcaHeight_map hright,
    Except.bind_eq_ok, Except.ensure_eq_ok]
  exact ⟨(), ⟨trivial, trivial⟩, (), Nat.succ_ne_zero _, (), ⟨hlenLeft, hlenRight⟩, rfl⟩

end Split

section Bounds
variable {leaves : List Bytes32} {query l r : Bytes32}

theorem intervalBounds_eq (leaves : List Bytes32) (query : Bytes32) :
    intervalBounds leaves query =
      ((leaves.takeWhile (· < query)).getLast?, (leaves.dropWhile (· < query)).head?) := by
  have hsplit := List.takeWhile_append_dropWhile (p := fun leaf => decide (leaf < query)) (l := leaves)
  have hafter : leaves[(leaves.takeWhile (· < query)).length]? =
      (leaves.dropWhile (· < query)).head? := by
    nth_rewrite 1 [← hsplit]
    rw [List.getElem?_append_right (Nat.le_refl _), Nat.sub_self, List.head?_eq_getElem?]
  simp only [intervalBounds, hafter, Prod.mk.injEq, and_true]
  split
  · next hpos =>
      nth_rewrite 1 [← hsplit]
      rw [List.getElem?_append_left (by omega), List.getLast?_eq_getElem?]
  · next hpos =>
      have hnil : leaves.takeWhile (· < query) = [] := List.length_eq_zero_iff.mp (by omega)
      rw [hnil]
      rfl

theorem left_bound (h : (intervalBounds leaves query).1 = some l) : l ∈ leaves ∧ l < query := by
  rw [intervalBounds_eq] at h
  have hmem := List.mem_of_getLast? h
  have hlt := List.all_eq_true.mp List.all_takeWhile l hmem
  exact ⟨(List.takeWhile_sublist _).subset hmem, by simpa using hlt⟩

theorem right_bound (habsent : query ∉ leaves) (h : (intervalBounds leaves query).2 = some r) :
    r ∈ leaves ∧ query < r := by
  rw [intervalBounds_eq] at h
  replace h : (leaves.dropWhile (· < query)).head? = some r := h
  have hmem : r ∈ leaves := (List.dropWhile_sublist _).subset (List.mem_of_head? h)
  refine ⟨hmem, ?_⟩
  have hnot : ¬ r < query := by
    have hhead := List.head?_dropWhile_not (fun leaf => decide (leaf < query)) leaves
    rw [h] at hhead
    simpa using hhead
  exact lt_of_le_of_ne (not_lt.mp hnot) (fun heq => habsent (heq ▸ hmem))

theorem left_bound_last (hl : (intervalBounds leaves query).1 = some l)
    (hr : (intervalBounds leaves query).2 = none) : ∃ before, leaves = before ++ [l] := by
  rw [intervalBounds_eq] at hl hr
  have hall : leaves.takeWhile (· < query) = leaves := by
    have hsplit := List.takeWhile_append_dropWhile (p := fun leaf => decide (leaf < query))
      (l := leaves)
    rwa [List.head?_eq_none_iff.mp hr, List.append_nil] at hsplit
  rw [hall] at hl
  obtain ⟨before, hbefore⟩ := List.getLast?_eq_some_iff.mp hl
  exact ⟨before, hbefore⟩

theorem right_bound_first (hl : (intervalBounds leaves query).1 = none)
    (hr : (intervalBounds leaves query).2 = some r) : ∃ after, leaves = r :: after := by
  rw [intervalBounds_eq] at hl hr
  have hall : leaves.dropWhile (· < query) = leaves := by
    have hsplit := List.takeWhile_append_dropWhile (p := fun leaf => decide (leaf < query))
      (l := leaves)
    rwa [List.getLast?_eq_none_iff.mp hl, List.nil_append] at hsplit
  rw [hall] at hr
  obtain ⟨after, hafter⟩ := List.head?_eq_some_iff.mp hr
  exact ⟨after, hafter⟩

theorem bounds_ne_none (hne : leaves ≠ []) : intervalBounds leaves query ≠ (none, none) := by
  rw [intervalBounds_eq]
  intro h
  obtain ⟨hl, hr⟩ := Prod.mk.injEq _ _ _ _ ▸ h
  have hsplit := List.takeWhile_append_dropWhile (p := fun leaf => decide (leaf < query))
    (l := leaves)
  rw [List.getLast?_eq_none_iff.mp hl, List.head?_eq_none_iff.mp hr] at hsplit
  exact hne hsplit.symm

end Bounds

def boundAnchor (H : MerkleHash) (parentLeaves : List Bytes32) (parentRoot : Bytes32) :
    Option Bytes32 → Except CityGError (Option RawMembershipWitness)
  | none => pure none
  | some leaf => do
    let path ← canonicalMembershipPath H parentLeaves leaf
    pure (some ⟨leaf.val, parentRoot.val, path⟩)

def Names (pool : List RawMembershipWitness) : Option Nat → Option RawMembershipWitness → Prop
  | none, none => True
  | some idx, some anchor => pool[idx]? = some anchor
  | _, _ => False

/-- The verifier reads paths of at most `maxMerkleDepth` steps, and at most as many
steps below and above the node in which the paths of two bounds meet. -/
structure WithinDepthLimits (H : MerkleHash) (leaves : List Bytes32) (query : Bytes32) : Prop where
  path : ∀ bound path, (intervalBounds leaves query).1 = some bound ∨
      (intervalBounds leaves query).2 = some bound →
    canonicalMembershipPath H leaves bound = .ok path → path.length ≤ maxMerkleDepth
  interval : ∀ l r leftPath rightPath, intervalBounds leaves query = (some l, some r) →
    canonicalMembershipPath H leaves l = .ok leftPath →
    canonicalMembershipPath H leaves r = .ok rightPath →
    let shared := List.sharedSuffix leftPath rightPath
    (leftPath.length - (shared + 1)) + (rightPath.length - (shared + 1)) + shared ≤ 64

section Accepted
variable {H : MerkleHash} {leaves : List Bytes32} {root query l r : Bytes32}
  {t : HashTree Bytes32} {p q : List (Bool × Bytes32)} {pool : List RawMembershipWitness}

theorem validateMembershipAgainst_opens {leaf : Bytes32} (ho : t.Opens H.hashNode (.leaf leaf) p)
    (hroot : t.digest H.hashNode = root) (hlen : p.length ≤ maxMerkleDepth) :
    validateMembershipAgainst H ⟨leaf.val, root.val, p.map pathEntry⟩ root =
      .ok ⟨leaf, root, p.map checkedStep⟩ := by
  have hclimb : applyPath H leaf (p.map checkedStep) = root := by
    rw [applyPath_map, ← hroot]
    exact ho.foldPath_eq
  simp only [validateMembershipAgainst, toArray32_val, validatePath_map hlen, Except.ok_bind,
    Except.bind_eq_ok, Except.ensure_eq_ok]
  exact ⟨(), trivial, (), hclimb, rfl⟩

def Anchored (H : MerkleHash) (leaves : List Bytes32) (root : Bytes32) (bound : Option Bytes32)
    (checked : Option ValidatedMembership) : Prop :=
  ∃ anchor, boundAnchor H leaves root bound = .ok anchor ∧ ∀ pool ref, Names pool ref anchor →
    validateAnchorReference H pool root (bound.map Subtype.val) ref = .ok checked

theorem anchored_none : Anchored H leaves root none none := by
  refine ⟨none, rfl, fun pool ref href => ?_⟩
  cases ref with
  | none => rfl
  | some idx => exact href.elim

theorem anchored_some (ho : t.Opens H.hashNode (.leaf l) p) (hroot : t.digest H.hashNode = root)
    (hlen : p.length ≤ maxMerkleDepth)
    (hpath : canonicalMembershipPath H leaves l = .ok (p.map pathEntry)) :
    Anchored H leaves root (some l) (some ⟨l, root, p.map checkedStep⟩) := by
  refine ⟨some ⟨l.val, root.val, p.map pathEntry⟩, ?_, fun pool ref href => ?_⟩
  · rw [boundAnchor, hpath]
    rfl
  cases ref with
  | none => exact href.elim
  | some idx =>
    replace href : pool[idx]? = _ := href
    simp only [validateAnchorReference, Option.map_some, href, Except.ofOption,
      validateMembershipAgainst_opens ho hroot hlen, Except.mapError, Except.ok_bind,
      Except.bind_eq_ok, Except.ensure_eq_ok, List.length_map]
    exact ⟨(), l.property, (), ⟨l.property, root.property⟩, (), hlen, (), ⟨trivial, trivial⟩, rfl⟩

theorem validateAnchoredNonmemArray_single {anchor : AnchoredNonMembership}
    {entry : ValidatedNonMembership} {leftAnchor rightAnchor : Option ValidatedMembership}
    {conflict : FreezeError} (hentry : validateNonmembershipAgainst H anchor.witness root = .ok entry)
    (hleft : validateAnchorReference H pool root anchor.witness.left anchor.leftRef = .ok leftAnchor)
    (hright : validateAnchorReference H pool root anchor.witness.right anchor.rightRef =
      .ok rightAnchor)
    (hadj : verifyAnchoredAdjacency entry leftAnchor rightAnchor = .ok ()) :
    validateAnchoredNonmemArray H [anchor] pool root conflict = .ok [entry] := by
  simp only [validateAnchoredNonmemArray, validateAnchoredNonmemFrom, hentry, hleft, hright, hadj,
    Except.mapError, Except.ok_bind, Except.bind_eq_ok, Except.ensure_eq_ok]
  exact ⟨(), List.not_mem_nil, [], rfl, rfl⟩

theorem validateBound_val {inOrder : Bytes → Bool} {b : Bytes32} (h : inOrder b.val = true) :
    validateBound inOrder (some b.val) = .ok (some b) := by
  simp only [validateBound, toArray32_val, Except.bind_eq_ok, Except.ensure_eq_ok,
    Except.map_eq_ok]
  exact ⟨(), b.property, (), h, b, rfl, rfl⟩

theorem validateNonmembershipAgainst_meeting (m : t.Meeting H.hashNode l r p q)
    (hroot : t.digest H.hashNode = root) (hl : l < query) (hr : query < r)
    (hdepth : m.leftBelow.length + m.rightBelow.length + m.above.length ≤ 64)
    (hleft : m.leftBelow.length + 1 < 256) (hright : m.rightBelow.length + 1 < 256) :
    validateNonmembershipAgainst H (intervalNonmem H root query l r
        ⟨m.leftBelow.map pathEntry, m.rightBelow.map pathEntry, m.above.map pathEntry,
          ⟨_, hleft⟩, ⟨_, hright⟩⟩) root =
      .ok ⟨query, root, some l, some r, []⟩ := by
  have hfoldLeft : HashTree.foldPath H.hashNode l m.leftBelow = _ := m.opensLeft.foldPath_eq
  have hfoldRight : HashTree.foldPath H.hashNode r m.rightBelow = _ := m.opensRight.foldPath_eq
  have hfoldAbove : HashTree.foldPath H.hashNode _ m.above = _ := m.opensNode.foldPath_eq
  have hboundLeft : validateBound (fun left => decide (left < query.val)) (some l.val) =
      .ok (some l) := validateBound_val (decide_eq_true hl)
  have hboundRight : validateBound (fun right => decide (query.val < right)) (some r.val) =
      .ok (some r) := validateBound_val (decide_eq_true hr)
  refine Except.ensure_bind_of query.property ?_
  refine Except.bind_of (toArray32_val root) ?_
  refine Except.ensure_bind_of rfl ?_
  refine Except.bind_of hboundLeft ?_
  refine Except.bind_of hboundRight ?_
  refine Except.ensure_bind_of (hl.trans hr) ?_
  refine Except.bind_of rfl ?_
  simp only [validateTwoBounds, intervalNonmem, Except.ofOption, Except.ok_bind, toArray32_val,
    foldExtendedAnchor_map, hfoldLeft, hfoldRight, List.length_map, Except.bind_eq_ok,
    Except.ensure_eq_ok]
  exact ⟨(), trivial, (), ⟨trivial, trivial⟩, (), hdepth, (), hfoldAbove.trans hroot, (), trivial, rfl⟩

theorem validateNonmembershipAgainst_left (hclimb : applyPath H l (p.map checkedStep) = root)
    (hlen : p.length ≤ maxMerkleDepth) (hl : l < query) :
    validateNonmembershipAgainst H
        { sentinelNonmem root query with left := some l.val, path := p.map pathEntry } root =
      .ok ⟨query, root, some l, none, p.map checkedStep⟩ := by
  refine Except.ensure_bind_of query.property ?_
  refine Except.bind_of (toArray32_val root) ?_
  refine Except.ensure_bind_of rfl ?_
  refine Except.bind_of (validateBound_val (decide_eq_true hl)) ?_
  refine Except.bind_of rfl ?_
  refine Except.bind_of (validatePath_map hlen) ?_
  refine Except.ensure_bind_of hclimb ?_
  exact Except.bind_of (toArray32_val query) rfl

theorem validateNonmembershipAgainst_right (hclimb : applyPath H r (p.map checkedStep) = root)
    (hlen : p.length ≤ maxMerkleDepth) (hr : query < r) :
    validateNonmembershipAgainst H
        { sentinelNonmem root query with right := some r.val, path := p.map pathEntry } root =
      .ok ⟨query, root, none, some r, p.map checkedStep⟩ := by
  refine Except.ensure_bind_of query.property ?_
  refine Except.bind_of (toArray32_val root) ?_
  refine Except.ensure_bind_of rfl ?_
  refine Except.bind_of rfl ?_
  refine Except.bind_of (validateBound_val (decide_eq_true hr)) ?_
  refine Except.bind_of (validatePath_map hlen) ?_
  refine Except.ensure_bind_of hclimb ?_
  exact Except.bind_of (toArray32_val query) rfl

/-- What the client builds for a query is accepted, wherever its anchors stand in the pool. -/
def ProvesAbsent (H : MerkleHash) (leaves : List Bytes32) (root query : Bytes32)
    (conflict : FreezeError) : Prop :=
  ∃ witness left right leftAnchor rightAnchor,
    parentNonmemWitness H leaves root query = .ok (witness, left, right) ∧
    boundAnchor H leaves root left = .ok leftAnchor ∧
    boundAnchor H leaves root right = .ok rightAnchor ∧
    ∀ pool leftRef rightRef, Names pool leftRef leftAnchor → Names pool rightRef rightAnchor →
      ∃ entry, validateAnchoredNonmemArray H [⟨witness, leftRef, rightRef⟩] pool root conflict =
          .ok [entry] ∧ entry.query = query ∧ ensureNonmemCoverage [query] [entry] = .ok ()

theorem provesAbsent_of {witness : RawNonMembershipWitness} {left right : Option Bytes32}
    {leftAnchor rightAnchor : Option ValidatedMembership} {entry : ValidatedNonMembership}
    (hbuild : parentNonmemWitness H leaves root query = .ok (witness, left, right))
    (hwitness : witness.left = left.map Subtype.val ∧ witness.right = right.map Subtype.val)
    (hleft : Anchored H leaves root left leftAnchor)
    (hright : Anchored H leaves root right rightAnchor)
    (hentry : validateNonmembershipAgainst H witness root = .ok entry)
    (hadj : verifyAnchoredAdjacency entry leftAnchor rightAnchor = .ok ())
    (hquery : entry.query = query) (hcontains : intervalContains entry query = true)
    (conflict : FreezeError) : ProvesAbsent H leaves root query conflict := by
  obtain ⟨leftRaw, hbuildLeft, hreadLeft⟩ := hleft
  obtain ⟨rightRaw, hbuildRight, hreadRight⟩ := hright
  refine ⟨witness, left, right, leftRaw, rightRaw, hbuild, hbuildLeft, hbuildRight, ?_⟩
  intro pool leftRef rightRef hrefLeft hrefRight
  refine ⟨entry, validateAnchoredNonmemArray_single hentry ?_ ?_ hadj, hquery, ?_⟩
  · exact hwitness.1 ▸ hreadLeft pool leftRef hrefLeft
  · exact hwitness.2 ▸ hreadRight pool rightRef hrefRight
  · exact Except.ensure_eq_ok.mpr (by simpa using hcontains)

theorem provesAbsent_empty (H : MerkleHash) (query : Bytes32) (conflict : FreezeError) :
    ProvesAbsent H [] .zero query conflict := by
  have hentry : validateNonmembershipAgainst H (sentinelNonmem .zero query) .zero =
      .ok ⟨query, .zero, none, none, []⟩ := by
    refine Except.ensure_bind_of query.property ?_
    refine Except.bind_of (toArray32_val .zero) ?_
    refine Except.ensure_bind_of rfl ?_
    refine Except.bind_of rfl ?_
    refine Except.bind_of rfl ?_
    refine Except.bind_of rfl ?_
    refine Except.bind_of rfl ?_
    refine Except.ensure_bind_of (by decide) ?_
    exact Except.bind_of (toArray32_val query) rfl
  exact provesAbsent_of rfl ⟨rfl, rfl⟩ anchored_none anchored_none hentry rfl rfl
    ((Bytes32.isZero_iff _).mpr rfl) conflict

structure OrderedTree (H : MerkleHash) (leaves : List Bytes32) (root : Bytes32)
    (t : HashTree Bytes32) : Prop where
  built : HashTree.ofLeaves leaves = some t
  leaves_eq : t.leaves = leaves
  digest_eq : t.digest H.hashNode = root
  sorted : leaves.Pairwise (· < ·)

theorem OrderedTree.nodup (ht : OrderedTree H leaves root t) : t.leaves.Nodup := by
  rw [ht.leaves_eq]
  exact ht.sorted.imp fun hlt => ne_of_lt hlt

theorem OrderedTree.opened (ht : OrderedTree H leaves root t) (hdepth : WithinDepthLimits H leaves query)
    (hbound : (intervalBounds leaves query).1 = some l ∨ (intervalBounds leaves query).2 = some l)
    (hmem : l ∈ leaves) :
    ∃ p, canonicalMembershipPath H leaves l = .ok (p.map pathEntry) ∧
      t.Opens H.hashNode (.leaf l) p ∧ p.length ≤ maxMerkleDepth ∧
      applyPath H l (p.map checkedStep) = root := by
  obtain ⟨p, hpath, hopens, _⟩ := canonicalMembershipPath_opens H hmem ht.built
  refine ⟨p, hpath, hopens, by simpa using hdepth.path l _ hbound hpath, ?_⟩
  rw [applyPath_map, ← ht.digest_eq]
  exact hopens.foldPath_eq

theorem checkedStep_dirs (right : Bool) (hdirs : ∀ step ∈ p, step.1 = right) :
    ∀ e ∈ p.map checkedStep, e.1 = if right then 1 else 0 := by
  intro e he
  obtain ⟨step, hstep, rfl⟩ := List.mem_map.mp he
  simp [checkedStep, hdirs step hstep]

theorem provesAbsent_left (ht : OrderedTree H leaves root t)
    (hbounds : intervalBounds leaves query = (some l, none))
    (hdepth : WithinDepthLimits H leaves query) (conflict : FreezeError) :
    ProvesAbsent H leaves root query conflict := by
  have hfst : (intervalBounds leaves query).1 = some l := by rw [hbounds]
  have hsnd : (intervalBounds leaves query).2 = none := by rw [hbounds]
  obtain ⟨hmem, hlt⟩ := left_bound hfst
  obtain ⟨before, hlast⟩ := left_bound_last hfst hsnd
  obtain ⟨p, hpath, hopens, hlen, hclimb⟩ := ht.opened hdepth (.inl hfst) hmem
  have hdirs := hopens.right_of_last ht.nodup (ht.leaves_eq.trans hlast)
  refine provesAbsent_of ?_ ⟨rfl, rfl⟩ (anchored_some hopens ht.digest_eq hlen hpath) anchored_none
    (validateNonmembershipAgainst_left hclimb hlen hlt) ?_ rfl ?_ conflict
  · rw [parentNonmemWitness, if_neg (List.ne_nil_of_mem hmem), hbounds]
    simp only [hpath, Except.ok_bind]
    rfl
  · simp only [verifyAnchoredAdjacency, verifyAnchoredBound, Except.bind_eq_ok, Except.ensure_eq_ok]
    exact ⟨(), rfl, (), rfl, (), checkedStep_dirs true hdirs, trivial⟩
  · simpa [intervalContains] using hlt

theorem provesAbsent_right (ht : OrderedTree H leaves root t) (habsent : query ∉ leaves)
    (hbounds : intervalBounds leaves query = (none, some r))
    (hdepth : WithinDepthLimits H leaves query) (conflict : FreezeError) :
    ProvesAbsent H leaves root query conflict := by
  have hfst : (intervalBounds leaves query).1 = none := by rw [hbounds]
  have hsnd : (intervalBounds leaves query).2 = some r := by rw [hbounds]
  obtain ⟨hmem, hlt⟩ := right_bound habsent hsnd
  obtain ⟨after, hfirst⟩ := right_bound_first hfst hsnd
  obtain ⟨p, hpath, hopens, hlen, hclimb⟩ := ht.opened hdepth (.inr hsnd) hmem
  have hdirs := hopens.left_of_first ht.nodup (ht.leaves_eq.trans hfirst)
  refine provesAbsent_of ?_ ⟨rfl, rfl⟩ anchored_none (anchored_some hopens ht.digest_eq hlen hpath)
    (validateNonmembershipAgainst_right hclimb hlen hlt) ?_ rfl ?_ conflict
  · rw [parentNonmemWitness, if_neg (List.ne_nil_of_mem hmem), hbounds]
    simp only [hpath, Except.ok_bind]
    rfl
  · simp only [verifyAnchoredAdjacency, verifyAnchoredBound, Except.bind_eq_ok, Except.ensure_eq_ok]
    exact ⟨(), rfl, (), rfl, (), checkedStep_dirs false hdirs, trivial⟩
  · simpa [intervalContains] using hlt

theorem sharedSuffix_paths (m : t.Meeting H.hashNode l r p q) :
    List.sharedSuffix (p.map pathEntry) (q.map pathEntry) = m.above.length := by
  have hne : pathEntry (false, m.right.digest H.hashNode) ≠
      pathEntry (true, m.left.digest H.hashNode) := by
    intro heq
    have hdir : (0 : Byte) = 1 := congrArg RawPathEntry.dir heq
    exact absurd hdir (by decide)
  have hp := congrArg (List.map pathEntry) m.left_path
  have hq := congrArg (List.map pathEntry) m.right_path
  rw [List.map_append, List.map_cons] at hp hq
  rw [hp, hq, List.sharedSuffix_append hne, List.length_map]

theorem provesAbsent_between (ht : OrderedTree H leaves root t) (habsent : query ∉ leaves)
    (hbounds : intervalBounds leaves query = (some l, some r))
    (hdepth : WithinDepthLimits H leaves query) (hinj : t.InjectiveOn H.hashNode)
    (hfresh : ∀ c ∈ t.children,
      H.hashNode (c.1.digest H.hashNode) (c.2.digest H.hashNode) ∉ t.leaves)
    (conflict : FreezeError) : ProvesAbsent H leaves root query conflict := by
  have hfst : (intervalBounds leaves query).1 = some l := by rw [hbounds]
  have hsnd : (intervalBounds leaves query).2 = some r := by rw [hbounds]
  obtain ⟨hmemL, hltL⟩ := left_bound hfst
  obtain ⟨hmemR, hltR⟩ := right_bound habsent hsnd
  obtain ⟨p, hpathL, hopensL, hlenL, _⟩ := ht.opened hdepth (.inl hfst) hmemL
  obtain ⟨q, hpathR, hopensR, hlenR, _⟩ := ht.opened hdepth (.inr hsnd) hmemR
  have hlt : l < r := hltL.trans hltR
  have hsorted : t.leaves.Pairwise (· < ·) := ht.leaves_eq ▸ ht.sorted
  obtain ⟨m⟩ := HashTree.Opens.meeting hsorted hlt.ne hlt.asymm hopensL hopensR
  -- The children of the meeting node are told apart by their digests.
  have hchildren : m.left.digest H.hashNode ≠ m.right.digest H.hashNode := by
    have hsub := m.opensNode.children_subset
    have hleaves := m.opensNode.leaves_sublist
    refine HashTree.digest_ne_of_disjoint hinj hfresh ?_ ?_ (ht.nodup.sublist hleaves) ?_ ?_
    · exact fun c hc => hsub (List.mem_cons_of_mem _ (List.mem_append_left _ hc))
    · exact fun c hc => hsub (List.mem_cons_of_mem _ (List.mem_append_right _ hc))
    · exact fun c hc => hleaves.subset (List.mem_append_left _ hc)
    · exact fun c hc => hleaves.subset (List.mem_append_right _ hc)
  have hp : p.length = m.leftBelow.length + (m.above.length + 1) := by
    simpa using congrArg List.length m.left_path
  have hq : q.length = m.rightBelow.length + (m.above.length + 1) := by
    simpa using congrArg List.length m.right_path
  have htotal : m.leftBelow.length + m.rightBelow.length + m.above.length ≤ 64 := by
    have hinterval := hdepth.interval l r _ _ hbounds hpathL hpathR
    rw [sharedSuffix_paths m, List.length_map, List.length_map] at hinterval
    omega
  have hleft : m.leftBelow.length + 1 < 256 := by omega
  have hright : m.rightBelow.length + 1 < 256 := by omega
  obtain ⟨split, hsplit, hvalid⟩ : ∃ split,
      splitIntervalPaths H l (p.map pathEntry) r (q.map pathEntry) root = .ok split ∧
      validateNonmembershipAgainst H (intervalNonmem H root query l r split) root =
        .ok ⟨query, root, some l, some r, []⟩ := by
    have hsplit := splitIntervalPaths_meeting m hchildren hleft hright
    rw [ht.digest_eq] at hsplit
    exact ⟨_, hsplit,
      validateNonmembershipAgainst_meeting m ht.digest_eq hltL hltR htotal hleft hright⟩
  refine provesAbsent_of ?_ ⟨rfl, rfl⟩ (anchored_some hopensL ht.digest_eq hlenL hpathL)
    (anchored_some hopensR ht.digest_eq hlenR hpathR) hvalid ?_ rfl ?_ conflict
  · rw [parentNonmemWitness, if_neg (List.ne_nil_of_mem hmemL), hbounds]
    simp only [hpathL, hpathR, hsplit, Except.ok_bind]
    rfl
  · simp only [verifyAnchoredAdjacency, verifyAnchoredBound, Except.bind_eq_ok, Except.ensure_eq_ok]
    exact ⟨(), rfl, (), rfl, hltL, hltR⟩
  · simpa [intervalContains] using ⟨hltL, hltR⟩

end Accepted

/-- The hash does not merge two nodes of the tree over the set. -/
def SetInjective (H : MerkleHash) (leaves : List Bytes32) : Prop :=
  ∀ t, HashTree.ofLeaves leaves = some t → t.InjectiveOn H.hashNode

/-- No leaf of the set is the digest of an inner node of the tree over the set. -/
def LeavesApart (H : MerkleHash) (leaves : List Bytes32) : Prop :=
  ∀ t, HashTree.ofLeaves leaves = some t → ∀ c ∈ t.children,
    H.hashNode (c.1.digest H.hashNode) (c.2.digest H.hashNode) ∉ leaves

variable {H : MerkleHash} {leaves : List Bytes32}

theorem SetInjective.of_binding (hbind : SetBinding H leaves) : SetInjective H leaves :=
  fun t ht => (hbind t ht).injectiveOn

theorem LeavesApart.of_binding {root : Bytes32} (hroot : canonicalSetRoot H leaves = .ok root)
    (hbind : SetBinding H leaves) :
    LeavesApart H leaves := by
  intro t ht c _ hmem
  have hne : leaves ≠ [] := List.ne_nil_of_mem hmem
  obtain ⟨t', ht', hleaves, _⟩ := canonicalSetRoot_tree H hne hroot
  obtain rfl : t' = t := Option.some.inj (ht'.symm.trans ht)
  exact (hbind t' ht).leaf_ne _ (hleaves ▸ hmem) _ _ rfl

theorem withinDepthLimits_of_length (H : MerkleHash) {query : Bytes32} (habsent : query ∉ leaves)
    (hlen : leaves.length ≤ 2 ^ 33) :
    WithinDepthLimits H leaves query := by
  have hshort : ∀ bound path, bound ∈ leaves →
      canonicalMembershipPath H leaves bound = .ok path → path.length ≤ 33 := by
    intro bound path hmem hpath
    obtain ⟨t, ht, _, _⟩ := HashTree.reduceLevels_tree H.hashNode leaves (List.length_pos_of_mem hmem)
    obtain ⟨steps, hsteps, _, hshort⟩ := canonicalMembershipPath_opens H hmem ht
    obtain rfl : steps.map pathEntry = path := Except.ok.inj (hsteps.symm.trans hpath)
    simpa using hshort 33 hlen
  constructor
  · intro bound path hbound hpath
    have hmem : bound ∈ leaves :=
      hbound.elim (fun h => (left_bound h).1) (fun h => (right_bound habsent h).1)
    exact (hshort bound path hmem hpath).trans (by decide)
  · intro l r leftPath rightPath hbounds hleft hright
    have hl := hshort l leftPath (left_bound (congrArg Prod.fst hbounds)).1 hleft
    have hr := hshort r rightPath (right_bound habsent (congrArg Prod.snd hbounds)).1 hright
    have hshared := List.sharedSuffix_le leftPath rightPath
    dsimp only
    omega

theorem provesAbsent_of_root {root query : Bytes32} (hsorted : leaves.Pairwise (· < ·))
    (hroot : canonicalSetRoot H leaves = .ok root) (habsent : query ∉ leaves)
    (hdepth : WithinDepthLimits H leaves query) (hinj : SetInjective H leaves)
    (hapart : LeavesApart H leaves) (conflict : FreezeError) :
    ProvesAbsent H leaves root query conflict := by
  by_cases hne : leaves = []
  · subst hne
    obtain rfl : Bytes32.zero = root := Except.ok.inj hroot
    exact provesAbsent_empty H query conflict
  · obtain ⟨t, hbuilt, hleaves, hdigest⟩ := canonicalSetRoot_tree H hne hroot
    have ht : OrderedTree H leaves root t := ⟨hbuilt, hleaves, hdigest, hsorted⟩
    match hbounds : intervalBounds leaves query with
    | (some l, some r) =>
      exact provesAbsent_between ht habsent hbounds hdepth (hinj t hbuilt)
        (hleaves.symm ▸ hapart t hbuilt) conflict
    | (some l, none) => exact provesAbsent_left ht hbounds hdepth conflict
    | (none, some r) => exact provesAbsent_right ht habsent hbounds hdepth conflict
    | (none, none) => exact absurd hbounds (bounds_ne_none hne)

/-- An absent leaf can be shown absent: whatever the size of the set and wherever
the query falls, the witness and the anchors that the client builds are accepted
against the root of the set. -/
theorem parentNonmemWitness_accepted (H : MerkleHash) (leaves : List Bytes32)
    (root query : Bytes32) (conflict : FreezeError) (hsorted : leaves.Pairwise (· < ·))
    (hroot : canonicalSetRoot H leaves = .ok root) (habsent : query ∉ leaves)
    (hdepth : WithinDepthLimits H leaves query) (hinj : SetInjective H leaves)
    (hapart : LeavesApart H leaves) : ProvesAbsent H leaves root query conflict :=
  provesAbsent_of_root hsorted hroot habsent hdepth hinj hapart conflict

def betweenLeaves : Bytes32 := ⟨2 :: List.replicate 31 3, by simp⟩

theorem parentNonmemWitness_accepted_threeLeaves :
    canonicalSetRoot threeLeafHash threeLeaves = .ok (Bytes32.fill 11) ∧
    ProvesAbsent threeLeafHash threeLeaves (Bytes32.fill 11) betweenLeaves
      freezeSrxSetConflictParent := by
  have hroot : canonicalSetRoot threeLeafHash threeLeaves = .ok (Bytes32.fill 11) := by decide
  have habsent : betweenLeaves ∉ threeLeaves := by decide
  exact ⟨hroot, parentNonmemWitness_accepted threeLeafHash threeLeaves (Bytes32.fill 11)
    betweenLeaves freezeSrxSetConflictParent (by decide) hroot habsent
    (withinDepthLimits_of_length threeLeafHash habsent (by decide))
    (.of_binding threeLeaves_binding) (.of_binding hroot threeLeaves_binding)⟩

def leafDigestHash : MerkleHash where
  hashNode x y :=
    if x = Bytes32.fill 1 ∧ y = Bytes32.fill 2 then Bytes32.fill 3
    else if x = Bytes32.fill 3 ∧ y = Bytes32.fill 3 then Bytes32.fill 11
    else Bytes32.fill 12
  hashIntervalBinding _ _ _ _ _ _ := Bytes32.fill 13

/-- No node of the tree has a second preimage, but its root has two children with the
same digest, an inner node and a leaf. The client takes them for one node, finds the
paths too short and builds no witness. -/
theorem parentNonmemWitness_leaf_is_digest :
    threeLeaves.Pairwise (· < ·) ∧
    canonicalSetRoot leafDigestHash threeLeaves = .ok (Bytes32.fill 11) ∧
    (∀ t, HashTree.ofLeaves threeLeaves = some t → ∀ c ∈ t.children, ∀ x y,
      leafDigestHash.hashNode x y = leafDigestHash.hashNode (c.1.digest leafDigestHash.hashNode)
        (c.2.digest leafDigestHash.hashNode) →
      x = c.1.digest leafDigestHash.hashNode ∧ y = c.2.digest leafDigestHash.hashNode) ∧
    betweenLeaves ∉ threeLeaves ∧ WithinDepthLimits leafDigestHash threeLeaves betweenLeaves ∧
    parentNonmemWitness leafDigestHash threeLeaves (Bytes32.fill 11) betweenLeaves =
      .error (.invalidInput "invalid LCA depth") := by
  have habsent : betweenLeaves ∉ threeLeaves := by decide
  refine ⟨by decide, by decide, ?_, habsent,
    withinDepthLimits_of_length leafDigestHash habsent (by decide), by decide⟩
  intro t ht
  obtain rfl : .node (.node (.leaf (Bytes32.fill 1)) (.leaf (Bytes32.fill 2)))
      (.leaf (Bytes32.fill 3)) = t := Option.some.inj ht
  have h1 : leafDigestHash.hashNode (Bytes32.fill 1) (Bytes32.fill 2) = Bytes32.fill 3 := by decide
  have h2 : leafDigestHash.hashNode (Bytes32.fill 3) (Bytes32.fill 3) = Bytes32.fill 11 := by decide
  have h3 : Bytes32.fill 3 ≠ Bytes32.fill 11 := by decide
  have h12 : Bytes32.fill 12 ≠ Bytes32.fill 11 := by decide
  have h12' : Bytes32.fill 12 ≠ Bytes32.fill 3 := by decide
  intro c hc x y hxy
  simp only [HashTree.children, List.append_nil, List.mem_cons, List.not_mem_nil, or_false] at hc
  rcases hc with rfl | rfl
  · simp only [HashTree.digest, h1, h2] at hxy ⊢
    simp only [leafDigestHash] at hxy
    split_ifs at hxy with ha hb
    · exact absurd hxy h3
    · exact hb
    · exact absurd hxy h12
  · simp only [HashTree.digest, h1] at hxy ⊢
    simp only [leafDigestHash] at hxy
    split_ifs at hxy with ha hb
    · exact ha
    · exact absurd hxy.symm h3
    · exact absurd hxy h12'

end CityG.Client
