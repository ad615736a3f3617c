import CityG.Srx

/-!
# What an accepted non-membership array shows

An accepted interval is compared with the set the root commits to. A bound that
is a leaf of the tree opens at its own position, so the directions on its path
say which members the interval can skip.
-/

namespace CityG

def ShowsOnlyAbsent (P : List Bytes32) (entries : List ValidatedNonMembership) : Prop :=
  ∀ leaves, ensureNonmemCoverage leaves entries = .ok () → ∀ leaf ∈ leaves, leaf ∉ P

theorem showsOnlyAbsent_iff (P : List Bytes32) (entries : List ValidatedNonMembership) :
    ShowsOnlyAbsent P entries ↔
      ∀ entry ∈ entries, ∀ a ∈ P, intervalContains entry a = false := by
  simp only [ShowsOnlyAbsent, ensureNonmemCoverage, Except.ensure_eq_ok]
  constructor
  · intro h entry hentry a ha
    by_contra hc
    have hcover : ∀ leaf ∈ [a], ∃ w ∈ entries, intervalContains w leaf = true := by
      intro leaf hleaf
      rw [List.mem_singleton.mp hleaf]
      exact ⟨entry, hentry, by simpa using hc⟩
    exact h [a] hcover a (by simp) ha
  · intro h leaves hcover leaf hleaf hP
    obtain ⟨w, hw, hcontains⟩ := hcover leaf hleaf
    rw [h w hw leaf hP] at hcontains
    cases hcontains

/-- One entry of the array together with what its acceptance checked. -/
structure EntryAccepted (H : MerkleHash) (pool : List RawMembershipWitness) (root : Bytes32)
    (anchor : AnchoredNonMembership) (entry : ValidatedNonMembership) : Prop where
  shown : NonMembershipShown H anchor.witness root entry
  adjacent : ∃ leftAnchor rightAnchor, verifyAnchoredAdjacency entry leftAnchor rightAnchor = .ok ()

variable {H : MerkleHash} {pool : List RawMembershipWitness} {root l r R a : Bytes32}
  {anchor : AnchoredNonMembership} {path : List (Byte × Bytes32)} {t : HashTree Bytes32}
  {P : List Bytes32}

theorem validateAnchoredNonmemFrom_accepted {conflict : FreezeError} {seen : List Bytes32}
    {arr : List AnchoredNonMembership} {entries : List ValidatedNonMembership}
    (h : validateAnchoredNonmemFrom H pool root conflict seen arr = .ok entries) :
    List.Forall₂ (EntryAccepted H pool root) arr entries := by
  induction arr generalizing seen entries with
  | nil =>
    simp only [validateAnchoredNonmemFrom, Except.pure_eq_ok] at h
    rw [← h]
    exact .nil
  | cons anchor rest ih =>
    simp only [validateAnchoredNonmemFrom, Except.bind_eq_ok, Except.mapError_eq_ok,
      Except.pure_eq_ok] at h
    obtain ⟨entry, hentry, _, _, la, _, ra, _, ⟨⟩, hadj, validated, hrest, rfl⟩ := h
    exact .cons ⟨validateNonmembershipAgainst_shown hentry, la, ra, hadj⟩ (ih hrest)

theorem EntryAccepted.bound_dirs {q : Bytes32} {left right : Option Bytes32}
    (h : EntryAccepted H pool root anchor ⟨q, root, left, right, path⟩)
    (hone : left.isSome = !right.isSome) : ∀ e ∈ path, e.1 = if left.isSome then 1 else 0 := by
  obtain ⟨la, ra, hadj⟩ := h.adjacent
  simp only [verifyAnchoredAdjacency, verifyAnchoredBound, Except.bind_eq_ok,
    Except.ensure_eq_ok] at hadj
  obtain ⟨_, rfl, _, rfl, hadj⟩ := hadj
  rcases la with _ | leftMem <;> rcases ra with _ | rightMem
  · cases hone
  · simp only [Except.bind_eq_ok, Except.ensure_eq_ok] at hadj
    obtain ⟨_, hdirs, rfl⟩ := hadj
    exact hdirs
  · simp only [Except.bind_eq_ok, Except.ensure_eq_ok] at hadj
    obtain ⟨_, hdirs, rfl⟩ := hadj
    exact hdirs
  · cases hone

section Sorted
variable {α : Type*} [LinearOrder α] {before mid after : List α} {a b : α}

theorem none_above_iff (hP : (before ++ [a] ++ after).Pairwise (· < ·)) :
    (∀ x ∈ before ++ [a] ++ after, ¬ a < x) ↔ after = [] := by
  simp only [List.pairwise_append, List.mem_append, List.mem_singleton] at hP
  obtain ⟨⟨_, _, hbefore⟩, _, hafter⟩ := hP
  constructor
  · intro h
    cases after with
    | nil => rfl
    | cons x rest => exact absurd (hafter a (.inr rfl) x (by simp)) (h x (by simp))
  · intro h x hx hax
    subst h
    simp only [List.mem_append, List.mem_singleton, List.not_mem_nil, or_false] at hx
    rcases hx with hx | rfl
    · exact lt_asymm hax (hbefore x hx a rfl)
    · exact lt_irrefl _ hax

theorem none_below_iff (hP : (before ++ [a] ++ after).Pairwise (· < ·)) :
    (∀ x ∈ before ++ [a] ++ after, ¬ x < a) ↔ before = [] := by
  simp only [List.pairwise_append, List.mem_append, List.mem_singleton] at hP
  obtain ⟨⟨_, _, hbefore⟩, _, hafter⟩ := hP
  constructor
  · intro h
    cases before with
    | nil => rfl
    | cons x rest => exact absurd (hbefore x (by simp) a rfl) (h x (by simp))
  · intro h x hx hxa
    subst h
    simp only [List.nil_append, List.mem_append, List.mem_singleton] at hx
    rcases hx with rfl | hx
    · exact lt_irrefl _ hxa
    · exact lt_asymm hxa (hafter a (.inr rfl) x hx)

theorem none_between_iff (hP : (before ++ [a] ++ mid ++ [b] ++ after).Pairwise (· < ·)) :
    (∀ x ∈ before ++ [a] ++ mid ++ [b] ++ after, ¬ (a < x ∧ x < b)) ↔ mid = [] := by
  simp only [List.pairwise_append, List.mem_append, List.mem_singleton] at hP
  obtain ⟨⟨⟨⟨_, _, hbefore⟩, _, hmid⟩, _, hmidb⟩, _, hafter⟩ := hP
  constructor
  · intro h
    cases mid with
    | nil => rfl
    | cons x rest =>
      have hax : a < x := hmid a (.inr rfl) x (by simp)
      have hxb : x < b := hmidb x (.inr (by simp)) b rfl
      exact absurd ⟨hax, hxb⟩ (h x (by simp))
  · intro h x hx hx'
    subst h
    simp only [List.append_nil, List.mem_append, List.mem_singleton] at hx
    rcases hx with ((hx | rfl) | rfl) | hx
    · exact lt_asymm hx'.1 (hbefore x hx a rfl)
    · exact lt_irrefl _ hx'.1
    · exact lt_irrefl _ hx'.2
    · exact lt_asymm hx'.2 (hafter b (.inr rfl) x hx)

end Sorted

def AnchoredNonMembership.IsSentinel (e : AnchoredNonMembership) : Prop :=
  e.witness.left = none ∧ e.witness.right = none

/-- With two bounds, the left one is the last leaf below its side of the node
where the two climbs meet, the right one the first leaf below the other side. -/
def AnchoredNonMembership.Adjacent (e : AnchoredNonMembership) : Prop :=
  e.witness.left.isSome → e.witness.right.isSome →
    (∀ x ∈ e.witness.leftBelow, x.dir = 1) ∧ ∀ x ∈ e.witness.rightBelow, x.dir = 0

def AnchoredNonMembership.LeafBounds (H : MerkleHash) (e : AnchoredNonMembership) : Prop :=
  ∀ b : Bytes32, e.witness.left = some b.val ∨ e.witness.right = some b.val →
    ∀ x y, H.hashNode x y ≠ b

theorem reads_dirs {path : List RawPathEntry} {steps : List (Bool × Bytes32)} (right : Bool)
    (h : List.Forall₂ RawPathEntry.Reads path steps) :
    (∀ e ∈ path, e.dir = if right then 1 else 0) ↔ ∀ step ∈ steps, step.1 = right := by
  induction h with
  | nil => simp
  | @cons entry step _ _ hstep _ ih =>
    have hdir : (entry.dir = if right then 1 else 0) ↔ step.1 = right := by
      rw [hstep.2]
      cases right <;> cases step.1 <;> simp
    simp only [List.forall_mem_cons, hdir, ih]

theorem pathStep_dirs (right : Bool) (h : ∀ e ∈ path, e.1 = if right then 1 else 0) :
    ∀ step ∈ path.map pathStep, step.1 = right := by
  intro step hstep
  obtain ⟨e, he, rfl⟩ := List.mem_map.mp hstep
  cases right <;> simp [pathStep, h e he]

/-- The two climbs of a two-bound entry meet at a node of the tree, and what the
interval spans is what that node has between the two openings. -/
theorem twoBounds_none_between_iff (hb : t.Binding H.hashNode) (hsorted : t.leaves.Pairwise (· < ·))
    {lb rb ab : List (Bool × Bytes32)} (hl : ∀ x y, H.hashNode x y ≠ l)
    (hr : ∀ x y, H.hashNode x y ≠ r)
    (hfold : HashTree.foldPath H.hashNode (H.hashNode (HashTree.foldPath H.hashNode l lb)
      (HashTree.foldPath H.hashNode r rb)) ab = t.digest H.hashNode) :
    (∀ a ∈ t.leaves, ¬ (l < a ∧ a < r)) ↔
      (∀ step ∈ lb, step.1 = true) ∧ ∀ step ∈ rb, step.1 = false := by
  obtain ⟨s, hs, hdigest⟩ := HashTree.opens_of_foldPath hb hfold
  have hsb := hs.binding hb
  cases s with
  | leaf d => exact absurd hdigest.symm (hsb _ _)
  | node sl sr =>
    obtain ⟨hleft, hright⟩ := hsb.1 _ _ hdigest.symm
    have hol := HashTree.opens_leaf_of_foldPath hsb.2.1 hl hleft
    have hor := HashTree.opens_leaf_of_foldPath hsb.2.2 hr hright
    obtain ⟨before, after, hsplit, _, _⟩ := hs.leaves_split
    obtain ⟨l1, l2, hsl, _, hl2⟩ := hol.leaves_split
    obtain ⟨r1, r2, hsr, hr1, _⟩ := hor.leaves_split
    have hP : t.leaves = (before ++ l1) ++ [l] ++ (l2 ++ r1) ++ [r] ++ (r2 ++ after) := by
      rw [hsplit]
      simp only [HashTree.leaves, hsl, hsr, List.append_assoc]
    rw [hP] at hsorted ⊢
    rw [none_between_iff hsorted, List.append_eq_nil_iff, hl2, hr1]

theorem leftBound_none_above (hb : t.Binding H.hashNode) (hsorted : t.leaves.Pairwise (· < ·))
    (hl : ∀ x y, H.hashNode x y ≠ l) (hpath : applyPath H l path = t.digest H.hashNode)
    (hdirs : ∀ e ∈ path, e.1 = 1) :
    ∀ a ∈ t.leaves, ¬ l < a := by
  rw [applyPath_eq_foldPath] at hpath
  have ho := HashTree.opens_leaf_of_foldPath hb hl hpath
  obtain ⟨before, after, hsplit, _, hafter⟩ := ho.leaves_split
  rw [hsplit] at hsorted ⊢
  exact (none_above_iff hsorted).mpr (hafter.mpr (pathStep_dirs true (by simpa using hdirs)))

theorem rightBound_none_below (hb : t.Binding H.hashNode) (hsorted : t.leaves.Pairwise (· < ·))
    (hr : ∀ x y, H.hashNode x y ≠ r) (hpath : applyPath H r path = t.digest H.hashNode)
    (hdirs : ∀ e ∈ path, e.1 = 0) :
    ∀ a ∈ t.leaves, ¬ a < r := by
  rw [applyPath_eq_foldPath] at hpath
  have ho := HashTree.opens_leaf_of_foldPath hb hr hpath
  obtain ⟨before, after, hsplit, hbefore, _⟩ := ho.leaves_split
  rw [hsplit] at hsorted ⊢
  exact (none_below_iff hsorted).mpr (hbefore.mpr (pathStep_dirs false (by simpa using hdirs)))

/-- An accepted entry with leaf bounds skips no member exactly when it is no
sentinel and its two bounds, if it has both, are neighbours. -/
theorem EntryAccepted.skips_none_iff {entry : ValidatedNonMembership} (hb : t.Binding H.hashNode)
    (hsorted : t.leaves.Pairwise (· < ·))
    (h : EntryAccepted H pool (t.digest H.hashNode) anchor entry) (hbounds : anchor.LeafBounds H) :
    (∀ a ∈ t.leaves, intervalContains entry a = false) ↔
      ¬ anchor.IsSentinel ∧ anchor.Adjacent := by
  cases h.shown with
  | @twoBounds q l r lb rb ab hleft hright _ hlb hrb hfold =>
    have hbetween := twoBounds_none_between_iff hb hsorted (hbounds l (.inl hleft))
      (hbounds r (.inr hright)) hfold
    have hcontains : ∀ a, intervalContains ⟨q, t.digest H.hashNode, some l, some r, []⟩ a = false ↔
        ¬ (l < a ∧ a < r) := by
      intro a
      simp [intervalContains]
    have hnotSentinel : ¬ anchor.IsSentinel := by simp [AnchoredNonMembership.IsSentinel, hleft]
    have hadjacent : anchor.Adjacent ↔ (∀ step ∈ lb, step.1 = true) ∧ ∀ step ∈ rb, step.1 = false := by
      simp only [AnchoredNonMembership.Adjacent, hleft, hright, Option.isSome_some, forall_const]
      exact and_congr (by simpa using reads_dirs true hlb) (by simpa using reads_dirs false hrb)
    simp only [hcontains, hbetween, hadjacent, hnotSentinel, not_false_eq_true, true_and]
  | sentinel hleft hright hroot =>
    obtain ⟨a, ha⟩ := List.exists_mem_of_ne_nil _ t.leaves_ne_nil
    have hsentinel : anchor.IsSentinel := ⟨hleft, hright⟩
    simp only [hsentinel, not_true_eq_false, false_and, iff_false]
    intro hnone
    have hzero : (t.digest H.hashNode).isZero = true := (Bytes32.isZero_iff _).mpr hroot
    simpa [intervalContains, hzero] using hnone a ha
  | leftBound hleft hright hpath =>
    have hnone := leftBound_none_above hb hsorted (hbounds _ (.inl hleft)) hpath
      (h.bound_dirs rfl)
    simp only [AnchoredNonMembership.IsSentinel, AnchoredNonMembership.Adjacent, hleft, hright]
    simpa [intervalContains] using hnone
  | rightBound hleft hright hpath =>
    have hnone := rightBound_none_below hb hsorted (hbounds _ (.inr hright)) hpath
      (h.bound_dirs rfl)
    simp only [AnchoredNonMembership.IsSentinel, AnchoredNonMembership.Adjacent, hleft, hright]
    simpa [intervalContains] using hnone

theorem forall₂_mem_iff {α β : Type*} {R : α → β → Prop} {p : α → Prop} {q : β → Prop}
    {as : List α} {bs : List β} (h : List.Forall₂ R as bs)
    (hpq : ∀ a ∈ as, ∀ b, R a b → (q b ↔ p a)) : (∀ b ∈ bs, q b) ↔ ∀ a ∈ as, p a := by
  induction h with
  | nil => simp
  | @cons a b as bs hab _ ih =>
    simp only [List.forall_mem_cons]
    rw [hpq a (by simp) b hab, ih fun a' ha' => hpq a' (by simp [ha'])]

theorem exists_of_mem_right {α β : Type*} {R : α → β → Prop} {as : List α} {bs : List β}
    (h : List.Forall₂ R as bs) {b : β} (hb : b ∈ bs) : ∃ a ∈ as, R a b := by
  induction h with
  | nil => cases hb
  | cons hab _ ih =>
    rcases List.mem_cons.mp hb with rfl | hb
    · exact ⟨_, List.mem_cons_self, hab⟩
    · obtain ⟨a, ha, hrel⟩ := ih hb
      exact ⟨a, List.mem_cons_of_mem _ ha, hrel⟩

theorem exists_of_mem_left {α β : Type*} {R : α → β → Prop} {as : List α} {bs : List β}
    (h : List.Forall₂ R as bs) {a : α} (ha : a ∈ as) : ∃ b ∈ bs, R a b := by
  obtain ⟨b, hb, hrel⟩ := exists_of_mem_right h.flip ha
  exact ⟨b, hb, hrel⟩

def SetBinding (H : MerkleHash) (P : List Bytes32) : Prop :=
  ∀ t, HashTree.ofLeaves P = some t → t.Binding H.hashNode

theorem array_showsOnlyAbsent_iff (hP : P.Pairwise (· < ·)) (hR : canonicalSetRoot H P = .ok R)
    (hbind : SetBinding H P) {arr : List AnchoredNonMembership} {conflict : FreezeError}
    {entries : List ValidatedNonMembership}
    (hacc : validateAnchoredNonmemArray H arr pool R conflict = .ok entries)
    (hbounds : ∀ e ∈ arr, e.LeafBounds H) :
    ShowsOnlyAbsent P entries ↔ P = [] ∨ ∀ e ∈ arr, ¬ e.IsSentinel ∧ e.Adjacent := by
  by_cases hne : P = []
  · subst hne
    simp [ShowsOnlyAbsent]
  · obtain ⟨t, htree, hleaves, hdigest⟩ := canonicalSetRoot_tree H hne hR
    subst hleaves hdigest
    have hall := validateAnchoredNonmemFrom_accepted hacc
    rw [showsOnlyAbsent_iff, forall₂_mem_iff hall
      (fun e he entry h => h.skips_none_iff (hbind t htree) hP (hbounds e he))]
    simp [hne]

def rootWitness (R : Bytes32) : RawMembershipWitness := ⟨R.val, R.val, []⟩

def rootBoundEntry (R query : Bytes32) (leftOf : Bool) : AnchoredNonMembership where
  witness :=
    { query := query.val, root := R.val
      left := if leftOf then some R.val else none
      right := if leftOf then none else some R.val
      path := [] }
  leftRef := if leftOf then some 0 else none
  rightRef := if leftOf then none else some 0

theorem rootBoundEntry_right_accepted (H : MerkleHash) (h : a < R) (conflict : FreezeError) :
    validateAnchoredNonmemArray H [rootBoundEntry R a false] [rootWitness R] R conflict =
      .ok [⟨a, R, none, some R, []⟩] := by
  have hval : a.val < R.val := h
  simp [validateAnchoredNonmemArray, validateAnchoredNonmemFrom, rootBoundEntry, rootWitness,
    validateNonmembershipAgainst, validateLeftBound, validateRightBound, validateBound,
    validatePath, validateAnchorReference, validateMembershipAgainst, verifyAnchoredAdjacency,
    verifyAnchoredBound, applyPath, Except.mapList, hval, a.2, R.2]

theorem rootBoundEntry_left_accepted (H : MerkleHash) (h : R < a) (conflict : FreezeError) :
    validateAnchoredNonmemArray H [rootBoundEntry R a true] [rootWitness R] R conflict =
      .ok [⟨a, R, some R, none, []⟩] := by
  have hval : R.val < a.val := h
  simp [validateAnchoredNonmemArray, validateAnchoredNonmemFrom, rootBoundEntry, rootWitness,
    validateNonmembershipAgainst, validateLeftBound, validateRightBound, validateBound,
    validatePath, validateAnchorReference, validateMembershipAgainst, verifyAnchoredAdjacency,
    verifyAnchoredBound, applyPath, Except.mapList, hval, a.2, R.2]

def sentinelEntry (query : Bytes32) : AnchoredNonMembership where
  witness :=
    { query := query.val, root := Bytes32.zero.val, left := none, right := none, path := [] }
  leftRef := none
  rightRef := none

theorem sentinelEntry_accepted (H : MerkleHash) (query : Bytes32) (conflict : FreezeError) :
    validateAnchoredNonmemArray H [sentinelEntry query] [] Bytes32.zero conflict =
      .ok [⟨query, Bytes32.zero, none, none, []⟩] := by
  have hzero : Bytes32.zero.isZero = true := (Bytes32.isZero_iff _).mpr rfl
  simp [validateAnchoredNonmemArray, validateAnchoredNonmemFrom, sentinelEntry,
    validateNonmembershipAgainst, validateLeftBound, validateRightBound, validateBound,
    validatePath, validateAnchorReference, verifyAnchoredAdjacency, verifyAnchoredBound,
    Except.mapList, hzero, query.2]

/-- Every payload accepted against the root shows only absent leaves as absent. -/
def PayloadsSound (H : MerkleHash) (P : List Bytes32) (R : Bytes32) : Prop :=
  ∀ pool arr conflict entries,
    validateAnchoredNonmemArray H arr pool R conflict = .ok entries → ShowsOnlyAbsent P entries

theorem not_payloadsSound_of_mem (H : MerkleHash) (ha : a ∈ P) (hne : a ≠ R) :
    ¬ PayloadsSound H P R := by
  intro hsound
  rcases lt_or_gt_of_ne hne with hlt | hgt
  · have hshow := hsound _ _ _ _ (rootBoundEntry_right_accepted H hlt freezeSrxSetConflictParent)
    have hnone := (showsOnlyAbsent_iff _ _).mp hshow _ (List.mem_singleton_self _) a ha
    simp [intervalContains, hlt] at hnone
  · have hshow := hsound _ _ _ _ (rootBoundEntry_left_accepted H hgt freezeSrxSetConflictParent)
    have hnone := (showsOnlyAbsent_iff _ _).mp hshow _ (List.mem_singleton_self _) a ha
    simp [intervalContains, hgt] at hnone

theorem not_payloadsSound_zero (H : MerkleHash) :
    ¬ PayloadsSound H [Bytes32.zero] Bytes32.zero := by
  intro hsound
  have hshow := hsound _ _ _ _ (sentinelEntry_accepted H Bytes32.zero freezeSrxSetConflictParent)
  have hnone := (showsOnlyAbsent_iff _ _).mp hshow _ (List.mem_singleton_self _) Bytes32.zero (by simp)
  have hzero : Bytes32.zero.isZero = true := (Bytes32.isZero_iff _).mpr rfl
  simp [intervalContains, hzero] at hnone

theorem foldPath_eq_leaf {x : Bytes32} {p : List (Bool × Bytes32)} (ha : ∀ u v, H.hashNode u v ≠ a)
    (h : HashTree.foldPath H.hashNode x p = a) : x = a := by
  obtain ⟨s, hs, hx⟩ := HashTree.opens_of_foldPath (t := .leaf a) ha h
  cases hs
  exact hx.symm

theorem payloadsSound_singleton (ha : ∀ x y, H.hashNode x y ≠ a) (hzero : a ≠ Bytes32.zero) :
    PayloadsSound H [a] a := by
  intro pool arr conflict entries hacc
  rw [showsOnlyAbsent_iff]
  intro entry hentry b hb
  rw [List.mem_singleton.mp hb]
  have hall := validateAnchoredNonmemFrom_accepted hacc
  obtain ⟨anchor, _, h⟩ := exists_of_mem_right hall hentry
  cases h.shown with
  | twoBounds _ _ _ _ _ hfold => exact absurd (foldPath_eq_leaf ha hfold) (ha _ _)
  | sentinel _ _ hroot => exact absurd hroot hzero
  | leftBound _ _ hpath =>
    rw [applyPath_eq_foldPath] at hpath
    simp [intervalContains, foldPath_eq_leaf ha hpath]
  | rightBound _ _ hpath =>
    rw [applyPath_eq_foldPath] at hpath
    simp [intervalContains, foldPath_eq_leaf ha hpath]

theorem payloadsSound_iff (hP : P.Pairwise (· < ·)) (hleaf : ∀ a ∈ P, ∀ x y, H.hashNode x y ≠ a)
    (hR : canonicalSetRoot H P = .ok R) :
    PayloadsSound H P R ↔ P = [] ∨ ∃ a, P = [a] ∧ a ≠ Bytes32.zero := by
  match P with
  | [] => simp [PayloadsSound, ShowsOnlyAbsent]
  | [a] =>
    obtain rfl : a = R := by simpa [canonicalSetRoot] using hR
    by_cases hzero : a = Bytes32.zero
    · subst hzero
      simp [not_payloadsSound_zero H]
    · simp [hzero, payloadsSound_singleton (hleaf a (by simp)) hzero]
  | a :: b :: rest =>
    obtain ⟨x, y, hnode⟩ := canonicalSetRoot_node H (by simp) hR
    have hne : a ≠ R := fun h => hleaf a (by simp) x y (hnode.trans h.symm)
    simp [not_payloadsSound_of_mem H (show a ∈ a :: b :: rest by simp) hne]

/-- When the accepted payloads are sound for a committed set. Over all payloads
the set has to be empty or one non-zero leaf, because the root, an inner node
or the zero sentinel pass as bounds. Payload by payload, if the bounds are no
node digests, what is missing is the direction check on two-bound entries. -/
theorem srx_nonmembership_sound_iff (H : MerkleHash) (P : List Bytes32) (R : Bytes32)
    (hP : P.Pairwise (· < ·)) (hleaf : ∀ a ∈ P, ∀ x y, H.hashNode x y ≠ a)
    (hbind : SetBinding H P) (hR : canonicalSetRoot H P = .ok R) :
    (PayloadsSound H P R ↔ P = [] ∨ ∃ a, P = [a] ∧ a ≠ Bytes32.zero) ∧
    ∀ pool arr conflict entries,
      validateAnchoredNonmemArray H arr pool R conflict = .ok entries →
      (∀ e ∈ arr, e.LeafBounds H) →
      (ShowsOnlyAbsent P entries ↔ P = [] ∨ ∀ e ∈ arr, ¬ e.IsSentinel ∧ e.Adjacent) := by
  refine ⟨payloadsSound_iff hP hleaf hR, ?_⟩
  intro pool arr conflict entries hacc hbounds
  exact array_showsOnlyAbsent_iff hP hR hbind hacc hbounds

def threeLeafHash : MerkleHash where
  hashNode x y :=
    if x = Bytes32.fill 1 ∧ y = Bytes32.fill 2 then Bytes32.fill 10
    else if x = Bytes32.fill 10 ∧ y = Bytes32.fill 3 then Bytes32.fill 11
    else Bytes32.fill 12
  hashIntervalBinding _ _ _ _ _ _ := Bytes32.fill 13

def threeLeaves : List Bytes32 := [Bytes32.fill 1, Bytes32.fill 2, Bytes32.fill 3]

theorem threeLeaves_no_node : ∀ a ∈ threeLeaves, ∀ x y, threeLeafHash.hashNode x y ≠ a := by
  intro a ha x y
  have hvalue : threeLeafHash.hashNode x y ∈ [Bytes32.fill 10, Bytes32.fill 11, Bytes32.fill 12] := by
    simp only [threeLeafHash]
    split_ifs <;> simp
  intro h
  rw [h] at hvalue
  have hdisjoint : ∀ a ∈ threeLeaves, a ∉ [Bytes32.fill 10, Bytes32.fill 11, Bytes32.fill 12] := by
    decide
  exact hdisjoint a ha hvalue

theorem threeLeaves_binding : SetBinding threeLeafHash threeLeaves := by
  intro t ht
  obtain rfl : .node (.node (.leaf (Bytes32.fill 1)) (.leaf (Bytes32.fill 2)))
      (.leaf (Bytes32.fill 3)) = t := Option.some.inj ht
  have hleaf := threeLeaves_no_node
  have h10 : Bytes32.fill 11 ≠ Bytes32.fill 10 := by decide
  have h12 : Bytes32.fill 12 ≠ Bytes32.fill 10 := by decide
  have h12' : Bytes32.fill 12 ≠ Bytes32.fill 11 := by decide
  have h1 : threeLeafHash.hashNode (Bytes32.fill 1) (Bytes32.fill 2) = Bytes32.fill 10 := by decide
  have h2 : threeLeafHash.hashNode (Bytes32.fill 10) (Bytes32.fill 3) = Bytes32.fill 11 := by decide
  refine ⟨?_, ⟨?_, hleaf _ (by simp [threeLeaves]), hleaf _ (by simp [threeLeaves])⟩,
    hleaf _ (by simp [threeLeaves])⟩
  · intro x y hxy
    simp only [HashTree.digest, h1, h2] at hxy ⊢
    simp only [threeLeafHash] at hxy
    split_ifs at hxy with ha hb
    · exact absurd hxy.symm h10
    · exact hb
    · exact absurd hxy h12'
  · intro x y hxy
    simp only [HashTree.digest, h1] at hxy ⊢
    simp only [threeLeafHash] at hxy
    split_ifs at hxy with ha hb
    · exact ha
    · exact absurd hxy h10
    · exact absurd hxy h12

/-- The bounds 1 and 3 over the set 1, 2, 3: the left one opens as the left
child of its node, so the member 2 lies between the bounds. -/
def skippingEntry : AnchoredNonMembership where
  witness :=
    { query := (Bytes32.fill 2).val, root := (Bytes32.fill 11).val
      left := some (Bytes32.fill 1).val, right := some (Bytes32.fill 3).val, path := []
      leftBelow := [⟨(Bytes32.fill 2).val, 0⟩], nmint := some (Bytes32.fill 13).val
      lcaLeftHeight := some 2, lcaRightHeight := some 1 }
  leftRef := some 0
  rightRef := some 1

def skippingPool : List RawMembershipWitness :=
  [⟨(Bytes32.fill 1).val, (Bytes32.fill 11).val,
      [⟨(Bytes32.fill 2).val, 0⟩, ⟨(Bytes32.fill 3).val, 0⟩]⟩,
    ⟨(Bytes32.fill 3).val, (Bytes32.fill 11).val, [⟨(Bytes32.fill 10).val, 1⟩]⟩]

/-- The member 2 is shown absent by an accepted payload with leaf bounds. -/
theorem srx_member_shown_absent :
    threeLeaves.Pairwise (· < ·) ∧
    (∀ a ∈ threeLeaves, ∀ x y, threeLeafHash.hashNode x y ≠ a) ∧
    SetBinding threeLeafHash threeLeaves ∧
    canonicalSetRoot threeLeafHash threeLeaves = .ok (Bytes32.fill 11) ∧
    ∃ entries, validateAnchoredNonmemArray threeLeafHash [skippingEntry] skippingPool
        (Bytes32.fill 11) freezeSrxSetConflictParent = .ok entries ∧
      ensureNonmemCoverage [Bytes32.fill 2] entries = .ok () ∧ Bytes32.fill 2 ∈ threeLeaves := by
  refine ⟨by decide, threeLeaves_no_node, threeLeaves_binding, by decide, ?_⟩
  exact ⟨[⟨Bytes32.fill 2, Bytes32.fill 11, some (Bytes32.fill 1), some (Bytes32.fill 3), []⟩],
    by decide, by decide, by decide⟩

theorem srx_nonmembership_sound_threeLeaves :
    ¬ PayloadsSound threeLeafHash threeLeaves (Bytes32.fill 11) ∧
    (ShowsOnlyAbsent threeLeaves [⟨Bytes32.fill 2, Bytes32.fill 11, some (Bytes32.fill 1),
        some (Bytes32.fill 3), []⟩] ↔
      threeLeaves = [] ∨ ∀ e ∈ [skippingEntry], ¬ e.IsSentinel ∧ e.Adjacent) := by
  have hbounds : ∀ e ∈ [skippingEntry], e.LeafBounds threeLeafHash := by
    intro e he b hb
    rw [List.mem_singleton.mp he] at hb
    have hmem : b ∈ threeLeaves := by
      rcases hb with hb | hb
      · exact (Subtype.ext (Option.some.inj hb) : Bytes32.fill 1 = b) ▸ by decide
      · exact (Subtype.ext (Option.some.inj hb) : Bytes32.fill 3 = b) ▸ by decide
    exact threeLeaves_no_node b hmem
  obtain ⟨hset, hpayload⟩ := srx_nonmembership_sound_iff threeLeafHash threeLeaves (Bytes32.fill 11)
    (by decide) threeLeaves_no_node threeLeaves_binding (by decide)
  refine ⟨?_, hpayload skippingPool [skippingEntry] freezeSrxSetConflictParent _ (by decide) hbounds⟩
  rw [hset]
  simp [threeLeaves]

end CityG
