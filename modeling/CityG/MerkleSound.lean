import CityG.Lib.OrdMap
import CityG.SrxSound

/-!
# What a set root says

A root is compared with paths an attacker chose and with the roots of other
sets. No map from pairs of digests to digests is injective, so injectivity is
asked of the nodes of the committed tree only (`SetBinding`).
-/

namespace CityG

theorem SetBinding.tree {H : MerkleHash} {S : List Bytes32} {R : Bytes32}
    (hne : S ≠ []) (hR : canonicalSetRoot H S = .ok R) (hbind : SetBinding H S) :
    ∃ t : HashTree Bytes32, t.leaves = S ∧ t.digest H.hashNode = R ∧ t.Binding H.hashNode := by
  obtain ⟨t, htree, hleaves, hdigest⟩ := canonicalSetRoot_tree H hne hR
  exact ⟨t, hleaves, hdigest, hbind t htree⟩

theorem validateMembershipWitness_climbs {H : MerkleHash} {raw : RawMembershipWitness}
    {R : Bytes32} {entry : ValidatedMembership}
    (h : validateMembershipWitness H raw R = .ok entry) {leaf : Bytes32}
    (hleaf : raw.leafId = leaf.val) : ∃ path, applyPath H leaf path = R := by
  simp only [validateMembershipWitness, validateMembershipAgainst, Except.bind_eq_ok,
    Except.ensure_eq_ok, toArray32_eq_ok] at h
  obtain ⟨x, hx, _, _, _, _, path, _, _, hroot, _⟩ := h
  obtain rfl : leaf = x := Subtype.ext (hleaf.symm.trans hx)
  exact ⟨path, hroot⟩

theorem applyPath_eq_self_or_node (H : MerkleHash) (leaf : Bytes32) (path : List (Byte × Bytes32)) :
    applyPath H leaf path = leaf ∨ ∃ x y, applyPath H leaf path = H.hashNode x y := by
  induction path using List.reverseRecOn with
  | nil => exact .inl rfl
  | append_singleton path e _ =>
    right
    rw [applyPath, List.foldl_append, List.foldl_cons, List.foldl_nil]
    split
    · exact ⟨_, _, rfl⟩
    · exact ⟨_, _, rfl⟩

/-- An accepted membership witness for a value that is no node digest is for a
leaf of the set. The root of the empty set is the zero value, which is also the
root of the set of the zero leaf: there the leaf and the node digests have to be
told from zero. -/
theorem membership_witness_sound (H : MerkleHash) (S : List Bytes32) (R leaf : Bytes32)
    (raw : RawMembershipWitness) (entry : ValidatedMembership)
    (hR : canonicalSetRoot H S = .ok R) (hbind : SetBinding H S)
    (hfor : raw.leafId = leaf.val) (hleaf : ∀ x y, H.hashNode x y ≠ leaf)
    (hsentinel : S ≠ [] ∨ leaf ≠ Bytes32.zero ∧ ∀ x y, H.hashNode x y ≠ Bytes32.zero)
    (hacc : validateMembershipWitness H raw R = .ok entry) : leaf ∈ S := by
  obtain ⟨path, hpath⟩ := validateMembershipWitness_climbs hacc hfor
  by_cases hne : S = []
  · -- Against the empty set every climb would end at zero.
    subst hne
    obtain rfl : Bytes32.zero = R := Except.ok.inj hR
    obtain ⟨hzero, hnode⟩ := hsentinel.resolve_left fun h => h rfl
    rcases applyPath_eq_self_or_node H leaf path with hself | ⟨x, y, hxy⟩
    · exact absurd (hself.symm.trans hpath) hzero
    · exact absurd (hxy.symm.trans hpath) (hnode x y)
  · obtain ⟨t, hleaves, hdigest, hb⟩ := hbind.tree hne hR
    rw [applyPath_eq_foldPath, ← hdigest] at hpath
    have hopens := HashTree.opens_leaf_of_foldPath hb hleaf hpath
    obtain ⟨before, after, hsplit, _, _⟩ := hopens.leaves_split
    rw [← hleaves, hsplit]
    simp

theorem membership_witness_sound_threeLeaves :
    validateMembershipWitness threeLeafHash
        ⟨(Bytes32.fill 3).val, (Bytes32.fill 11).val, [⟨(Bytes32.fill 10).val, 1⟩]⟩
        (Bytes32.fill 11) =
      .ok ⟨Bytes32.fill 3, Bytes32.fill 11, [(1, Bytes32.fill 10)]⟩ ∧
    Bytes32.fill 3 ∈ threeLeaves := by
  have hacc : validateMembershipWitness threeLeafHash
      ⟨(Bytes32.fill 3).val, (Bytes32.fill 11).val, [⟨(Bytes32.fill 10).val, 1⟩]⟩
      (Bytes32.fill 11) = .ok ⟨Bytes32.fill 3, Bytes32.fill 11, [(1, Bytes32.fill 10)]⟩ := by
    decide
  exact ⟨hacc, membership_witness_sound threeLeafHash threeLeaves (Bytes32.fill 11) (Bytes32.fill 3)
    _ _ (by decide) threeLeaves_binding rfl (threeLeaves_no_node _ (by decide))
    (.inl (by decide)) hacc⟩

/-- Nobody is in the empty set, but the zero leaf has a witness against its root. -/
theorem zero_leaf_shown_in_empty_set :
    ([] : List Bytes32).Pairwise (· < ·) ∧
    canonicalSetRoot threeLeafHash [] = .ok Bytes32.zero ∧
    SetBinding threeLeafHash [] ∧
    (∀ x y, threeLeafHash.hashNode x y ≠ Bytes32.zero) ∧
    validateMembershipWitness threeLeafHash ⟨Bytes32.zero.val, Bytes32.zero.val, []⟩ Bytes32.zero =
      .ok ⟨Bytes32.zero, Bytes32.zero, []⟩ ∧
    Bytes32.zero ∉ ([] : List Bytes32) := by
  refine ⟨.nil, rfl, ?_, ?_, by decide, List.not_mem_nil⟩
  · intro t ht
    cases ht
  · intro x y
    simp only [threeLeafHash]
    split_ifs <;> decide

/-- A root names one set: sets of non-zero leaves with the same root are equal,
whatever their sizes. -/
theorem canonicalSetRoot_names_one_set (H : MerkleHash) (S T : List Bytes32) (R : Bytes32)
    (hS : canonicalSetRoot H S = .ok R) (hT : canonicalSetRoot H T = .ok R)
    (hbind : SetBinding H S) (hleaf : ∀ a ∈ T, ∀ x y, H.hashNode x y ≠ a)
    (hnode : ∀ x y, H.hashNode x y ≠ Bytes32.zero)
    (hzeroS : Bytes32.zero ∉ S) (hzeroT : Bytes32.zero ∉ T) : S = T := by
  -- Only the empty set has the root zero.
  have hempty : ∀ U, canonicalSetRoot H U = .ok Bytes32.zero → Bytes32.zero ∉ U → U = [] := by
    intro U hU hzero
    by_contra hne
    obtain ⟨t, _, rfl, hdigest⟩ := canonicalSetRoot_tree H hne hU
    cases t with
    | leaf d => exact hzero (List.mem_singleton.mpr hdigest.symm)
    | node l r => exact hnode _ _ hdigest
  by_cases hneS : S = []
  · subst hneS
    obtain rfl : Bytes32.zero = R := Except.ok.inj hS
    exact (hempty T hT hzeroT).symm
  by_cases hneT : T = []
  · subst hneT
    obtain rfl : Bytes32.zero = R := Except.ok.inj hT
    exact hempty S hS hzeroS
  obtain ⟨t, htS, htR, hb⟩ := hbind.tree hneS hS
  obtain ⟨u, _, huT, huR⟩ := canonicalSetRoot_tree H hneT hT
  have htu : t = u := HashTree.eq_of_digest_eq hb (huT.symm ▸ hleaf) (htR.trans huR.symm)
  rw [← htS, ← huT, htu]

theorem canonicalSetRoot_names_threeLeaves :
    canonicalSetRoot threeLeafHash
        (OrdSet.ofList [Bytes32.fill 3, Bytes32.fill 1, Bytes32.fill 2]).keys =
      .ok (Bytes32.fill 11) ∧
    threeLeaves = (OrdSet.ofList [Bytes32.fill 3, Bytes32.fill 1, Bytes32.fill 2]).keys := by
  have hroot : canonicalSetRoot threeLeafHash
      (OrdSet.ofList [Bytes32.fill 3, Bytes32.fill 1, Bytes32.fill 2]).keys =
        .ok (Bytes32.fill 11) := by
    decide
  have hsame : ∀ a ∈ (OrdSet.ofList [Bytes32.fill 3, Bytes32.fill 1, Bytes32.fill 2]).keys,
      a ∈ threeLeaves := by
    decide
  refine ⟨hroot, canonicalSetRoot_names_one_set threeLeafHash threeLeaves _ (Bytes32.fill 11)
    (by decide) hroot threeLeaves_binding (fun a ha => threeLeaves_no_node a (hsame a ha)) ?_
    (by decide) (by decide)⟩
  intro x y
  simp only [threeLeafHash]
  split_ifs <;> decide

end CityG
