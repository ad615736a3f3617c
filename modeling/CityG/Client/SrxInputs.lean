import CityG.Accept.ForwardJump
import CityG.Client.NonmemWitness
import CityG.Joiner.SrxPayload

/-!
# Building the SRX inputs of a merge

The client shows the joined leaves absent from the parent set and from the leaves
revoked since, and the latter contained in the revoked set. Against the parent set it
opens the neighbours of each leaf and collects them, once each, in a pool. Against the
leaves revoked since it sends a witness without bounds, which stands for the empty set.
-/

namespace CityG.Client

open Except (ensure ofOption mapList)
open Joiner (AnchorKey asU32 rawKey keyBytes)

abbrev AnchorMap := OrdMap AnchorKey RawMembershipWitness

structure SrxInputsOwned where
  joinLeafIds : List Bytes32
  joinNonmemParent : List AnchoredNonMembership
  joinNonmemRevokedSince : List AnchoredNonMembership
  sinceLeafIds : List Bytes32
  sinceMemRevoked : List RawMembershipWitness
  anchorMemPool : List RawMembershipWitness
  joinFrontier : Option (List Bytes32)
  sinceFrontier : Option (List Bytes32)

def SrxInputsOwned.payload (inputs : SrxInputsOwned) : SrxPayload where
  joinNonmemParent := inputs.joinNonmemParent
  joinNonmemRevokedSince := inputs.joinNonmemRevokedSince
  revokedSinceMemInRevoked := inputs.sinceMemRevoked
  joinLeafIds := inputs.joinLeafIds
  joinFrontier := inputs.joinFrontier
  sinceLeafIds := inputs.sinceLeafIds
  sinceFrontier := inputs.sinceFrontier
  anchorMemPool := inputs.anchorMemPool

structure ParentNonmem where
  witness : RawNonMembershipWitness
  leftKey : Option AnchorKey
  rightKey : Option AnchorKey

def anchorKey (root leaf : Bytes32) : AnchorKey := toLex (root, leaf)

def insertAnchor (H : MerkleHash) (parentSorted : List Bytes32) (anchorMap : AnchorMap) :
    Option AnchorKey → Except CityGError AnchorMap
  | none => pure anchorMap
  | some key =>
    if key ∈ anchorMap then pure anchorMap
    else do
      let path ← canonicalMembershipPath H parentSorted (ofLex key).2
      pure (anchorMap.insert key ⟨(ofLex key).2.val, (ofLex key).1.val, path⟩)

def collectAnchors (H : MerkleHash) (parentSorted : List Bytes32) (parentRoot : Bytes32) :
    AnchorMap → List Bytes32 → Except CityGError (AnchorMap × List ParentNonmem)
  | anchorMap, [] => pure (anchorMap, [])
  | anchorMap, leaf :: rest => do
    let (witness, left, right) ← parentNonmemWitness H parentSorted parentRoot leaf
    let leftKey := left.map (anchorKey parentRoot)
    let rightKey := right.map (anchorKey parentRoot)
    let anchorMap ← insertAnchor H parentSorted anchorMap leftKey
    let anchorMap ← insertAnchor H parentSorted anchorMap rightKey
    let (anchorMap, temp) ← collectAnchors H parentSorted parentRoot anchorMap rest
    pure (anchorMap, ⟨witness, leftKey, rightKey⟩ :: temp)

def anchorLookup (anchorMap : AnchorMap) (missing : String) :
    Option AnchorKey → Except CityGError (Option Nat)
  | none => pure none
  | some key => do
    let idx ← ofOption (.invalidInput missing) (anchorMap.keys.findIdx? (· = key))
    pure (some (asU32 idx))

def anchoredNonmem (anchorMap : AnchorMap) (entry : ParentNonmem) :
    Except CityGError AnchoredNonMembership := do
  let leftRef ← anchorLookup anchorMap "missing left anchor reference" entry.leftKey
  let rightRef ← anchorLookup anchorMap "missing right anchor reference" entry.rightKey
  pure ⟨entry.witness, leftRef, rightRef⟩

def sinceMember (H : MerkleHash) (revokedSorted : List Bytes32) (revokedRoot leaf : Bytes32) :
    Except CityGError RawMembershipWitness := do
  ensure (leaf ∈ revokedSorted) (.invalidInput "revoked leaf missing from revoked set")
  let path ← if revokedSorted = [] then pure []
    else canonicalMembershipPath H revokedSorted leaf
  pure ⟨leaf.val, revokedRoot.val, path⟩

def checkRoot (H : MerkleHash) (sorted : List Bytes32) (root : Bytes32) (mismatch : String) :
    Except CityGError Unit := do
  let expected ← (canonicalSetRoot H sorted).mapError .msphf
  ensure (expected = root) (.invalidInput mismatch)

def buildSrxInputsOwned (H : MerkleHash) (joinLeaves parentLeaves : List Bytes32)
    (parentRoot : Bytes32) (revokedSinceLeaves : List Bytes32) (revokedSinceRoot : Bytes32)
    (revokedLeaves : List Bytes32) (revokedRoot : Bytes32) :
    Except CityGError SrxInputsOwned := do
  let parentSorted := parentLeaves.insertionSort (· ≤ ·)
  -- Any root is taken for an empty parent set.
  (if parentSorted = [] then pure ()
    else checkRoot H parentSorted parentRoot "parent root mismatch")
  let revokedSinceSorted := revokedSinceLeaves.insertionSort (· ≤ ·)
  checkRoot H revokedSinceSorted revokedSinceRoot "revoked_since_root mismatch"
  let revokedSorted := revokedLeaves.insertionSort (· ≤ ·)
  (if revokedSorted = [] then ensure (revokedRoot = .zero) (.invalidInput "revoked_root mismatch")
    else checkRoot H revokedSorted revokedRoot "revoked_root mismatch")
  let (anchorMap, temp) ← collectAnchors H parentSorted parentRoot .empty joinLeaves
  let joinNonmemParent ← mapList (anchoredNonmem anchorMap) temp
  let sinceMemRevoked ← mapList (sinceMember H revokedSorted revokedRoot) revokedSinceSorted
  pure
    { joinLeafIds := joinLeaves
      joinNonmemParent
      joinNonmemRevokedSince :=
        joinLeaves.map fun leaf => ⟨sentinelNonmem revokedSinceRoot leaf, none, none⟩
      sinceLeafIds := revokedSinceSorted
      sinceMemRevoked
      anchorMemPool := anchorMap.values
      joinFrontier := none
      sinceFrontier := none }

def buildMergeSrxInputs (H : MerkleHash) (parentLeaves joinLeaves : List Bytes32)
    (parentRoot : Bytes32) (revokedSinceLeaves revokedLeaves : List Bytes32)
    (revokedRoot : Bytes32) : Except CityGError SrxInputsOwned := do
  let revokedSinceRoot ← (canonicalSetRoot H revokedSinceLeaves).mapError .msphf
  buildSrxInputsOwned H joinLeaves parentLeaves parentRoot revokedSinceLeaves revokedSinceRoot
    revokedLeaves revokedRoot

section Arrays
variable {H : MerkleHash} {pool : List RawMembershipWitness} {root leaf : Bytes32}
  {conflict : FreezeError} {leaves : List Bytes32}

def ShowsAbsent (H : MerkleHash) (pool : List RawMembershipWitness) (root : Bytes32)
    (conflict : FreezeError) (leaf : Bytes32) (anchor : AnchoredNonMembership) : Prop :=
  ∃ entry, validateAnchoredNonmemArray H [anchor] pool root conflict = .ok [entry] ∧
    entry.query = leaf ∧ ensureNonmemCoverage [leaf] [entry] = .ok ()

theorem validateAnchoredNonmemFrom_forall {anchors : List AnchoredNonMembership}
    (h : List.Forall₂ (ShowsAbsent H pool root conflict) leaves anchors) (seen : List Bytes32)
    (hnodup : (leaves ++ seen).Nodup) :
    ∃ entries, validateAnchoredNonmemFrom H pool root conflict seen anchors = .ok entries ∧
      List.Forall₂ (fun leaf entry => intervalContains entry leaf = true) leaves entries := by
  induction h generalizing seen with
  | nil => exact ⟨[], rfl, .nil⟩
  | @cons leaf anchor leaves anchors hfirst _ ih =>
    obtain ⟨entry, hentry, rfl, hcover⟩ := hfirst
    obtain ⟨hnew, _⟩ := List.nodup_cons.mp hnodup
    obtain ⟨entries, hrest, hcovers⟩ := ih (entry.query :: seen)
      (List.nodup_middle.mpr hnodup)
    simp only [validateAnchoredNonmemArray, validateAnchoredNonmemFrom, Except.bind_eq_ok,
      Except.mapError_eq_ok, Except.pure_eq_ok, Except.ensure_eq_ok] at hentry
    obtain ⟨found, hvalid, _, _, la, hla, ra, hra, _, hadj, _, _, heq⟩ := hentry
    obtain ⟨rfl, _⟩ := List.cons.inj heq
    refine ⟨found :: entries, ?_, .cons ?_ hcovers⟩
    · simp only [validateAnchoredNonmemFrom, Except.bind_eq_ok, Except.mapError_eq_ok,
        Except.pure_eq_ok, Except.ensure_eq_ok]
      exact ⟨_, hvalid, (), fun hseen => hnew (List.mem_append_right _ hseen), la, hla, ra, hra, (),
        hadj, entries, hrest, rfl⟩
    · simpa using Except.ensure_eq_ok.mp hcover

theorem nonmemArray_accepted {anchors : List AnchoredNonMembership}
    (h : List.Forall₂ (ShowsAbsent H pool root conflict) leaves anchors) (hnodup : leaves.Nodup) :
    ∃ entries, validateAnchoredNonmemArray H anchors pool root conflict = .ok entries ∧
      ensureNonmemCoverage leaves entries = .ok () := by
  obtain ⟨entries, hentries, hcover⟩ := validateAnchoredNonmemFrom_forall h []
    (by simpa using hnodup)
  exact ⟨entries, hentries, Except.ensure_eq_ok.mpr fun _ ha => exists_of_mem_left hcover ha⟩

theorem validateMembershipFrom_forall {witnesses : List RawMembershipWitness}
    (h : List.Forall₂ (fun leaf w => ∃ path, validateMembershipAgainst H w root =
      .ok ⟨leaf, root, path⟩) leaves witnesses) (seen : List Bytes32) (hnodup : (leaves ++ seen).Nodup) :
    ∃ entries, validateMembershipFrom H root seen witnesses = .ok entries ∧
      List.Forall₂ (fun leaf entry => entry.leafId = leaf) leaves entries := by
  induction h generalizing seen with
  | nil => exact ⟨[], rfl, .nil⟩
  | @cons leaf w leaves ws hfirst _ ih =>
    obtain ⟨path, hvalid⟩ := hfirst
    obtain ⟨hnew, _⟩ := List.nodup_cons.mp hnodup
    obtain ⟨entries, hrest, hids⟩ := ih (leaf :: seen) (List.nodup_middle.mpr hnodup)
    refine ⟨⟨leaf, root, path⟩ :: entries, ?_, .cons rfl hids⟩
    simp only [validateMembershipFrom, Except.bind_eq_ok, Except.mapError_eq_ok,
      Except.pure_eq_ok, Except.ensure_eq_ok]
    exact ⟨_, hvalid, (), fun hseen => hnew (List.mem_append_right _ hseen), entries, hrest, rfl⟩

end Arrays

section Pool
variable {H : MerkleHash} {parent : List Bytes32} {root : Bytes32} {m : AnchorMap}
  {bound : Option Bytes32} {anchor : Option RawMembershipWitness} {conflict : FreezeError}

def Pooled (H : MerkleHash) (parent : List Bytes32) (root : Bytes32) (m : AnchorMap) : Prop :=
  ∀ key w, m.get? key = some w → ∃ leaf ∈ parent, key = anchorKey root leaf ∧
    boundAnchor H parent root (some leaf) = .ok (some w)

def Holds (root : Bytes32) (m : AnchorMap) (bound : Option Bytes32) : Prop :=
  ∀ leaf ∈ bound, anchorKey root leaf ∈ m

theorem insertAnchor_pooled (hm : Pooled H parent root m) (hbound : ∀ leaf ∈ bound, leaf ∈ parent)
    (hanchor : boundAnchor H parent root bound = .ok anchor) :
    ∃ m', insertAnchor H parent m (bound.map (anchorKey root)) = .ok m' ∧ Pooled H parent root m' ∧
      (∀ key ∈ m, key ∈ m') ∧ Holds root m' bound := by
  cases bound with
  | none => exact ⟨m, rfl, hm, fun _ h => h, nofun⟩
  | some leaf =>
    by_cases hmem : anchorKey root leaf ∈ m
    · exact ⟨m, if_pos hmem, hm, fun _ h => h, fun _ h => Option.some.inj h ▸ hmem⟩
    have hpath := hanchor
    simp only [boundAnchor, Except.bind_eq_ok, Except.pure_eq_ok] at hpath
    obtain ⟨path, hpath, rfl⟩ := hpath
    refine ⟨m.insert (anchorKey root leaf) ⟨leaf.val, root.val, path⟩, ?_, ?_, ?_, ?_⟩
    · rw [Option.map_some, insertAnchor, if_neg hmem]
      exact Except.bind_of hpath rfl
    · intro key w hget
      rw [OrdMap.get?_insert] at hget
      split at hget
      · next heq =>
          obtain rfl := Option.some.inj hget
          exact ⟨leaf, hbound leaf rfl, heq, hanchor⟩
      · exact hm key w hget
    · exact fun key hkey => OrdMap.mem_insert.mpr (.inr hkey)
    · exact fun _ h => Option.some.inj h ▸ OrdMap.mem_insert.mpr (.inl rfl)

theorem parentNonmemWitness_bounds {query : Bytes32} {witness : RawNonMembershipWitness}
    {left right : Option Bytes32} (habsent : query ∉ parent)
    (h : parentNonmemWitness H parent root query = .ok (witness, left, right)) :
    (∀ leaf ∈ left, leaf ∈ parent) ∧ ∀ leaf ∈ right, leaf ∈ parent := by
  unfold parentNonmemWitness at h
  split at h
  · cases h
    exact ⟨nofun, nofun⟩
  have hbounds : intervalBounds parent query = (left, right) := by
    split at h <;> simp only [Except.bind_eq_ok, Except.pure_eq_ok, reduceCtorEq] at h <;> grind
  exact ⟨fun leaf hleaf => (left_bound (by rw [hbounds]; exact hleaf)).1,
    fun leaf hleaf => (right_bound habsent (by rw [hbounds]; exact hleaf)).1⟩

/-- What is kept for a joined leaf: a witness that is accepted with the anchors of its bounds,
which are in the map. -/
def Kept (H : MerkleHash) (parent : List Bytes32) (root : Bytes32) (conflict : FreezeError)
    (m : AnchorMap) (leaf : Bytes32) (entry : ParentNonmem) : Prop :=
  ∃ left right leftAnchor rightAnchor, entry.leftKey = left.map (anchorKey root) ∧
    entry.rightKey = right.map (anchorKey root) ∧ Holds root m left ∧ Holds root m right ∧
    boundAnchor H parent root left = .ok leftAnchor ∧
    boundAnchor H parent root right = .ok rightAnchor ∧
    ∀ pool leftRef rightRef, Names pool leftRef leftAnchor → Names pool rightRef rightAnchor →
      ShowsAbsent H pool root conflict leaf ⟨entry.witness, leftRef, rightRef⟩

theorem collectAnchors_kept {join : List Bytes32} (hm : Pooled H parent root m)
    (hjoin : ∀ leaf ∈ join, leaf ∉ parent ∧ ProvesAbsent H parent root leaf conflict) :
    ∃ m' temp, collectAnchors H parent root m join = .ok (m', temp) ∧ Pooled H parent root m' ∧
      (∀ key ∈ m, key ∈ m') ∧ List.Forall₂ (Kept H parent root conflict m') join temp := by
  induction join generalizing m with
  | nil => exact ⟨m, [], rfl, hm, fun _ h => h, .nil⟩
  | cons leaf rest ih =>
    obtain ⟨habsent, witness, left, right, leftAnchor, rightAnchor, hwitness, hleft, hright, hshows⟩ :=
      hjoin leaf List.mem_cons_self
    obtain ⟨hleftMem, hrightMem⟩ := parentNonmemWitness_bounds habsent hwitness
    obtain ⟨m₁, hinsert₁, hm₁, hkeys₁, hholds₁⟩ := insertAnchor_pooled hm hleftMem hleft
    obtain ⟨m₂, hinsert₂, hm₂, hkeys₂, hholds₂⟩ := insertAnchor_pooled hm₁ hrightMem hright
    obtain ⟨m', temp, hrest, hm', hkeys', hkept⟩ := ih hm₂ fun leaf' hleaf' =>
      hjoin leaf' (List.mem_cons_of_mem _ hleaf')
    refine ⟨m', ⟨witness, left.map (anchorKey root), right.map (anchorKey root)⟩ :: temp, ?_, hm',
      fun key hkey => hkeys' _ (hkeys₂ _ (hkeys₁ _ hkey)), .cons ?_ hkept⟩
    · simp only [collectAnchors, hwitness, hinsert₁, hinsert₂, hrest, Except.ok_bind]
      rfl
    · exact ⟨left, right, leftAnchor, rightAnchor, rfl, rfl,
        fun l hl => hkeys' _ (hkeys₂ _ (hholds₁ l hl)), fun r hr => hkeys' _ (hholds₂ r hr),
        hleft, hright, hshows⟩

theorem Pooled.length_le (hm : Pooled H parent root m) : m.keys.length ≤ parent.length := by
  have hsub : m.keys ⊆ parent.map (anchorKey root) := by
    intro key hkey
    obtain ⟨w, hget⟩ := OrdMap.mem_keys_iff.mp hkey
    obtain ⟨leaf, hleaf, rfl, _⟩ := hm key w hget
    exact List.mem_map_of_mem hleaf
  simpa using (m.keys_nodup.subperm hsub).length_le

theorem Pooled.lookup (hm : Pooled H parent root m) (hlen : parent.length ≤ 2 ^ 32)
    (missing : String) (hanchor : boundAnchor H parent root bound = .ok anchor)
    (hholds : Holds root m bound) :
    ∃ ref, anchorLookup m missing (bound.map (anchorKey root)) = .ok ref ∧
      Names m.values ref anchor := by
  cases bound with
  | none =>
    obtain rfl : none = anchor := Except.ok.inj hanchor
    exact ⟨none, rfl, trivial⟩
  | some leaf =>
    obtain ⟨idx, hidx⟩ : ∃ idx, m.keys.findIdx? (· = anchorKey root leaf) = some idx := by
      refine Option.isSome_iff_exists.mp ?_
      rw [List.findIdx?_isSome, List.any_eq_true]
      exact ⟨_, OrdMap.mem_keys.mpr (hholds leaf rfl), by simp⟩
    obtain ⟨hlt, hkey, _⟩ := List.findIdx?_eq_some_iff_getElem.mp hidx
    have hget : m.keys[idx]? = some (anchorKey root leaf) := by
      rw [List.getElem?_eq_getElem hlt]
      simpa using hkey
    rw [OrdMap.keys, List.getElem?_map, Option.map_eq_some_iff] at hget
    obtain ⟨e, he, hfst⟩ := hget
    obtain ⟨leaf', _, hkey', hanchor'⟩ :=
      hm _ _ (OrdMap.mem_entries_iff.mp (List.mem_of_getElem? he))
    obtain rfl : leaf' = leaf := congrArg (fun key => (ofLex key).2) (hkey'.symm.trans hfst)
    obtain rfl : some e.2 = anchor := Except.ok.inj (hanchor'.symm.trans hanchor)
    refine ⟨some (asU32 idx), ?_, ?_⟩
    · rw [Option.map_some, anchorLookup, hidx]
      rfl
    · rw [asU32, Nat.mod_eq_of_lt (hlt.trans_le (hm.length_le.trans hlen)), Names, OrdMap.values,
        List.getElem?_map, he]
      rfl

theorem Kept.anchored {leaf : Bytes32} {entry : ParentNonmem} (hm : Pooled H parent root m)
    (hlen : parent.length ≤ 2 ^ 32) (h : Kept H parent root conflict m leaf entry) :
    ∃ anchor, anchoredNonmem m entry = .ok anchor ∧
      ShowsAbsent H m.values root conflict leaf anchor := by
  obtain ⟨left, right, la, ra, hlk, hrk, hhl, hhr, hla, hra, hshows⟩ := h
  obtain ⟨lref, hlref, hlnames⟩ := hm.lookup hlen "missing left anchor reference" hla hhl
  obtain ⟨rref, hrref, hrnames⟩ := hm.lookup hlen "missing right anchor reference" hra hhr
  refine ⟨⟨entry.witness, lref, rref⟩, ?_, hshows _ _ _ hlnames hrnames⟩
  rw [anchoredNonmem, hlk, hrk, hlref, hrref]
  rfl

theorem Pooled.validates (hm : Pooled H parent root m) (hlen : parent.length ≤ 2 ^ 32) :
    validateAnchorPool m.values = .ok () := by
  have hspec : ∀ e ∈ m.entries, rawKey e.2 = keyBytes e.1 ∧
      (e.2.root.length = 32 ∧ e.2.leafId.length = 32) ∧ e.2.path.length ≤ 64 := by
    intro e he
    obtain ⟨leaf, hleaf, hkey, hanchor⟩ := hm _ _ (OrdMap.mem_entries_iff.mp he)
    obtain ⟨t, ht, _⟩ :=
      HashTree.reduceLevels_tree H.hashNode parent (List.length_pos_of_mem hleaf)
    obtain ⟨steps, hsteps, _, hshort⟩ := canonicalMembershipPath_opens H hleaf ht
    rw [boundAnchor, hsteps] at hanchor
    have hw : (⟨leaf.val, root.val, steps.map pathEntry⟩ : RawMembershipWitness) = e.2 :=
      Option.some.inj (Except.ok.inj hanchor)
    have hsteps : steps.length ≤ 64 := (hshort 32 hlen).trans (by decide)
    rw [← hw, hkey]
    exact ⟨rfl, ⟨root.property, leaf.property⟩, by simpa using hsteps⟩
  have hvalues : ∀ w ∈ m.values, ∃ e ∈ m.entries, e.2 = w := fun w hw => List.mem_map.mp hw
  refine Joiner.validateAnchorPoolFrom_ok ?_ ?_ ?_
  · intro w hw
    obtain ⟨e, he, rfl⟩ := hvalues w hw
    exact (hspec e he).2.1
  · intro w hw
    obtain ⟨e, he, rfl⟩ := hvalues w hw
    exact (hspec e he).2.2
  · have hkeys : m.values.map rawKey = m.keys.map keyBytes := by
      rw [OrdMap.values, OrdMap.keys, List.map_map, List.map_map]
      exact List.map_congr_left fun e he => (hspec e he).1
    rw [hkeys]
    exact List.pairwise_map.mpr (m.keys_sorted.imp Joiner.keyBytes_lt)

end Pool

theorem sinceMember_valid {H : MerkleHash} {revoked : List Bytes32} {revokedRoot leaf : Bytes32}
    (hroot : canonicalSetRoot H revoked = .ok revokedRoot) (hlen : revoked.length ≤ 2 ^ 64)
    (hmem : leaf ∈ revoked) :
    ∃ w, sinceMember H revoked revokedRoot leaf = .ok w ∧
      ∃ path, validateMembershipAgainst H w revokedRoot = .ok ⟨leaf, revokedRoot, path⟩ := by
  have hne : revoked ≠ [] := List.ne_nil_of_mem hmem
  obtain ⟨t, ht, _, hdigest⟩ := canonicalSetRoot_tree H hne hroot
  obtain ⟨steps, hsteps, hopens, hshort⟩ := canonicalMembershipPath_opens H hmem ht
  refine ⟨⟨leaf.val, revokedRoot.val, steps.map pathEntry⟩, ?_, _,
    validateMembershipAgainst_opens hopens hdigest (hshort 64 hlen)⟩
  rw [sinceMember, if_neg hne, hsteps]
  exact Except.ensure_bind_of hmem rfl

/-- The sets of a merge behind their roots. A path has at most 64 steps, and a reference into
the pool is a `u32`. -/
structure MergeSets (H : MerkleHash) (parent join since revoked : List Bytes32)
    (roots : AnchorRoots) : Prop where
  parentSorted : parent.Pairwise (· < ·)
  joinSorted : join.Pairwise (· < ·)
  sinceSorted : since.Pairwise (· < ·)
  revokedSorted : revoked.Pairwise (· < ·)
  parentRoot : canonicalSetRoot H parent = .ok roots.parentRoot
  joinRoot : canonicalSetRoot H join = .ok roots.joinDeltaRoot
  sinceRoot : canonicalSetRoot H since = .ok roots.revokedSinceRoot
  revokedRoot : canonicalSetRoot H revoked = .ok roots.revokedRoot
  joinApart : ∀ leaf ∈ join, leaf ∉ parent ∧ leaf ∉ since
  sinceRevoked : since ⊆ revoked
  parentSize : parent.length ≤ 2 ^ 32
  revokedSize : revoked.length ≤ 2 ^ 64

section Merge
variable {H : MerkleHash} {parent join since revoked : List Bytes32} {roots : AnchorRoots}

theorem checkRoot_ok {leaves : List Bytes32} {root : Bytes32} (h : canonicalSetRoot H leaves = .ok root)
    (mismatch : String) : checkRoot H leaves root mismatch = .ok () := by
  rw [checkRoot, h]
  exact Except.ensure_eq_ok.mpr rfl

theorem buildMergeSrxInputs_built (h : MergeSets H parent join since revoked roots)
    (hinj : SetInjective H parent) (hapart : LeavesApart H parent) :
    ∃ m anchors members,
      buildMergeSrxInputs H parent join roots.parentRoot since revoked roots.revokedRoot = .ok
        ⟨join, anchors,
          join.map fun leaf => ⟨sentinelNonmem roots.revokedSinceRoot leaf, none, none⟩, since,
          members, m.values, none, none⟩ ∧
      Pooled H parent roots.parentRoot m ∧
      List.Forall₂ (ShowsAbsent H m.values roots.parentRoot freezeSrxSetConflictParent) join
        anchors ∧
      List.Forall₂ (fun leaf w => ∃ path, validateMembershipAgainst H w roots.revokedRoot =
        .ok ⟨leaf, roots.revokedRoot, path⟩) since members := by
  have hproves : ∀ leaf ∈ join, leaf ∉ parent ∧
      ProvesAbsent H parent roots.parentRoot leaf freezeSrxSetConflictParent := by
    intro leaf hleaf
    have habsent := (h.joinApart leaf hleaf).1
    exact ⟨habsent, provesAbsent_of_root h.parentSorted h.parentRoot habsent
      (withinDepthLimits_of_length H habsent (h.parentSize.trans (by decide))) hinj hapart _⟩
  obtain ⟨m, temp, hcollect, hm, _, hkept⟩ := collectAnchors_kept (m := .empty) nofun hproves
  obtain ⟨anchors, hanchors, hshows⟩ := Except.mapList_forall₂ hkept fun leaf entry hentry =>
    hentry.anchored hm h.parentSize
  obtain ⟨members, hmembers, hvalid⟩ := Except.exists_mapList fun leaf hleaf =>
    sinceMember_valid h.revokedRoot h.revokedSize (h.sinceRevoked hleaf)
  refine ⟨m, anchors, members, ?_, hm, hshows, hvalid⟩
  have hsort : ∀ {l : List Bytes32}, l.Pairwise (· < ·) → l.insertionSort (· ≤ ·) = l :=
    fun hl => (hl.imp le_of_lt).insertionSort_eq
  simp only [buildMergeSrxInputs, h.sinceRoot, Except.mapError, Except.ok_bind, buildSrxInputsOwned,
    hsort h.parentSorted, hsort h.sinceSorted, hsort h.revokedSorted, checkRoot_ok h.sinceRoot,
    checkRoot_ok h.parentRoot, checkRoot_ok h.revokedRoot, hcollect, hanchors, hmembers]
  refine Except.bind_of (a := ()) (ite_self _) (Except.bind_of (a := ()) ?_ rfl)
  split
  · next hnil =>
      subst hnil
      exact Except.ensure_eq_ok.mpr (Except.ok.inj h.revokedRoot).symm
  · rfl

theorem showsAbsent_sentinel (H : MerkleHash) (pool : List RawMembershipWitness)
    (conflict : FreezeError) (leaf : Bytes32) :
    ShowsAbsent H pool .zero conflict leaf ⟨sentinelNonmem .zero leaf, none, none⟩ := by
  obtain ⟨_, _, _, _, _, hbuild, hleft, hright, hshows⟩ := provesAbsent_empty H leaf conflict
  cases hbuild
  cases hleft
  cases hright
  exact hshows pool none none trivial trivial

theorem zero_of_sentinel {pool : List RawMembershipWitness} {root leaf : Bytes32}
    {conflict : FreezeError} {rest : List AnchoredNonMembership} {entries : List ValidatedNonMembership}
    (h : validateAnchoredNonmemArray H (⟨sentinelNonmem root leaf, none, none⟩ :: rest) pool root
      conflict = .ok entries) : root = .zero := by
  cases validateAnchoredNonmemFrom_accepted h with
  | cons hentry _ =>
    cases hentry.shown with
    | twoBounds hleft => cases hleft
    | sentinel _ _ hroot => exact hroot
    | leftBound hleft => cases hleft
    | rightBound _ hright => cases hright

/-- The inputs that the client builds are accepted exactly when nobody joins or the root of the
leaves revoked since is that of the empty set. -/
theorem buildMergeSrxInputs_accepted_iff (verifiers : AnchorProofs)
    (parent join since revoked : List Bytes32) (roots : AnchorRoots)
    (h : MergeSets verifiers.merkle parent join since revoked roots)
    (hinj : SetInjective verifiers.merkle parent) (hapart : LeavesApart verifiers.merkle parent) :
    (∃ inputs, buildMergeSrxInputs verifiers.merkle parent join roots.parentRoot since revoked
        roots.revokedRoot = .ok inputs ∧ verifySrxSets verifiers roots inputs.payload = .ok ()) ↔
      join = [] ∨ roots.revokedSinceRoot = .zero := by
  obtain ⟨m, anchors, members, hbuild, hm, hshows, hmembers⟩ :=
    buildMergeSrxInputs_built h hinj hapart
  constructor
  · rintro ⟨inputs, hinputs, hverify⟩
    obtain rfl := Except.ok.inj (hbuild.symm.trans hinputs)
    simp only [verifySrxSets, SrxInputsOwned.payload, Except.bind_eq_ok] at hverify
    obtain ⟨_, _, _, _, _, _, _, _, _, _, _, _, _, _, _, hsince, _⟩ := hverify
    cases join with
    | nil => exact .inl rfl
    | cons leaf rest => exact .inr (zero_of_sentinel hsince)
  · intro hcase
    have hnodup : ∀ {l : List Bytes32}, l.Pairwise (· < ·) → l.Nodup := fun hl => hl.imp ne_of_lt
    have hsinceShows : List.Forall₂ (ShowsAbsent verifiers.merkle m.values roots.revokedSinceRoot
        freezeSrxSetConflictRevoke) join
        (join.map fun leaf => ⟨sentinelNonmem roots.revokedSinceRoot leaf, none, none⟩) := by
      rw [List.forall₂_map_right_iff, List.forall₂_same]
      intro leaf hleaf
      rw [hcase.resolve_left (List.ne_nil_of_mem hleaf)]
      exact showsAbsent_sentinel _ _ _ leaf
    obtain ⟨entries, hentries, hcover⟩ := nonmemArray_accepted hshows (hnodup h.joinSorted)
    obtain ⟨sentinels, hsentinels, hcover'⟩ := nonmemArray_accepted hsinceShows (hnodup h.joinSorted)
    obtain ⟨shown, hshown, hids⟩ := validateMembershipFrom_forall hmembers []
      (by simpa using hnodup h.sinceSorted)
    refine ⟨_, hbuild, ?_⟩
    have hroot : ∀ {leaves root}, canonicalSetRoot verifiers.merkle leaves = .ok root →
        ensureSetRoot verifiers.merkle leaves root = .ok () := by
      intro leaves root hleaves
      rw [ensureSetRoot, hleaves]
      exact Except.ensure_eq_ok.mpr rfl
    refine Except.bind_of (hm.validates h.parentSize) ?_
    refine Except.bind_of (hroot h.joinRoot) ?_
    refine Except.bind_of (hroot h.sinceRoot) ?_
    refine Except.bind_of rfl ?_
    refine Except.bind_of rfl ?_
    refine Except.bind_of hentries ?_
    refine Except.bind_of hcover ?_
    refine Except.bind_of hsentinels ?_
    refine Except.bind_of hcover' ?_
    exact Except.bind_of hshown (Except.ensure_eq_ok.mpr fun _ ha => exists_of_mem_left hids ha)

def threeLeafProofs : AnchorProofs := { lenientProofs with merkle := threeLeafHash }

theorem buildMergeSrxInputs_accepted_iff_threeLeaves :
    ∃ inputs, buildMergeSrxInputs threeLeafHash threeLeaves [betweenLeaves] (.fill 11) [] [] .zero =
        .ok inputs ∧
      verifySrxSets threeLeafProofs ⟨.fill 11, betweenLeaves, .zero, .zero⟩ inputs.payload = .ok () := by
  have hroot : canonicalSetRoot threeLeafHash threeLeaves = .ok (.fill 11) := by decide
  have hsets : MergeSets threeLeafHash threeLeaves [betweenLeaves] [] []
      ⟨.fill 11, betweenLeaves, .zero, .zero⟩ :=
    ⟨by decide, by decide, by decide, by decide, hroot, rfl, rfl, rfl, by decide, nofun, by decide,
      by decide⟩
  exact (buildMergeSrxInputs_accepted_iff threeLeafProofs _ _ _ _ _ hsets
    (.of_binding threeLeaves_binding) (.of_binding hroot threeLeaves_binding)).mpr (.inr rfl)

/-- Leaf 2 joins a room with leaf 1 in which leaf 3 was revoked since. -/
theorem buildMergeSrxInputs_refused :
    MergeSets threeLeafHash [.fill 1] [.fill 2] [.fill 3] [.fill 3]
      ⟨.fill 1, .fill 2, .fill 3, .fill 3⟩ ∧
    (buildMergeSrxInputs threeLeafHash [.fill 1] [.fill 2] (.fill 1) [.fill 3] [.fill 3]
        (.fill 3)).toOption.map (fun inputs => verifySrxSets threeLeafProofs
      ⟨.fill 1, .fill 2, .fill 3, .fill 3⟩ inputs.payload) =
        some (.error (.freeze freezeHashNoncanonical)) := by
  refine ⟨⟨by decide, by decide, by decide, by decide, rfl, rfl, rfl, rfl, by decide, by decide,
    by decide, by decide⟩, by decide +kernel⟩

end Merge

end CityG.Client
