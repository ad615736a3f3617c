import CityG.BarrierRehash
import CityG.BarrierSecrecy

/-!
# The stored hash and hash cache of a group

An update is checked against the stored hash of the tree when nothing has to be
inserted or blanked, and rehashed with the stored cache. If both belong to the
stored tree, what the update leaves belongs to the tree it leaves.
-/

namespace CityG

open HeapTree

/-- The cache holds the hash of every node of a tree of `2 * nMax - 1` entries and
nothing else. -/
structure FullCache (hL : HashL) (nMax : Nat) (pk : PkEntries) (cache : BarrierHashCache) :
    Prop where
  size : cache.size = 2 * nMax - 1
  node : ∀ v hash, cache.get? v = some hash ↔ barrierNodeHash hL nMax pk v = .ok hash

namespace FullCache
variable {hL : HashL} {nMax : Nat} {pk : PkEntries} {cache : BarrierHashCache}

theorem correct (h : FullCache hL nMax pk cache) :
    CorrectCache (barrierDigester hL nMax) pk cache :=
  fun v hash hget => barrierNodeHash_eq_ok.mp ((h.node v hash).mp hget)

theorem lt_length (h : FullCache hL nMax pk cache) {v : Nat} (hv : (cache.get? v).isSome) :
    v < pk.length := by
  obtain ⟨hash, hget⟩ := Option.isSome_iff_exists.mp hv
  exact (h.correct v hash hget).lt_length

end FullCache

section Base

theorem clearBarrierPath_length (pk : PkEntries) (leafNode : Nat) (includeLeaf : Bool) :
    (clearBarrierPath pk leafNode includeLeaf).length = pk.length := by
  have hset : ∀ (nodes : List Nat) (pk : PkEntries),
      (nodes.foldl (fun pk node => pk.set node []) pk).length = pk.length := by
    intro nodes
    induction nodes with
    | nil => exact fun _ => rfl
    | cons node rest ih => exact fun pk => (ih _).trans List.length_set
  exact hset _ pk

theorem insertJoinsAndBlankRevoked_length (nMax : Nat) (byLeaf : OrdMap Nat Bytes)
    (revokedIndices : OrdSet Nat) (pk : PkEntries) :
    (insertJoinsAndBlankRevoked nMax byLeaf revokedIndices pk).length = pk.length := by
  have hjoin : ∀ (entries : List (Nat × Bytes)) (pk : PkEntries), (entries.foldl (fun pk e =>
      blankInternalPathFromLeaf (pk.set (leafNode nMax e.1) e.2) (leafNode nMax e.1)) pk).length =
        pk.length := by
    intro entries
    induction entries with
    | nil => exact fun _ => rfl
    | cons e rest ih =>
      intro pk
      exact (ih _).trans ((clearBarrierPath_length _ _ _).trans List.length_set)
  have hblank : ∀ (slots : List Nat) (pk : PkEntries), (slots.foldl (fun pk slot =>
      blankLeafAndPath pk (leafNode nMax slot)) pk).length = pk.length := by
    intro slots
    induction slots with
    | nil => exact fun _ => rfl
    | cons slot rest ih => exact fun pk => (ih _).trans (clearBarrierPath_length _ _ _)
  exact (hblank _ _).trans (hjoin _ _)

theorem barrierPkEntryLayout_eq_ok {nMax : Nat} {layout : Nat × Nat × Nat}
    (h : barrierPkEntryLayout nMax = .ok layout) :
    layout.2.1 = 2 * (max nMax 1) - 1 := by
  simp only [barrierPkEntryLayout, validateBarrierNMax, Except.bind_eq_ok, Except.ensure_eq_ok,
    Except.pure_eq_ok] at h
  obtain ⟨_, ⟨-, hpow, -, -, rfl⟩, rfl⟩ := h
  have hpos : nMax ≠ 0 := by
    simp only [isPowerOfTwo, decide_eq_true_eq] at hpow
    exact hpow.1
  rw [max_eq_left (Nat.one_le_iff_ne_zero.mpr hpos)]

variable {state : GroupState}

theorem buildFallbackPkEntries_length {pk : PkEntries} (h : buildFallbackPkEntries state = .ok pk) :
    pk.length = 2 * state.treeNMax - 1 := by
  simp only [buildFallbackPkEntries, Except.bind_eq_ok] at h
  obtain ⟨_, -, ⟨nMax, expectedLen, leafBase⟩, hlayout, h⟩ := h
  have hlen : expectedLen = 2 * state.treeNMax - 1 := barrierPkEntryLayout_eq_ok hlayout
  refine Except.foldlM_invariant (fun _ pk => pk.length = 2 * state.treeNMax - 1) ?_ ?_ h
  · intro leaf rest pk pk' hpk hstep
    simp only [Except.bind_eq_ok] at hstep
    obtain ⟨lease, -, hstep⟩ := hstep
    split at hstep
    · rw [← Except.pure_eq_ok.mp hstep, hpk]
    · split at hstep
      · rw [← Except.pure_eq_ok.mp hstep, List.length_set, hpk]
      · rw [← Except.pure_eq_ok.mp hstep, hpk]
  · rw [List.length_replicate, hlen]

theorem committedEntries_length {pk : PkEntries} (h : state.committedEntries = .ok pk) :
    pk.length = 2 * state.treeNMax - 1 := by
  unfold GroupState.committedEntries at h
  split at h
  · simp only [buildPkEntriesView, Except.bind_eq_ok] at h
    obtain ⟨_, -, ⟨nMax, expectedLen, leafBase⟩, hlayout, h⟩ := h
    have hlen : expectedLen = 2 * state.treeNMax - 1 := barrierPkEntryLayout_eq_ok hlayout
    split at h
    next heq => rw [← Except.pure_eq_ok.mp h, heq, hlen]
    next => exact buildFallbackPkEntries_length h
  · simp only [buildAllBlankPkEntries, Except.bind_eq_ok, Except.pure_eq_ok] at h
    obtain ⟨len, hlen, rfl⟩ := h
    rw [List.length_replicate, expectedTreeLen_eq_ok hlen]
    have hpos : 1 ≤ state.treeNMax := le_max_right _ _
    omega

theorem snapshotBase_cases {byLeaf : OrdMap Nat Bytes} {revoked : OrdSet Nat}
    {base : Option PkEntries} (h : state.snapshotBase byLeaf revoked = .ok base) :
    (base = none → state.barrierInitialized = true ∧
      state.barrierPkEntries.length = 2 * state.treeNMax - 1) ∧
    ∀ pk ∈ base, pk.length = 2 * state.treeNMax - 1 := by
  unfold GroupState.snapshotBase at h
  split at h
  next hborrow =>
    cases h
    simp only [GroupState.canBorrowSnapshotBase, decide_eq_true_eq] at hborrow
    exact ⟨fun _ => ⟨hborrow.1, hborrow.2.1⟩, by simp⟩
  next =>
    simp only [Except.bind_eq_ok, Except.pure_eq_ok] at h
    obtain ⟨pk, hpk, rfl⟩ := h
    refine ⟨by simp, fun pk' hpk' => ?_⟩
    cases hpk'
    rw [insertJoinsAndBlankRevoked_length, committedEntries_length hpk]

theorem UpdateAccepted.base_cases {hL : HashL} {header : HeaderMap} {delta : MembershipDelta}
    {reason : Nat} {byLeaf : OrdMap Nat Bytes} {revoked : OrdSet Nat}
    {author : GroupState.UpdateAuthor} {base : Option PkEntries}
    {outcome : BarrierUpdateValidationOutcome}
    (h : UpdateAccepted hL state header delta reason byLeaf revoked author base outcome) :
    (base = none → state.barrierInitialized = true ∧
      state.barrierPkEntries.length = 2 * state.treeNMax - 1) ∧
    ∀ pk ∈ base, pk.length = 2 * state.treeNMax - 1 := by
  obtain ⟨base₀, hbase₀, hbase⟩ := h.base_ok
  unfold GroupState.reclaimBase at hbase
  split at hbase
  · exact snapshotBase_cases hbase
  · cases hbase
    exact snapshotBase_cases hbase₀

end Base

theorem writeNewPublicKeys_changes {keys : List (Nat × Bytes)} :
    ∀ {pk pk' : PkEntries}, writeNewPublicKeys pk keys = .ok pk' →
      (∀ i ∈ keys.map Prod.fst, i < pk.length) ∧
      ∀ i, pk[i]? ≠ pk'[i]? → i ∈ keys.map Prod.fst := by
  induction keys with
  | nil =>
    intro pk pk' h
    obtain rfl := Except.pure_eq_ok.mp h
    exact ⟨by simp, fun i hne => absurd rfl hne⟩
  | cons key rest ih =>
    intro pk pk' h
    rw [writeNewPublicKeys, List.foldlM_cons, Except.bind_eq_ok] at h
    obtain ⟨written, hstep, hrest⟩ := h
    simp only [Except.bind_eq_ok, Except.ensure_eq_ok, Except.pure_eq_ok] at hstep
    obtain ⟨_, hlt, rfl⟩ := hstep
    obtain ⟨hrange, hchanged⟩ := ih hrest
    rw [List.length_set] at hrange
    refine ⟨by simpa using ⟨hlt, by simpa using hrange⟩, fun i hne => ?_⟩
    rw [List.map_cons, List.mem_cons]
    by_cases hi : i = key.1
    · exact .inl hi
    · refine .inr (hchanged i ?_)
      rwa [List.getElem?_set_ne (Ne.symm hi)]

section Merged
variable {hL : HashL} {nMax : Nat} {pre post : PkEntries} {stored grown after : BarrierHashCache}

/-- The hashes found after a change over those found before it, over the stored ones: full, if every
stored hash that still shows is one of the tree before the change. -/
theorem mergedCache_full (hlen : pre.length = post.length) (hfull : post.length = 2 * nMax - 1)
    (hshows : ∀ v hash, grown.get? v = none → stored.get? v = some hash →
      Digest (barrierDigester hL nMax) pre v hash)
    (hgrown : CorrectCache (barrierDigester hL nMax) pre grown)
    (hafter : CorrectCache (barrierDigester hL nMax) post after)
    (hsame : ∀ v < post.length, after.get? v = none → SameBelow pre post v)
    (hsize : ((stored.extend grown).extend after).size = 2 * nMax - 1) :
    FullCache hL nMax post ((stored.extend grown).extend after) := by
  have hdigest : ∀ v hash, ((stored.extend grown).extend after).get? v = some hash →
      Digest (barrierDigester hL nMax) post v hash := by
    intro v hash hget
    rw [OrdMap.get?_extend, OrdMap.get?_extend] at hget
    cases hnew : after.get? v with
    | some h =>
      rw [hnew, Option.some_or] at hget
      exact Option.some.inj hget ▸ hafter v h hnew
    | none =>
      rw [hnew, Option.none_or] at hget
      have hold : Digest (barrierDigester hL nMax) pre v hash := by
        cases hfound : grown.get? v with
        | some h =>
          rw [hfound, Option.some_or] at hget
          exact Option.some.inj hget ▸ hgrown v h hfound
        | none =>
          rw [hfound, Option.none_or] at hget
          exact hshows v hash hfound hget
      exact hold.congr (hsame v (hlen ▸ hold.lt_length) hnew)
  refine ⟨hsize, fun v hash => ?_⟩
  rw [barrierNodeHash_eq_ok]
  refine ⟨hdigest v hash, fun hd => ?_⟩
  have hlt : ∀ u ∈ (stored.extend grown).extend after, u < 2 * nMax - 1 := by
    intro u hu
    obtain ⟨h, hget⟩ := OrdMap.mem_iff.mp hu
    exact hfull ▸ (hdigest u h hget).lt_length
  obtain ⟨h, hget⟩ := OrdMap.mem_iff.mp (OrdMap.mem_of_size hsize hlt (hfull ▸ hd.lt_length))
  rw [hget, (hdigest v h hget).unique hd]

end Merged

structure GroupState.StoredTree (hL : HashL) (state : GroupState) : Prop where
  hashed : state.barrierInitialized = true →
    computeBarrierTreeHash hL state.treeNMax state.barrierPkEntries = .ok state.kemTreeHashAfter
  cached : 2 ≤ state.treeNMax → ∀ cache ∈ state.barrierHashCache,
    FullCache hL state.treeNMax state.barrierPkEntries cache
  uncached : state.barrierInitialized = false → state.barrierHashCache = none

section Update
variable {hL : HashL} {state : GroupState} {header : HeaderMap} {delta : MembershipDelta}
  {reason : Nat} {byLeaf : OrdMap Nat Bytes} {revoked : OrdSet Nat}
  {author : GroupState.UpdateAuthor} {base : Option PkEntries}
  {outcome : BarrierUpdateValidationOutcome}

theorem GroupState.StoredTree.lt_of_cached (h : state.StoredTree hL) (hsize : 2 ≤ state.treeNMax)
    {cache : BarrierHashCache} (hcache : cache ∈ state.barrierHashCache) {v : Nat} {hash : Bytes32}
    (hget : cache.get? v = some hash) : v < 2 * state.treeNMax - 1 := by
  have hinit : state.barrierInitialized = true := by
    by_contra hne
    rw [h.uncached (Bool.eq_false_iff.mpr hne)] at hcache
    cases hcache
  have hlen := expectedTreeLen_eq_ok (computeBarrierTreeHash_eq_ok.mp (h.hashed hinit)).1
  have hlt := (h.cached hsize cache hcache).lt_length (Option.isSome_of_mem hget)
  omega

/-- The hash the update is checked against is that of the tree it starts from, and the hashes found
on the way are right; found for a rebuilt tree, they are all there. -/
theorem hashBefore_digest {before : Bytes32 × BarrierHashCache}
    (hstored : state.StoredTree hL)
    (hborrowed : base = none → state.barrierInitialized = true ∧
      state.barrierPkEntries.length = 2 * state.treeNMax - 1)
    (hrebuilt : ∀ pk ∈ base, pk.length = 2 * state.treeNMax - 1)
    (h : hashBefore hL state base = .ok before) :
    let pre := base.getD state.barrierPkEntries
    pre.length = 2 * state.treeNMax - 1 ∧
      Digest (barrierDigester hL state.treeNMax) pre 0 before.1 ∧
      CorrectCache (barrierDigester hL state.treeNMax) pre before.2 ∧
      (base ≠ none → CompleteCache (barrierDigester hL state.treeNMax) pre before.2) := by
  have hpos : 1 ≤ state.treeNMax := le_max_right _ _
  cases base with
  | none =>
    cases h
    obtain ⟨hinit, hlen⟩ := hborrowed rfl
    exact ⟨hlen, (computeBarrierTreeHash_eq_ok.mp (hstored.hashed hinit)).2, correctCache_empty,
      fun hne => absurd rfl hne⟩
  | some pk =>
    have hlen := hrebuilt pk rfl
    have hfull : pk.length = 2 * (state.treeNMax - 1) + 1 := by omega
    obtain ⟨hash, cache, hok, hd, hcorrect, hcomplete⟩ :=
      @computeBarrierSubtreeHashCached_complete hL state.treeNMax pk hfull
    cases hok.symm.trans h
    exact ⟨hlen, hd, hcorrect, fun _ => hcomplete⟩

theorem UpdateAccepted.stored
    (h : UpdateAccepted hL state header delta reason byLeaf revoked author base outcome)
    (hstored : state.StoredTree hL)
    (hexpected : expectedTreeLen state.treeNMax = .ok (2 * state.treeNMax - 1))
    (hkeys : outcome.parsed.newPublicKeys ≠ [] → 2 ≤ state.treeNMax) :
    computeBarrierTreeHash hL state.treeNMax outcome.snapshotPost =
        .ok outcome.parsed.kemTreeHashAfter ∧
      (outcome.parsed.newPublicKeys ≠ [] → ∀ cache ∈ outcome.hashCachePost,
        FullCache hL state.treeNMax outcome.snapshotPost cache) := by
  obtain ⟨hborrowed, hrebuilt⟩ := h.base_cases
  obtain ⟨before, hbefore, hafter⟩ := h.hashes_ok
  obtain ⟨hprelen, hdigest, hcorrect, hcomplete⟩ :=
    hashBefore_digest hstored hborrowed hrebuilt hbefore
  rw [← h.pre_eq] at hprelen hdigest hcorrect hcomplete
  have hpostlen : outcome.snapshotPost.length = 2 * state.treeNMax - 1 :=
    (writeNewPublicKeys_length h.post_ok).trans hprelen
  obtain ⟨hrange, hchanged⟩ := writeNewPublicKeys_changes h.post_ok
  by_cases hempty : outcome.parsed.newPublicKeys = []
  · -- Without new keys the tree stays, and with it the hash.
    have hpost := h.post_ok
    rw [hempty] at hpost
    obtain hsame := Except.pure_eq_ok.mp hpost
    rw [hashAfter, hempty, if_pos (show ([] : List (Nat × Bytes)).isEmpty = true from rfl)] at hafter
    obtain ⟨hhash, -⟩ := Prod.mk.inj (Except.ok.inj hafter)
    refine ⟨computeBarrierTreeHash_eq_ok.mpr ⟨?_, ?_⟩, fun hne => absurd hempty hne⟩
    · rw [hpostlen, hexpected]
    · rw [← hsame, ← hhash]
      exact hdigest
  · have hsize := hkeys hempty
    have hbase : ∀ cache ∈ (if base.isNone then state.barrierHashCache else none),
        CorrectCache (barrierDigester hL state.treeNMax) outcome.snapshotPre cache := by
      intro cache hcache
      cases hb : base with
      | none =>
        rw [h.pre_eq, hb]
        rw [hb] at hcache
        exact (hstored.cached hsize cache hcache).correct
      | some pk =>
        rw [hb] at hcache
        cases hcache
    obtain ⟨root, after, grown, hok, hd, hnew, hgrown, hgrows, hsame⟩ :=
      computeBarrierTreeHashWithChanges_spec (by rw [hpostlen, hexpected])
        (hprelen.trans hpostlen.symm)
        (fun i hi => hpostlen ▸ hprelen ▸ hrange i (OrdSet.mem_ofList.mp hi))
        (fun i hne => OrdSet.mem_ofList.mpr (hchanged i hne)) hbase hcorrect
    rw [hashAfter, if_neg (by simpa using hempty), hok, Except.ok_bind] at hafter
    obtain ⟨rfl, hcache⟩ := Prod.mk.inj (Except.ok.inj hafter)
    refine ⟨computeBarrierTreeHash_eq_ok.mpr ⟨by rw [hpostlen, hexpected], hd⟩, fun _ => ?_⟩
    rw [← hcache]
    intro cache hmem
    split at hmem
    next hmerged =>
      cases hmem
      refine mergedCache_full (hprelen.trans hpostlen.symm) hpostlen ?_ hgrown hnew hsame hmerged
      intro v hash hnone hget
      cases hc : state.barrierHashCache with
      | none =>
        rw [hc] at hget
        cases hget
      | some stored =>
        rw [hc] at hget
        cases hb : base with
        | none =>
          rw [h.pre_eq, hb]
          exact (hstored.cached hsize stored hc).correct v hash hget
        | some pk =>
          -- The rebuilt tree was hashed in full: no stored hash shows.
          have hlt := hstored.lt_of_cached hsize hc hget
          obtain ⟨k, hk, -⟩ := hcomplete (by simp [hb]) v (by omega)
          rw [hgrows v k hk] at hnone
          cases hnone
    next => cases hmem

end Update

end CityG
