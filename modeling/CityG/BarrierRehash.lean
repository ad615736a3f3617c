import CityG.BarrierHash
import CityG.Lib.HeapHash

/-!
# Rehashing the changed part of the barrier key tree

The functions of the source compute the digest of the tree, with caches or
without. After a change only the nodes above it are hashed anew; the caches of
the old tree answer for the others.
-/

namespace CityG

open HeapTree

def barrierDigester (hL : HashL) (nMax : Nat) : Digester Bytes Bytes32 where
  leafBase := nMax - 1
  leaf := barrierTreeLeafHash hL nMax
  inner := barrierTreeNodeHash hL nMax

section Recursive

variable {hL : HashL} {nMax : Nat} {pk : PkEntries}

variable {hash : Bytes32}

theorem computeBarrierTreeHashRecursive_of_digest {v fuel : Nat}
    (hd : Digest (barrierDigester hL nMax) pk v hash) (hfuel : pk.length ≤ fuel + v) :
    computeBarrierTreeHashRecursive hL nMax pk fuel v = .ok hash := by
  induction hd generalizing fuel with
  | leaf hv he =>
    have hlt := (List.getElem?_eq_some_iff.mp he).1
    obtain ⟨fuel, rfl⟩ : ∃ n, fuel = n + 1 := ⟨fuel - 1, by omega⟩
    have hv' : nMax - 1 ≤ _ := hv
    rw [computeBarrierTreeHashRecursive, he, Except.ofOption, Except.ok_bind, if_pos hv']
    rfl
  | inner hv he _ _ ihl ihr =>
    have hlt := (List.getElem?_eq_some_iff.mp he).1
    obtain ⟨fuel, rfl⟩ : ∃ n, fuel = n + 1 := ⟨fuel - 1, by omega⟩
    have hv' : ¬nMax - 1 ≤ _ := Nat.not_le.mpr hv
    rw [computeBarrierTreeHashRecursive, he, Except.ofOption, Except.ok_bind, if_neg hv',
      ihl (by simp only [leftChild]; omega), Except.ok_bind,
      ihr (by simp only [rightChild]; omega), Except.ok_bind]
    rfl

theorem digest_of_computeBarrierTreeHashRecursive {v fuel : Nat}
    (h : computeBarrierTreeHashRecursive hL nMax pk fuel v = .ok hash) :
    Digest (barrierDigester hL nMax) pk v hash := by
  induction fuel generalizing v hash with
  | zero => cases h
  | succ fuel ih =>
    rw [computeBarrierTreeHashRecursive, Except.bind_eq_ok] at h
    obtain ⟨entry, hentry, h⟩ := h
    rw [Except.ofOption_eq_ok] at hentry
    split at h
    next hv =>
      obtain rfl := Except.pure_eq_ok.mp h
      exact .leaf hv hentry
    next hv =>
      simp only [Except.bind_eq_ok, Except.pure_eq_ok] at h
      obtain ⟨left, hl, right, hr, rfl⟩ := h
      exact .inner (Nat.lt_of_not_le hv) hentry (ih hl) (ih hr)

theorem expectedTreeLen_eq_ok {len : Nat} (h : expectedTreeLen nMax = .ok len) :
    len = 2 * (nMax - 1) + 1 := by
  simp only [expectedTreeLen, Except.bind_eq_ok, Except.ensure_eq_ok, Except.pure_eq_ok] at h
  obtain ⟨-, ⟨hzero, -⟩, rfl⟩ := h
  omega

theorem computeBarrierTreeHash_eq_ok :
    computeBarrierTreeHash hL nMax pk = .ok hash ↔
      expectedTreeLen nMax = .ok pk.length ∧ Digest (barrierDigester hL nMax) pk 0 hash := by
  simp only [computeBarrierTreeHash, Except.bind_eq_ok, Except.ensure_eq_ok]
  constructor
  · rintro ⟨len, hlen, -, rfl, hhash⟩
    exact ⟨hlen, digest_of_computeBarrierTreeHashRecursive hhash⟩
  · rintro ⟨hlen, hd⟩
    exact ⟨_, hlen, (), rfl, computeBarrierTreeHashRecursive_of_digest hd (by omega)⟩

end Recursive

section Cached

variable {hL : HashL} {nMax : Nat} {old pk : PkEntries} {baseCache : Option BarrierHashCache}

def CacheGrows (cache cache' : BarrierHashCache) : Prop :=
  ∀ v hash, cache.get? v = some hash → cache'.get? v = some hash

theorem CacheGrows.refl (cache : BarrierHashCache) : CacheGrows cache cache := fun _ _ h => h

theorem CacheGrows.trans {a b c : BarrierHashCache} (hab : CacheGrows a b) (hbc : CacheGrows b c) :
    CacheGrows a c := fun v hash h => hbc v hash (hab v hash h)

variable {cache : BarrierHashCache} {v : Nat} {hash : Bytes32}

theorem CacheGrows.insert {cache' : BarrierHashCache} (h : CacheGrows cache cache')
    (hnone : cache.get? v = none) : CacheGrows cache (cache'.insert v hash) := by
  intro u k hget
  rw [OrdMap.get?_insert, if_neg]
  · exact h u k hget
  · rintro rfl
    rw [hnone] at hget
    cases hget

/-- Below a node without changes the cached computation gives the digest, from right digests of the
old tree, and leaves right digests of the old tree. -/
theorem computeBarrierSubtreeHashCached_spec (hfull : pk.length = 2 * (nMax - 1) + 1)
    (hbase : ∀ cache ∈ baseCache, CorrectCache (barrierDigester hL nMax) old cache) {fuel : Nat}
    (hs : SameBelow old pk v) (hv : v < pk.length) (hfuel : pk.length ≤ fuel + v)
    (hcache : CorrectCache (barrierDigester hL nMax) old cache) :
    ∃ hash cache', computeBarrierSubtreeHashCached hL nMax pk baseCache fuel v cache =
        .ok (hash, cache') ∧
      Digest (barrierDigester hL nMax) pk v hash ∧
      CorrectCache (barrierDigester hL nMax) old cache' ∧ CacheGrows cache cache' := by
  induction fuel generalizing v cache with
  | zero => omega
  | succ fuel ih =>
    unfold computeBarrierSubtreeHashCached
    cases hget : cache.get? v with
    | some existing =>
      exact ⟨existing, cache, rfl, (hcache v existing hget).congr hs, hcache, .refl cache⟩
    | none =>
    cases hget' : baseCache.bind (·.get? v) with
    | some existing =>
      obtain ⟨base, hb, hbget⟩ := Option.bind_eq_some_iff.mp hget'
      exact ⟨existing, cache, rfl, (hbase base hb v existing hbget).congr hs, hcache, .refl cache⟩
    | none =>
    obtain ⟨entry, hentry⟩ : ∃ e, pk[v]? = some e := ⟨pk[v], List.getElem?_eq_getElem hv⟩
    simp only [hentry, Except.ofOption, Except.ok_bind]
    by_cases hleaf : nMax - 1 ≤ v
    · rw [if_pos hleaf]
      have hd : Digest (barrierDigester hL nMax) pk v (barrierTreeLeafHash hL nMax v entry) :=
        .leaf hleaf hentry
      exact ⟨_, _, rfl, hd, hcache.insert (hd.congr hs.symm), (CacheGrows.refl cache).insert hget⟩
    · rw [if_neg hleaf]
      have hlv : leftChild v < pk.length := by simp only [leftChild]; omega
      have hrv : rightChild v < pk.length := by simp only [rightChild]; omega
      obtain ⟨left, cache₁, hl, hdl, hc₁, hg₁⟩ :=
        ih hs.leftChild hlv (by simp only [leftChild]; omega) hcache
      obtain ⟨right, cache₂, hr, hdr, hc₂, hg₂⟩ :=
        ih hs.rightChild hrv (by simp only [rightChild]; omega) hc₁
      have hd : Digest (barrierDigester hL nMax) pk v
          (barrierTreeNodeHash hL nMax v entry left right) :=
        .inner (Nat.lt_of_not_le hleaf) hentry hdl hdr
      refine ⟨_, cache₂.insert v (barrierTreeNodeHash hL nMax v entry left right), ?_, hd,
        hc₂.insert (hd.congr hs.symm), (hg₁.trans hg₂).insert hget⟩
      rw [hl, Except.ok_bind]
      simp only
      rw [hr, Except.ok_bind]
      rfl

def DownwardClosed (len : Nat) (cache : BarrierHashCache) : Prop :=
  ∀ v, (cache.get? v).isSome → ∀ x < len, Above v x → (cache.get? x).isSome

theorem DownwardClosed.insert (h : DownwardClosed pk.length cache)
    (hbelow : ∀ x < pk.length, Above v x → x ≠ v → (cache.get? x).isSome) :
    DownwardClosed pk.length (cache.insert v hash) := by
  intro u hu x hx hux
  rw [OrdMap.get?_insert] at hu ⊢
  split_ifs with hxv
  · rfl
  · split_ifs at hu with huv
    · exact hbelow x hx (huv ▸ hux) hxv
    · exact h u hu x hx hux

theorem below_child {x : Nat} (h : Above v x) (hne : x ≠ v) :
    Above (leftChild v) x ∨ Above (rightChild v) x :=
  h.cases_child.resolve_left (Ne.symm hne)

theorem eq_of_above_leaf (hfull : pk.length = 2 * (nMax - 1) + 1) {x : Nat} (hleaf : nMax - 1 ≤ v)
    (hx : x < pk.length) (h : Above v x) : x = v := by
  by_contra hne
  rcases below_child h hne with hc | hc <;>
    · have hle := hc.le
      simp only [leftChild, rightChild] at hle
      omega

theorem isSome_get?_insert {u : Nat} (h : (cache.get? u).isSome) :
    ((cache.insert v hash).get? u).isSome := by
  rw [OrdMap.get?_insert]
  split_ifs
  · rfl
  · exact h

theorem computeBarrierSubtreeHashCached_closed (hfull : pk.length = 2 * (nMax - 1) + 1) {fuel : Nat}
    {cache' : BarrierHashCache} (hclosed : DownwardClosed pk.length cache)
    (h : computeBarrierSubtreeHashCached hL nMax pk none fuel v cache = .ok (hash, cache')) :
    DownwardClosed pk.length cache' ∧ (cache'.get? v).isSome ∧
      ∀ u, (cache.get? u).isSome → (cache'.get? u).isSome := by
  induction fuel generalizing v cache cache' hash with
  | zero => cases h
  | succ fuel ih =>
    unfold computeBarrierSubtreeHashCached at h
    cases hget : cache.get? v with
    | some existing =>
      simp only [hget, Except.pure_eq_ok, Prod.mk.injEq] at h
      obtain ⟨rfl, rfl⟩ := h
      exact ⟨hclosed, by rw [hget]; rfl, fun _ hu => hu⟩
    | none =>
    simp only [hget, Option.bind_none, Except.bind_eq_ok, Except.ofOption_eq_ok] at h
    obtain ⟨entry, hentry, h⟩ := h
    have hv := (List.getElem?_eq_some_iff.mp hentry).1
    split at h
    next hleaf =>
      simp only [Except.pure_eq_ok, Prod.mk.injEq] at h
      obtain ⟨rfl, rfl⟩ := h
      refine ⟨hclosed.insert fun x hx hvx hne => ?_, by simp, fun u hu => isSome_get?_insert hu⟩
      exact absurd (eq_of_above_leaf hfull hleaf hx hvx) hne
    next hleaf =>
      simp only [Except.bind_eq_ok, Except.pure_eq_ok, Prod.exists, Prod.mk.injEq] at h
      obtain ⟨left, cache₁, hl, right, cache₂, hr, rfl, rfl⟩ := h
      obtain ⟨hc₁, hl₁, hg₁⟩ := ih hclosed hl
      obtain ⟨hc₂, hr₂, hg₂⟩ := ih hc₁ hr
      refine ⟨hc₂.insert fun x hx hvx hne => ?_, by simp,
        fun u hu => isSome_get?_insert (hg₂ u (hg₁ u hu))⟩
      rcases below_child hvx hne with hc | hc
      · exact hc₂ _ (hg₂ _ hl₁) x hx hc
      · exact hc₂ _ hr₂ x hx hc

theorem computeBarrierSubtreeHashCached_complete (hfull : pk.length = 2 * (nMax - 1) + 1) :
    ∃ hash cache, computeBarrierSubtreeHashCached hL nMax pk none pk.length 0 .empty =
        .ok (hash, cache) ∧
      Digest (barrierDigester hL nMax) pk 0 hash ∧
      CorrectCache (barrierDigester hL nMax) pk cache ∧
      CompleteCache (barrierDigester hL nMax) pk cache := by
  have hself : SameBelow pk pk 0 := fun _ _ => rfl
  have hbase : ∀ cache ∈ (none : Option BarrierHashCache),
      CorrectCache (barrierDigester hL nMax) pk cache := by simp
  obtain ⟨hash, cache, hok, hd, hcorrect, -⟩ := computeBarrierSubtreeHashCached_spec hfull hbase
    hself (by omega) (Nat.le_add_right pk.length 0) correctCache_empty
  obtain ⟨hclosed, hroot, -⟩ := computeBarrierSubtreeHashCached_closed hfull
    (fun u hu => by simp at hu) hok
  refine ⟨hash, cache, hok, hd, hcorrect, fun v hv => ?_⟩
  obtain ⟨h, hget⟩ := Option.isSome_iff_exists.mp (hclosed 0 hroot v hv (root_above v))
  exact ⟨h, hget, hcorrect v h hget⟩

end Cached

section AfterChanges

variable {hL : HashL} {nMax : Nat} {old pk : PkEntries} {baseCache : Option BarrierHashCache}
  {impacted : OrdSet Nat}

def CoversImpacted (impacted : OrdSet Nat) (len : Nat) (after : BarrierHashCache) : Prop :=
  ∀ v, (after.get? v).isSome → ∀ x < len, x ∈ impacted → Above v x → (after.get? x).isSome

theorem CoversImpacted.insert {after : BarrierHashCache} {v : Nat} {hash : Bytes32}
    (h : CoversImpacted impacted pk.length after)
    (hbelow : ∀ x < pk.length, x ∈ impacted → Above v x → x ≠ v → (after.get? x).isSome) :
    CoversImpacted impacted pk.length (after.insert v hash) := by
  intro u hu x hx hxi hux
  rw [OrdMap.get?_insert] at hu ⊢
  split_ifs with hxv
  · rfl
  · split_ifs at hu with huv
    · exact hbelow x hx hxi (huv ▸ hux) hxv
    · exact h u hu x hx hxi hux

structure Rehashed (hL : HashL) (nMax : Nat) (pk : PkEntries) (impacted : OrdSet Nat) (v : Nat)
    (after after' : BarrierHashCache) : Prop where
  correct : CorrectCache (barrierDigester hL nMax) pk after'
  covers : CoversImpacted impacted pk.length after'
  grows : ∀ u, (after.get? u).isSome → (after'.get? u).isSome
  node : ∀ x < pk.length, x ∈ impacted → Above v x → (after'.get? x).isSome

theorem computeBarrierSubtreeHashAfterChanges_spec (hfull : pk.length = 2 * (nMax - 1) + 1)
    (hbase : ∀ cache ∈ baseCache, CorrectCache (barrierDigester hL nMax) old cache)
    (hsame : ∀ u, u ∉ impacted → SameBelow old pk u)
    (hup : ∀ u x, Above u x → x ∈ impacted → u ∈ impacted) {fuel v : Nat}
    {before after : BarrierHashCache} (hv : v < pk.length) (hfuel : pk.length ≤ fuel + v)
    (hbefore : CorrectCache (barrierDigester hL nMax) old before)
    (hafter : CorrectCache (barrierDigester hL nMax) pk after)
    (hcovers : CoversImpacted impacted pk.length after) :
    ∃ hash before' after', computeBarrierSubtreeHashAfterChanges hL nMax pk impacted baseCache
        fuel v before after = .ok (hash, before', after') ∧
      Digest (barrierDigester hL nMax) pk v hash ∧
      CorrectCache (barrierDigester hL nMax) old before' ∧ CacheGrows before before' ∧
      Rehashed hL nMax pk impacted v after after' := by
  induction fuel generalizing v before after with
  | zero => omega
  | succ fuel ih =>
    unfold computeBarrierSubtreeHashAfterChanges
    cases hget : after.get? v with
    | some existing =>
      refine ⟨existing, before, after, rfl, hafter v existing hget, hbefore, .refl before,
        hafter, hcovers, fun _ hu => hu, fun x hx hxi hvx => ?_⟩
      exact hcovers v (by rw [hget]; rfl) x hx hxi hvx
    | none =>
    by_cases himp : v ∈ impacted
    · rw [if_neg (not_not.mpr himp)]
      obtain ⟨entry, hentry⟩ : ∃ e, pk[v]? = some e := ⟨pk[v], List.getElem?_eq_getElem hv⟩
      simp only [hentry, Except.ofOption, Except.ok_bind]
      by_cases hleaf : nMax - 1 ≤ v
      · rw [if_pos hleaf]
        have hd : Digest (barrierDigester hL nMax) pk v (barrierTreeLeafHash hL nMax v entry) :=
          .leaf hleaf hentry
        refine ⟨_, before, _, rfl, hd, hbefore, .refl before, hafter.insert hd,
          hcovers.insert fun x hx _ hvx hne => ?_, fun u hu => isSome_get?_insert hu,
          fun x hx _ hvx => ?_⟩
        · exact absurd (eq_of_above_leaf hfull hleaf hx hvx) hne
        · rw [eq_of_above_leaf hfull hleaf hx hvx]
          simp
      · rw [if_neg hleaf]
        have hlv : leftChild v < pk.length := by simp only [leftChild]; omega
        have hrv : rightChild v < pk.length := by simp only [rightChild]; omega
        obtain ⟨left, before₁, after₁, hl, hdl, hb₁, hg₁, hre₁⟩ :=
          ih hlv (by simp only [leftChild]; omega) hbefore hafter hcovers
        obtain ⟨right, before₂, after₂, hr, hdr, hb₂, hg₂, hre₂⟩ :=
          ih hrv (by simp only [rightChild]; omega) hb₁ hre₁.correct hre₁.covers
        have hd : Digest (barrierDigester hL nMax) pk v
            (barrierTreeNodeHash hL nMax v entry left right) :=
          .inner (Nat.lt_of_not_le hleaf) hentry hdl hdr
        have hbelow : ∀ x < pk.length, x ∈ impacted → Above v x → x ≠ v →
            (after₂.get? x).isSome := by
          intro x hx hxi hvx hne
          rcases below_child hvx hne with hc | hc
          · exact hre₂.grows x (hre₁.node x hx hxi hc)
          · exact hre₂.node x hx hxi hc
        refine ⟨_, before₂, after₂.insert v (barrierTreeNodeHash hL nMax v entry left right), ?_,
          hd, hb₂, hg₁.trans hg₂, hre₂.correct.insert hd, hre₂.covers.insert hbelow,
          fun u hu => isSome_get?_insert (hre₂.grows u (hre₁.grows u hu)),
          fun x hx hxi hvx => ?_⟩
        · rw [hl, Except.ok_bind]
          simp only
          rw [hr, Except.ok_bind]
          rfl
        · rw [OrdMap.get?_insert]
          split_ifs with hxv
          · rfl
          · exact hbelow x hx hxi hvx hxv
    · rw [if_pos himp]
      obtain ⟨hash, before', hok, hd, hb', hg'⟩ :=
        computeBarrierSubtreeHashCached_spec hfull hbase (hsame v himp) hv hfuel hbefore
      refine ⟨hash, before', after, ?_, hd, hb', hg', hafter, hcovers, fun _ hu => hu,
        fun x _ hxi hvx => absurd (hup v x hvx hxi) himp⟩
      simp only [hok, Except.ok_bind]
      rfl

variable {changed : OrdSet Nat}

theorem mem_impacted {u : Nat} :
    u ∈ OrdSet.ofList (changed.keys.flatMap directPathNodes) ↔ ∃ x ∈ changed, Above u x := by
  simp only [OrdSet.mem_ofList, List.mem_flatMap, directPathNodes, mem_path, OrdMap.mem_keys]

theorem computeBarrierTreeHashWithChanges_spec {before : BarrierHashCache}
    (hexpected : expectedTreeLen nMax = .ok pk.length) (hlen : old.length = pk.length)
    (hrange : ∀ i ∈ changed, i < pk.length) (hchanged : ∀ i, old[i]? ≠ pk[i]? → i ∈ changed)
    (hbase : ∀ cache ∈ baseCache, CorrectCache (barrierDigester hL nMax) old cache)
    (hbefore : CorrectCache (barrierDigester hL nMax) old before) :
    ∃ root after grown, computeBarrierTreeHashWithChanges hL nMax pk changed baseCache before =
        .ok (root, after, grown) ∧
      Digest (barrierDigester hL nMax) pk 0 root ∧
      CorrectCache (barrierDigester hL nMax) pk after ∧
      CorrectCache (barrierDigester hL nMax) old grown ∧ CacheGrows before grown ∧
      ∀ v < pk.length, after.get? v = none → SameBelow old pk v := by
  have hfull := expectedTreeLen_eq_ok hexpected
  by_cases hempty : changed.isEmpty = true
  · -- Nothing changed: the hash is computed from scratch.
    have hnone : ∀ i, i ∉ changed := by
      intro i hi
      have hkeys := OrdMap.mem_keys.mpr hi
      rw [OrdMap.keys, List.isEmpty_iff.mp hempty] at hkeys
      simp at hkeys
    have hsame : ∀ v, SameBelow old pk v := fun v x _ => by
      by_contra hne
      exact hnone x (hchanged x hne)
    obtain ⟨root, hd⟩ := exists_digest (d := barrierDigester hL nMax) hfull
      (show 0 < pk.length by omega)
    refine ⟨root, .empty, before, ?_, hd, correctCache_empty, hbefore, .refl before,
      fun v _ _ => hsame v⟩
    simp only [computeBarrierTreeHashWithChanges, Except.bind_eq_ok, Except.ensure_eq_ok]
    refine ⟨pk.length, hexpected, (), rfl, ?_⟩
    rw [if_pos hempty, computeBarrierTreeHash_eq_ok.mpr ⟨hexpected, hd⟩]
    rfl
  · have hsame : ∀ u, u ∉ OrdSet.ofList (changed.keys.flatMap directPathNodes) →
        SameBelow old pk u := by
      intro u hu x hux
      by_contra hne
      exact hu (mem_impacted.mpr ⟨x, hchanged x hne, hux⟩)
    have hup : ∀ u x, Above u x → x ∈ OrdSet.ofList (changed.keys.flatMap directPathNodes) →
        u ∈ OrdSet.ofList (changed.keys.flatMap directPathNodes) := by
      intro u x hux hx
      obtain ⟨y, hy, hxy⟩ := mem_impacted.mp hx
      exact mem_impacted.mpr ⟨y, hy, hux.trans hxy⟩
    obtain ⟨root, grown, after, hok, hd, hgrown, hgrows, hre⟩ :=
      computeBarrierSubtreeHashAfterChanges_spec hfull hbase hsame hup
        (show 0 < pk.length by omega) (Nat.le_add_right pk.length 0) hbefore
        correctCache_empty (fun v hv => by simp at hv)
    refine ⟨root, after, grown, ?_, hd, hre.correct, hgrown, hgrows,
      fun v hv hget => hsame v fun himp => ?_⟩
    · simp only [computeBarrierTreeHashWithChanges, Except.bind_eq_ok, Except.ensure_eq_ok]
      refine ⟨pk.length, hexpected, (), rfl, ?_⟩
      rw [if_neg hempty, Except.bind_eq_ok]
      refine ⟨(), ?_, ?_⟩
      · exact Except.ensure_eq_ok.mpr fun node hnode => hrange node (OrdMap.mem_keys.mp hnode)
      · rw [hok, Except.ok_bind]
        rfl
    · have hsome := hre.node v hv himp (root_above v)
      rw [hget] at hsome
      cases hsome

end AfterChanges

def barrierNodeHash (hL : HashL) (nMax : Nat) (pk : PkEntries) (node : Nat) :
    Except CityGError Bytes32 :=
  computeBarrierTreeHashRecursive hL nMax pk pk.length node

theorem barrierNodeHash_eq_ok {hL : HashL} {nMax : Nat} {pk : PkEntries} {node : Nat}
    {hash : Bytes32} :
    barrierNodeHash hL nMax pk node = .ok hash ↔ Digest (barrierDigester hL nMax) pk node hash :=
  ⟨digest_of_computeBarrierTreeHashRecursive,
    fun hd => computeBarrierTreeHashRecursive_of_digest hd (Nat.le_add_right _ _)⟩

/-- With caches of right hashes of the old tree and all changes named, the incremental hash is the
hash of the new tree, and its cache laid over a full one of the old tree is full for the new one. -/
theorem computeBarrierTreeHashWithChanges_eq (hL : HashL) (nMax : Nat) {old pk : PkEntries}
    {changed : OrdSet Nat} {baseCache : Option BarrierHashCache} {before : BarrierHashCache}
    (hlen : old.length = pk.length) (hrange : ∀ i ∈ changed, i < pk.length)
    (hchanged : ∀ i, old[i]? ≠ pk[i]? → i ∈ changed)
    (hbase : ∀ cache ∈ baseCache, ∀ v hash, cache.get? v = some hash →
      barrierNodeHash hL nMax old v = .ok hash)
    (hbefore : ∀ v hash, before.get? v = some hash → barrierNodeHash hL nMax old v = .ok hash) :
    (computeBarrierTreeHashWithChanges hL nMax pk changed baseCache before).map (·.1) =
      computeBarrierTreeHash hL nMax pk ∧
    ∀ root after grown, computeBarrierTreeHashWithChanges hL nMax pk changed baseCache before =
        .ok (root, after, grown) →
      ∀ full : BarrierHashCache,
        (∀ v < old.length, ∃ hash, full.get? v = some hash ∧
          barrierNodeHash hL nMax old v = .ok hash) →
        ∀ v < pk.length, ∃ hash, (full.extend after).get? v = some hash ∧
          barrierNodeHash hL nMax pk v = .ok hash := by
  simp only [barrierNodeHash_eq_ok] at *
  by_cases hexpected : expectedTreeLen nMax = .ok pk.length
  · obtain ⟨root, after, grown, hok, hd, hafter, -, -, hsame⟩ :=
      computeBarrierTreeHashWithChanges_spec hexpected hlen hrange hchanged hbase hbefore
    constructor
    · rw [hok, computeBarrierTreeHash_eq_ok.mpr ⟨hexpected, hd⟩]
      rfl
    · intro root' after' grown' hok' full hfull
      obtain ⟨-, rfl, -⟩ := Prod.mk.inj (Except.ok.inj (hok.symm.trans hok')) |>.imp id Prod.mk.inj
      exact CompleteCache.extend hfull hafter hlen hsame
  · -- Both refuse a tree of the wrong size, for the same reason.
    have hrefuse : ∃ e, computeBarrierTreeHashWithChanges hL nMax pk changed baseCache before =
        .error e ∧ computeBarrierTreeHash hL nMax pk = .error e := by
      unfold computeBarrierTreeHashWithChanges computeBarrierTreeHash
      cases hcase : expectedTreeLen nMax with
      | error e => exact ⟨e, rfl, rfl⟩
      | ok len =>
        have hne : ¬pk.length = len := fun heq => hexpected (heq ▸ hcase)
        exact ⟨.invalidInput "barrier tree size mismatch",
          by simp only [Except.ensure, if_neg hne, Except.ok_bind]; rfl,
          by simp only [Except.ensure, if_neg hne, Except.ok_bind]; rfl⟩
    obtain ⟨e, hwith, hfrom⟩ := hrefuse
    rw [hwith, hfrom]
    exact ⟨rfl, fun _ _ _ hok => by cases hok⟩

theorem computeBarrierTreeHashWithChanges_eq_two_leaves :
    let hL : HashL := fun _ _ => .zero
    (computeBarrierTreeHashWithChanges hL 2 [[1], [2], [9]] (OrdSet.ofList [2]) none
      (OrdMap.empty.insert 1 .zero)).map (·.1) = computeBarrierTreeHash hL 2 [[1], [2], [9]] := by
  intro hL
  have hchanged : ∀ i, ([[1], [2], [3]] : PkEntries)[i]? ≠ ([[1], [2], [9]] : PkEntries)[i]? →
      i ∈ OrdSet.ofList [2] := by
    intro i hne
    match i with
    | 0 => exact absurd rfl hne
    | 1 => exact absurd rfl hne
    | 2 => decide
    | n + 3 => exact absurd rfl hne
  have hbefore : ∀ v hash, (OrdMap.empty.insert 1 .zero : BarrierHashCache).get? v = some hash →
      barrierNodeHash hL 2 [[1], [2], [3]] v = .ok hash := by
    intro v hash hget
    rw [OrdMap.get?_insert] at hget
    split at hget
    next heq =>
      subst heq
      exact congrArg _ (Option.some.inj hget)
    next => cases hget
  have hlen : ([[1], [2], [3]] : PkEntries).length = ([[1], [2], [9]] : PkEntries).length := rfl
  exact (computeBarrierTreeHashWithChanges_eq hL 2 hlen (by simp) hchanged (by simp) hbefore).1

end CityG
