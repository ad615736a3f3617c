import CityG.BarrierHistory
import CityG.Lib.Ranked

/-!
# Pruning the stored public trees

The trees that stay are decoded and stored again in an emptied pool. Their
entries, views and commitments survive; the barrier version does not.
-/

namespace CityG

structure Pool (source : List Bytes) (state : GroupState) : Prop where
  index : ∀ entry i, state.barrierPublicTreeBlobIndex.get? entry = some i →
    state.barrierPublicTreeBlobs[i]? = some entry
  indexed : ∀ entry ∈ state.barrierPublicTreeBlobs, entry ∈ state.barrierPublicTreeBlobIndex
  nodup : state.barrierPublicTreeBlobs.Nodup
  source : state.barrierPublicTreeBlobs ⊆ source

variable {source blobs : List Bytes} {entry : Bytes} {snapshot : BarrierPublicTreeSnapshotRef}
  {pk : PkEntries}

theorem pool_empty {state : GroupState} (hblobs : state.barrierPublicTreeBlobs = [])
    (hindex : state.barrierPublicTreeBlobIndex = .empty) :
    Pool source state where
  index entry i h := by simp [hindex] at h
  indexed entry h := by simp [hblobs] at h
  nodup := by simp [hblobs]
  source := by simp [hblobs]

theorem Pool.length_lt {state : GroupState} (h : Pool source state)
    (hsource : source.length ≤ U32_MAX + 1) (hentry : entry ∈ source)
    (hnew : entry ∉ state.barrierPublicTreeBlobs) :
    state.barrierPublicTreeBlobs.length ≤ U32_MAX := by
  have hnodup : (entry :: state.barrierPublicTreeBlobs).Nodup := List.nodup_cons.mpr ⟨hnew, h.nodup⟩
  have hsubset : entry :: state.barrierPublicTreeBlobs ⊆ source :=
    List.cons_subset.mpr ⟨hentry, h.source⟩
  have hle := (List.subperm_of_subset hnodup hsubset).length_le
  rw [List.length_cons] at hle
  omega

structure Interned (source : List Bytes) (state state' : GroupState) : Prop where
  pool : Pool source state'
  grows : state.barrierPublicTreeBlobs <+: state'.barrierPublicTreeBlobs
  history : state'.barrierPublicTreeHistory = state.barrierPublicTreeHistory

theorem Interned.refl {state : GroupState} (h : Pool source state) :
    Interned source state state := ⟨h, List.prefix_refl _, rfl⟩

theorem Interned.trans {a b c : GroupState} (hab : Interned source a b) (hbc : Interned source b c) :
    Interned source a c :=
  ⟨hbc.pool, hab.grows.trans hbc.grows, hbc.history.trans hab.history⟩

theorem Pool.push {state : GroupState} (h : Pool source state) (hentry : entry ∈ source)
    (hnew : entry ∉ state.barrierPublicTreeBlobs) :
    Pool source { state with
      barrierPublicTreeBlobs := state.barrierPublicTreeBlobs ++ [entry]
      barrierPublicTreeBlobIndex :=
        state.barrierPublicTreeBlobIndex.insert entry state.barrierPublicTreeBlobs.length } where
  index other i hget := by
    rw [OrdMap.get?_insert] at hget
    split at hget
    next heq =>
      obtain rfl := Option.some.inj hget
      simp [heq]
    next =>
      have hold := h.index other i hget
      rw [List.getElem?_append_left (List.getElem?_eq_some_iff.mp hold).1]
      exact hold
  indexed other hmem := by
    rw [OrdMap.mem_insert]
    rcases List.mem_append.mp hmem with hold | hself
    · exact .inr (h.indexed other hold)
    · exact .inl (List.mem_singleton.mp hself)
  nodup := by
    refine List.nodup_append.mpr ⟨h.nodup, List.nodup_singleton entry, ?_⟩
    rintro a ha b hb rfl
    exact hnew (List.mem_singleton.mp hb ▸ ha)
  source := by
    refine List.append_subset.mpr ⟨h.source, ?_⟩
    simpa using hentry

theorem internBarrierPublicTreeBlob_spec {state : GroupState} (h : Pool source state)
    (hsource : source.length ≤ U32_MAX + 1) (hentry : entry ∈ source) :
    ∃ i state', internBarrierPublicTreeBlob entry state = .ok i state' ∧
      state'.barrierPublicTreeBlobs[i]? = some entry ∧ Interned source state state' := by
  have hrun : internBarrierPublicTreeBlob entry state = _ :=
    EStateM.bind_of_ok (a := state) (t := state) rfl
  cases hget : state.barrierPublicTreeBlobIndex.get? entry with
  | some i =>
    refine ⟨i, state, ?_, h.index entry i hget, .refl h⟩
    rw [hrun]
    simp only [hget]
    rfl
  | none =>
    have hnew : entry ∉ state.barrierPublicTreeBlobs := fun hmem =>
      absurd (h.indexed entry hmem) (OrdMap.not_mem_iff.mpr hget)
    have hlen := h.length_lt hsource hentry hnew
    refine ⟨state.barrierPublicTreeBlobs.length, _, ?_, ?_, h.push hentry hnew,
      List.prefix_append _ _, rfl⟩
    · rw [hrun]
      simp only [hget]
      rw [if_neg (Nat.not_lt.mpr hlen)]
      rfl
    · simp

theorem getElem?_of_isPrefix {l l' : List Bytes} (h : l <+: l') {i : Nat}
    (hget : l[i]? = some entry) : l'[i]? = some entry := by
  obtain ⟨t, rfl⟩ := h
  rw [List.getElem?_append_left (List.getElem?_eq_some_iff.mp hget).1]
  exact hget

theorem internBarrierPublicTreeBlobs_spec {state : GroupState} (h : Pool source state)
    (hsource : source.length ≤ U32_MAX + 1) {pk : List Bytes} (hpk : pk ⊆ source) :
    ∃ indices state', internBarrierPublicTreeBlobs pk state = .ok indices state' ∧
      List.Forall₂ (fun i entry => state'.barrierPublicTreeBlobs[i]? = some entry) indices pk ∧
      Interned source state state' := by
  induction pk generalizing state with
  | nil => exact ⟨[], state, rfl, .nil, .refl h⟩
  | cons entry rest ih =>
    obtain ⟨hentry, hrest⟩ := List.cons_subset.mp hpk
    obtain ⟨i, s₁, hi, hget, hin₁⟩ := internBarrierPublicTreeBlob_spec h hsource hentry
    obtain ⟨indices, s₂, hindices, hmap, hin₂⟩ := ih hin₁.pool hrest
    refine ⟨i :: indices, s₂, ?_, .cons (getElem?_of_isPrefix hin₂.grows hget) hmap,
      hin₁.trans hin₂⟩
    rw [internBarrierPublicTreeBlobs, EStateM.bind_of_ok hi, EStateM.bind_of_ok hindices]
    rfl

theorem decodeBarrierPublicTreeSnapshotRef_eq_ok :
    decodeBarrierPublicTreeSnapshotRef blobs snapshot = .ok pk ↔
      List.Forall₂ (fun i entry => blobs[i]? = some entry) snapshot.blobIndices pk := by
  simp only [decodeBarrierPublicTreeSnapshotRef, Except.mapList_eq_ok, Except.ofOption_eq_ok]

theorem decode_of_isPrefix {blobs' : List Bytes} (h : blobs <+: blobs')
    (hdecode : decodeBarrierPublicTreeSnapshotRef blobs snapshot = .ok pk) :
    decodeBarrierPublicTreeSnapshotRef blobs' snapshot = .ok pk := by
  rw [decodeBarrierPublicTreeSnapshotRef_eq_ok] at hdecode ⊢
  exact hdecode.imp fun _ _ hget => getElem?_of_isPrefix h hget

theorem encodeBarrierPublicTreeSnapshotRef_spec {state : GroupState} (h : Pool source state)
    (hsource : source.length ≤ U32_MAX + 1) (hpk : pk ⊆ source) :
    ∃ encoded state', encodeBarrierPublicTreeSnapshotRef pk state = .ok encoded state' ∧
      decodeBarrierPublicTreeSnapshotRef state'.barrierPublicTreeBlobs encoded = .ok pk ∧
      encoded.barrierVersion = 0 ∧ Interned source state state' := by
  obtain ⟨indices, state', hindices, hmap, hin⟩ := internBarrierPublicTreeBlobs_spec h hsource hpk
  refine ⟨⟨indices, 0, Bytes32.zero, {}⟩, state', ?_, ?_, rfl, hin⟩
  · rw [encodeBarrierPublicTreeSnapshotRef, EStateM.bind_of_ok hindices]
    rfl
  · exact decodeBarrierPublicTreeSnapshotRef_eq_ok.mpr hmap

def StoredAgain (oldBlobs : List Bytes) (e : Bytes32 × BarrierPublicTreeSnapshotRef)
    (state : GroupState) : Prop :=
  ∃ stored pk, state.barrierPublicTreeHistory.get? e.1 = some stored ∧
    decodeBarrierPublicTreeSnapshotRef oldBlobs e.2 = .ok pk ∧
    decodeBarrierPublicTreeSnapshotRef state.barrierPublicTreeBlobs stored = .ok pk ∧
    stored.barrierVersion = 0 ∧ stored.historyViewId = e.2.historyViewId ∧
    stored.historyCommitment = e.2.historyCommitment

theorem restoreRetained_spec {oldBlobs : List Bytes} {state : GroupState} (h : Pool source state)
    (hsource : source.length ≤ U32_MAX + 1)
    {retained : List (Bytes32 × BarrierPublicTreeSnapshotRef)}
    (hdecode : ∀ e ∈ retained, ∃ pk, decodeBarrierPublicTreeSnapshotRef oldBlobs e.2 = .ok pk ∧
      pk ⊆ source) (hnodup : (retained.map Prod.fst).Nodup) :
    ∃ state', restoreRetained oldBlobs retained state = .ok () state' ∧
      state.barrierPublicTreeBlobs <+: state'.barrierPublicTreeBlobs ∧
      (∀ e ∈ retained, StoredAgain oldBlobs e state') ∧
      ∀ hash ∉ retained.map Prod.fst,
        state'.barrierPublicTreeHistory.get? hash = state.barrierPublicTreeHistory.get? hash := by
  induction retained generalizing state with
  | nil => exact ⟨state, rfl, List.prefix_refl _, by simp, fun _ _ => rfl⟩
  | cons e rest ih =>
    obtain ⟨hash, snapshot⟩ := e
    obtain ⟨hhash, hnodup⟩ := List.nodup_cons.mp hnodup
    obtain ⟨pk, hpk, hsub⟩ := hdecode _ List.mem_cons_self
    obtain ⟨encoded, s₁, hencode, hdecoded, hversion, hin⟩ :=
      encodeBarrierPublicTreeSnapshotRef_spec h hsource hsub
    let stored : BarrierPublicTreeSnapshotRef := { encoded with
      historyViewId := snapshot.historyViewId
      historyCommitment := snapshot.historyCommitment }
    have hpool : Pool source (s₁.putTree hash stored) := { hin.pool with }
    obtain ⟨s₂, hrest, hgrows, hstored, hother⟩ :=
      ih hpool (fun e he => hdecode e (List.mem_cons_of_mem _ he)) hnodup
    refine ⟨s₂, ?_, hin.grows.trans hgrows, ?_, ?_⟩
    · have hread : (EStateM.ofExcept (decodeBarrierPublicTreeSnapshotRef oldBlobs snapshot) :
          EStateM CityGError GroupState PkEntries) state = .ok pk state :=
        EStateM.ofExcept_eq_ok.mpr ⟨hpk, rfl⟩
      rw [restoreRetained, EStateM.bind_of_ok hread, EStateM.bind_of_ok hencode]
      exact hrest
    · rintro e (_ | ⟨_, he⟩)
      · refine ⟨stored, pk, ?_, hpk, decode_of_isPrefix hgrows hdecoded, hversion, rfl, rfl⟩
        rw [hother hash hhash]
        simp [GroupState.putTree]
      · exact hstored e he
    · intro other hne
      simp only [List.map_cons, List.mem_cons, not_or] at hne
      rw [hother other hne.2, GroupState.putTree, OrdMap.get?_insert, if_neg hne.1, hin.history]

instance (current : Bytes32) : Std.Total (retainedBefore current) where
  total a b := by
    unfold retainedBefore
    have hseq := Nat.lt_trichotomy a.2.historyCommitment.historySeq b.2.historyCommitment.historySeq
    have hhash := le_total a.1 b.1
    by_cases ha : a.1 = current <;> by_cases hb : b.1 = current <;> grind

instance (current : Bytes32) : IsTrans (Bytes32 × BarrierPublicTreeSnapshotRef)
    (retainedBefore current) where
  trans a b c hab hbc := by
    unfold retainedBefore at *
    by_cases ha : a.1 = current <;> by_cases hb : b.1 = current <;> by_cases hc : c.1 = current <;>
      grind

theorem retainedBefore_antisymm {current : Bytes32} {a b : Bytes32 × BarrierPublicTreeSnapshotRef}
    (hab : retainedBefore current a b) (hba : retainedBefore current b a) : a.1 = b.1 := by
  unfold retainedBefore at hab hba
  grind

/-- Fewer stored trees than are kept come before this one: the current tree comes first, then the
trees of later commitments, then those of larger hashes. -/
def GroupState.Retains (state : GroupState) (e : Bytes32 × BarrierPublicTreeSnapshotRef) : Prop :=
  (state.barrierPublicTreeHistory.entries.othersBefore (retainedBefore state.kemTreeHashAfter)
    e).length < MAX_RETAINED_BARRIER_PUBLIC_TREE_SNAPSHOTS

instance (state : GroupState) (e : Bytes32 × BarrierPublicTreeSnapshotRef) :
    Decidable (state.Retains e) := inferInstanceAs (Decidable (_ < _))

def GroupState.retained (state : GroupState) : List (Bytes32 × BarrierPublicTreeSnapshotRef) :=
  (state.barrierPublicTreeHistory.entries.insertionSort
    (retainedBefore state.kemTreeHashAfter)).take MAX_RETAINED_BARRIER_PUBLIC_TREE_SNAPSHOTS

variable {state : GroupState}

theorem mem_retained_iff {e : Bytes32 × BarrierPublicTreeSnapshotRef} :
    e ∈ state.retained ↔ e ∈ state.barrierPublicTreeHistory.entries ∧ state.Retains e := by
  refine List.mem_take_insertionSort ?_ fun a ha b hb hab hba => ?_
  · exact state.barrierPublicTreeHistory.sorted.imp fun hlt heq => by simp [heq] at hlt
  · exact OrdMap.key_eq ha hb (retainedBefore_antisymm hab hba)

theorem nodup_retained : (state.retained.map Prod.fst).Nodup := by
  have hsorted : (state.barrierPublicTreeHistory.entries.map Prod.fst).Nodup :=
    state.barrierPublicTreeHistory.keys_nodup
  have hperm := (List.perm_insertionSort (retainedBefore state.kemTreeHashAfter)
    state.barrierPublicTreeHistory.entries).map Prod.fst
  exact (hperm.nodup_iff.mpr hsorted).sublist ((List.take_sublist _ _).map Prod.fst)

theorem retains_current
    (h : (state.kemTreeHashAfter, snapshot) ∈ state.barrierPublicTreeHistory.entries) :
    state.Retains (state.kemTreeHashAfter, snapshot) := by
  have hnone : state.barrierPublicTreeHistory.entries.othersBefore
      (retainedBefore state.kemTreeHashAfter) (state.kemTreeHashAfter, snapshot) = [] := by
    refine List.filter_eq_nil_iff.mpr fun b hb => ?_
    simp only [decide_eq_true_eq, not_and, not_not]
    intro hbefore
    refine OrdMap.key_eq hb h ?_
    rcases hbefore with ⟨-, hne⟩ | ⟨hiff, -⟩
    · exact absurd rfl hne
    · exact hiff.mpr rfl
  rw [GroupState.Retains, hnone]
  decide

def GroupState.SnapshotsDecode (state : GroupState) : Prop :=
  ∀ e ∈ state.barrierPublicTreeHistory.entries, (∀ i ∈ e.2.blobIndices, i ≤ U32_MAX) ∧
    ∃ pk, decodeBarrierPublicTreeSnapshotRef state.barrierPublicTreeBlobs e.2 = .ok pk

theorem decode_subset (hindices : ∀ i ∈ snapshot.blobIndices, i ≤ U32_MAX)
    (h : decodeBarrierPublicTreeSnapshotRef blobs snapshot = .ok pk) :
    pk ⊆ blobs.take (U32_MAX + 1) := by
  intro entry hentry
  rw [decodeBarrierPublicTreeSnapshotRef_eq_ok] at h
  obtain ⟨hlen, hall⟩ := List.forall₂_iff_get.mp h
  obtain ⟨n, hn, rfl⟩ := List.mem_iff_getElem.mp hentry
  have hn' : n < snapshot.blobIndices.length := hlen ▸ hn
  have hsmall := hindices _ (List.getElem_mem hn')
  refine List.mem_of_getElem? (i := snapshot.blobIndices[n]) ?_
  rw [List.getElem?_take_of_lt (Nat.lt_succ_of_le hsmall)]
  exact hall n hn' hn

theorem pruneBarrierPublicTreeHistory_spec (h : state.SnapshotsDecode) :
    ∃ state', pruneBarrierPublicTreeHistory state = .ok () state' ∧
      (∀ e ∈ state.retained, StoredAgain state.barrierPublicTreeBlobs e state') ∧
      ∀ hash ∉ state.retained.map Prod.fst, state'.barrierPublicTreeHistory.get? hash = none := by
  have hrun : pruneBarrierPublicTreeHistory state = _ :=
    EStateM.bind_of_ok (a := state) (t := state) rfl
  by_cases hempty : state.barrierPublicTreeHistory.isEmpty = true
  · rw [if_pos hempty] at hrun
    have hnil : state.barrierPublicTreeHistory.entries = [] := List.isEmpty_iff.mp hempty
    refine ⟨_, hrun, ?_, fun hash _ => ?_⟩
    · simp [GroupState.retained, hnil]
    · simp [OrdMap.get?, hnil, OrdMap.lookup]
  · rw [if_neg hempty] at hrun
    let cleared : GroupState := { state with
      barrierPublicTreeHistory := .empty
      barrierPublicTreeBlobs := []
      barrierPublicTreeBlobIndex := .empty }
    have hsource : (state.barrierPublicTreeBlobs.take (U32_MAX + 1)).length ≤ U32_MAX + 1 :=
      List.length_take_le _ _
    have hdecode : ∀ e ∈ state.retained, ∃ pk,
        decodeBarrierPublicTreeSnapshotRef state.barrierPublicTreeBlobs e.2 = .ok pk ∧
          pk ⊆ state.barrierPublicTreeBlobs.take (U32_MAX + 1) := by
      intro e he
      obtain ⟨hindices, pk, hpk⟩ := h e (mem_retained_iff.mp he).1
      exact ⟨pk, hpk, decode_subset hindices hpk⟩
    have hpool : Pool (state.barrierPublicTreeBlobs.take (U32_MAX + 1)) cleared :=
      pool_empty rfl rfl
    obtain ⟨state', hrest, -, hstored, hother⟩ :=
      restoreRetained_spec hpool hsource hdecode nodup_retained
    refine ⟨state', ?_, hstored, fun hash hne => ?_⟩
    · exact hrun.trans ((EStateM.bind_of_ok (a := .unit) (EStateM.set_eq_ok.mpr rfl)).trans hrest)
    · rw [hother hash hne]
      rfl

structure SnapshotsKept (state state' : GroupState) : Prop where
  same : ∀ hash stored, state'.barrierPublicTreeHistory.get? hash = some stored →
    ∃ snapshot pk, state.barrierPublicTreeHistory.get? hash = some snapshot ∧
      decodeBarrierPublicTreeSnapshotRef state.barrierPublicTreeBlobs snapshot = .ok pk ∧
      decodeBarrierPublicTreeSnapshotRef state'.barrierPublicTreeBlobs stored = .ok pk ∧
      stored.barrierVersion = snapshot.barrierVersion ∧
      stored.historyViewId = snapshot.historyViewId ∧
      stored.historyCommitment = snapshot.historyCommitment
  current : state.kemTreeHashAfter ∈ state.barrierPublicTreeHistory →
    state.kemTreeHashAfter ∈ state'.barrierPublicTreeHistory
  size_le : state'.barrierPublicTreeHistory.size ≤ MAX_RETAINED_BARRIER_PUBLIC_TREE_SNAPSHOTS

/-- A prune keeps the retained trees as they are exactly when none of them has a barrier version to
lose. -/
theorem pruneBarrierPublicTreeHistory_keeps_iff (h : state.SnapshotsDecode) :
    (∃ state', pruneBarrierPublicTreeHistory state = .ok () state' ∧ SnapshotsKept state state') ↔
      ∀ e ∈ state.barrierPublicTreeHistory.entries, state.Retains e → e.2.barrierVersion = 0 := by
  obtain ⟨state', hprune, hstored, hother⟩ := pruneBarrierPublicTreeHistory_spec h
  constructor
  · rintro ⟨state'', hprune', hkept⟩ e he hretains
    obtain ⟨-, rfl⟩ := EStateM.Result.ok.inj (hprune.symm.trans hprune')
    obtain ⟨stored, pk, hget, -, -, hversion, -, -⟩ :=
      hstored e (mem_retained_iff.mpr ⟨he, hretains⟩)
    obtain ⟨snapshot, -, hsnapshot, -, -, hsame, -, -⟩ := hkept.same e.1 stored hget
    have heq : some e.2 = some snapshot := (OrdMap.mem_entries_iff.mp he).symm.trans hsnapshot
    rw [Option.some.inj heq, ← hsame, hversion]
  · intro hzero
    refine ⟨state', hprune, ?_, ?_, ?_⟩
    · intro hash stored hget
      have hmem : hash ∈ state.retained.map Prod.fst := by
        by_contra hne
        rw [hother hash hne] at hget
        cases hget
      obtain ⟨e, he, rfl⟩ := List.mem_map.mp hmem
      obtain ⟨hentry, hretains⟩ := mem_retained_iff.mp he
      obtain ⟨stored', pk, hget', hold, hnew, hversion, hview, hcommitment⟩ := hstored e he
      obtain rfl := Option.some.inj (hget.symm.trans hget')
      exact ⟨e.2, pk, OrdMap.mem_entries_iff.mp hentry, hold, hnew,
        hversion.trans (hzero e hentry hretains).symm, hview, hcommitment⟩
    · intro hcurrent
      obtain ⟨snapshot, hget⟩ := OrdMap.mem_iff.mp hcurrent
      have hentry := OrdMap.mem_entries_iff.mpr hget
      obtain ⟨stored, -, hstored', -⟩ :=
        hstored _ (mem_retained_iff.mpr ⟨hentry, retains_current hentry⟩)
      exact OrdMap.mem_iff.mpr ⟨stored, hstored'⟩
    · have hnodup := state'.barrierPublicTreeHistory.keys_nodup
      have hsubset : state'.barrierPublicTreeHistory.keys ⊆ state.retained.map Prod.fst := by
        intro hash hmem
        obtain ⟨stored, hget⟩ := OrdMap.mem_keys_iff.mp hmem
        by_contra hne
        rw [hother hash hne] at hget
        cases hget
      have hle := (List.subperm_of_subset hnodup hsubset).length_le
      rw [OrdMap.keys, List.length_map, List.length_map] at hle
      exact hle.trans (List.length_take_le _ _)

def oneTree (barrierVersion : Nat) : GroupState where
  kemTreeHashAfter := .fill 7
  barrierPublicTreeBlobs := [[]]
  barrierPublicTreeBlobIndex := OrdMap.empty.insert [] 0
  barrierPublicTreeHistory := OrdMap.empty.insert (.fill 7) ⟨[0], barrierVersion, .zero, {}⟩

theorem oneTree_decodes (barrierVersion : Nat) : (oneTree barrierVersion).SnapshotsDecode := by
  intro e he
  obtain rfl : e = (.fill 7, ⟨[0], barrierVersion, .zero, {}⟩) := List.mem_singleton.mp he
  exact ⟨by simp, [[]], rfl⟩

theorem prune_loses_barrier_version :
    (oneTree 1).SnapshotsDecode ∧
    ∃ state', pruneBarrierPublicTreeHistory (oneTree 1) = .ok () state' ∧
      ((oneTree 1).barrierPublicTreeHistory.get? (.fill 7)).map (·.barrierVersion) = some 1 ∧
      (state'.barrierPublicTreeHistory.get? (.fill 7)).map (·.barrierVersion) = some 0 :=
  ⟨oneTree_decodes 1, _, rfl, rfl, rfl⟩

theorem pruneBarrierPublicTreeHistory_keeps_unversioned :
    ∃ state', pruneBarrierPublicTreeHistory (oneTree 0) = .ok () state' ∧
      SnapshotsKept (oneTree 0) state' :=
  (pruneBarrierPublicTreeHistory_keeps_iff (oneTree_decodes 0)).mpr fun e he _ => by
    obtain rfl := List.mem_singleton.mp he
    rfl

end CityG
