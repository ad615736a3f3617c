import Mathlib.Data.List.Dedup
import CityG.Server.Expulsion
import CityG.Server.HistoryChain

/-!
# Answers under one history commitment

The occupancies and the public tree are answered together with the history
commitment of the group. Between epochs the answers stay as they are. An epoch
changes them, and keeps the commitment when it leaves the view of the commitment
as it was.
-/

namespace CityG

open Bytes32 (fill)
open EStateM (check Keeps Preserves)

section Prune
variable {active : OrdSet Bytes32} {history records : List JoinLeafHistoryRecord}

theorem latestJoinByLeaf_keyed {leaf : Bytes32} {record : JoinLeafHistoryRecord}
    (h : (latestJoinByLeaf active history).get? leaf = some record) :
    record.leafId = leaf ∧ leaf ∈ active := by
  induction history using List.reverseRecOn generalizing leaf record with
  | nil => simp [latestJoinByLeaf] at h
  | append_singleton rest last ih =>
    rw [latestJoinByLeaf, List.foldl_append, List.foldl_cons, List.foldl_nil] at h
    have hinsert : ∀ {latest : OrdMap Bytes32 JoinLeafHistoryRecord}, last.leafId ∈ active →
        latest.get? leaf = (latestJoinByLeaf active rest).get? leaf →
        (latest.insert last.leafId last).get? leaf = some record →
        record.leafId = leaf ∧ leaf ∈ active := by
      intro latest hactive hlatest hget
      rw [OrdMap.get?_insert] at hget
      split at hget
      · next heq =>
          cases hget
          exact ⟨heq.symm, heq ▸ hactive⟩
      · exact ih (hlatest.symm.trans hget)
    split_ifs at h with hactive
    · split at h
      · split_ifs at h
        · exact hinsert hactive rfl h
        · exact ih h
      · exact hinsert hactive rfl h
    · exact ih h

theorem latestJoinByLeaf_eq_ofList (hactive : ∀ record ∈ records, record.leafId ∈ active)
    (hnodup : (records.map (·.leafId)).Nodup) :
    latestJoinByLeaf active records = OrdMap.ofList (records.map fun record => (record.leafId, record)) := by
  induction records using List.reverseRecOn with
  | nil => rfl
  | append_singleton rest last ih =>
    rw [List.map_append, List.nodup_append] at hnodup
    obtain ⟨hrest, -, hdistinct⟩ := hnodup
    have ih := ih (fun record hmem => hactive record (by simp [hmem])) hrest
    have hnew : (latestJoinByLeaf active rest).get? last.leafId = none := by
      cases hget : (latestJoinByLeaf active rest).get? last.leafId with
      | none => rfl
      | some record =>
        rw [ih] at hget
        obtain ⟨record', hmem, heq⟩ := List.mem_map.mp (OrdMap.mem_of_get?_ofList hget)
        have hsame : record'.leafId = last.leafId := congrArg Prod.fst heq
        exact absurd hsame (hdistinct _ (List.mem_map_of_mem hmem) _ (by simp))
    rw [latestJoinByLeaf] at ih hnew ⊢
    rw [List.foldl_append, List.foldl_cons, List.foldl_nil,
      if_neg (not_not.mpr (hactive last (by simp))), hnew]
    dsimp only
    rw [ih, OrdMap.ofList, OrdMap.ofList, List.map_append, List.foldl_append]
    rfl

theorem latestJoinByLeaf_settled (h : records.Perm (latestJoinByLeaf active history).values) :
    latestJoinByLeaf active records = latestJoinByLeaf active history := by
  set latest := latestJoinByLeaf active history with hlatest
  have hentries : latest.values.map (fun record => (record.leafId, record)) = latest.entries := by
    rw [OrdMap.values, List.map_map]
    refine (List.map_congr_left fun e he => ?_).trans (List.map_id _)
    exact Prod.ext (latestJoinByLeaf_keyed (OrdMap.mem_entries_iff.mp he)).1 rfl
  have hperm : (records.map fun record => (record.leafId, record)).Perm latest.entries :=
    hentries ▸ h.map _
  have hnodup : (records.map (·.leafId)).Nodup := by
    have hkeys := (hperm.map Prod.fst).nodup_iff.mpr latest.keys_nodup
    rwa [List.map_map] at hkeys
  rw [latestJoinByLeaf_eq_ofList ?_ hnodup, OrdMap.ofList_of_perm hperm]
  intro record hmem
  obtain ⟨leaf, hget⟩ := OrdMap.mem_values_iff.mp (h.mem_iff.mp hmem)
  obtain ⟨hleaf, hactive⟩ := latestJoinByLeaf_keyed hget
  exact hleaf ▸ hactive

def GroupState.joinedLeaves (state : GroupState) : OrdSet Bytes32 :=
  (state.latestSnapshot.getD {}).members

theorem pruneJoinHistory_of_members (state : GroupState) {nMax : Nat} (hjoined : state.joinHistory ≠ [])
    (hnMax : validateBarrierNMax state.nMax = .ok nMax) (hactive : ¬ state.joinedLeaves.isEmpty)
    (hsize : (latestJoinByLeaf state.joinedLeaves state.joinHistory).size ≤ nMax) :
    pruneJoinHistory state = .ok { state with
      joinHistory := (latestJoinByLeaf state.joinedLeaves state.joinHistory).values.insertionSort
        joinRecordLE } := by
  unfold GroupState.joinedLeaves at hactive hsize ⊢
  simp only [pruneJoinHistory, if_neg hjoined, if_neg hactive, Except.bind_eq_ok, Except.pure_eq_ok,
    Except.ensure_eq_ok]
  exact ⟨nMax, hnMax, (), hsize, trivial⟩

theorem pruneJoinHistory_settled {state state' : GroupState}
    (h : pruneJoinHistory state = .ok state') : pruneJoinHistory state' = .ok state' := by
  have hempty : ∀ {state : GroupState}, state.joinHistory = [] → pruneJoinHistory state = .ok state :=
    fun hnil => if_pos hnil
  by_cases hnil : state.joinHistory = []
  · rw [hempty hnil] at h
    cases h
    exact hempty hnil
  rw [pruneJoinHistory, if_neg hnil] at h
  simp only [Except.bind_eq_ok] at h
  obtain ⟨nMax, hnMax, h⟩ := h
  split at h
  · cases h
    exact hempty rfl
  · next hactive =>
      simp only [Except.bind_eq_ok, Except.pure_eq_ok, Except.ensure_eq_ok] at h
      obtain ⟨_, hsize, rfl⟩ := h
      set records := (latestJoinByLeaf state.joinedLeaves state.joinHistory).values.insertionSort
        joinRecordLE with hrecords
      have hsettled : latestJoinByLeaf state.joinedLeaves records =
          latestJoinByLeaf state.joinedLeaves state.joinHistory :=
        latestJoinByLeaf_settled (List.perm_insertionSort _ _)
      by_cases hnone : records = []
      · exact hempty hnone
      refine (pruneJoinHistory_of_members { state with joinHistory := records } hnone hnMax hactive
        ((congrArg OrdMap.size hsettled).trans_le hsize)).trans ?_
      exact congrArg (fun latest : OrdMap Bytes32 JoinLeafHistoryRecord => Except.ok { state with
        joinHistory := latest.values.insertionSort joinRecordLE }) hsettled

end Prune

inductive HistoryQuery where
  | joinOccupancies (prevBarrierVersion : Nat)
  | revokedOccupancies (revocationRootsHash : Bytes32)
  | publicTree (kemTreeHashAfter : Bytes32)
  deriving DecidableEq

inductive HistoryPage where
  | joinOccupancies (records : List BarrierJoinOccupancyRecord)
  | revokedOccupancies (leases : List SlotLease)
  | publicTree (snapshot : BarrierPublicTreeSnapshot)
  deriving DecidableEq

/-- The answer to a query with the commitment it is given under. Occupancies come under the
commitment that the request leaves with the group, a tree names its own. -/
def answerQuery (env : ServerEnv) (gid : Bytes) :
    HistoryQuery → EStateM CityGError GroupState (HistoryCommitment × HistoryPage)
  | .joinOccupancies prevBarrierVersion => do
    let records ← resolveJoinOccupanciesSince env gid prevBarrierVersion
    let commitment ← check fun state => pure state.currentHistoryCommitment
    pure (commitment, .joinOccupancies records)
  | .revokedOccupancies revocationRootsHash => do
    let leases ← resolveRevokedOccupancies env gid revocationRootsHash
    let commitment ← check fun state => pure state.currentHistoryCommitment
    pure (commitment, .revokedOccupancies leases)
  | .publicTree kemTreeHashAfter => do
    let snapshot ← fetchBarrierPublicTree env gid kemTreeHashAfter
    pure (snapshot.historyCommitment, .publicTree snapshot)

namespace GroupState

def currentTree (hL : HashL) (state : GroupState) :
    Except CityGError (Nat × PkEntries × Bytes32) := do
  let nMax ← validateBarrierNMax state.nMax
  let entries ← buildPkEntriesView state
  let hash ← computeBarrierTreeHash hL nMax entries
  pure (nMax, entries, hash)

def page (hL : HashL) (commitment : HistoryCommitment) (state : GroupState) :
    HistoryQuery → Except CityGError HistoryPage
  | .joinOccupancies prevBarrierVersion => do
    let pruned ← pruneJoinHistory state
    let byLeaf ← CityG.joinOccupancies prevBarrierVersion pruned
    pure (.joinOccupancies byLeaf.values)
  | .revokedOccupancies _ => pure (.revokedOccupancies (CityG.revokedOccupancies state))
  | .publicTree _ => do
    let (nMax, entries, hash) ← state.currentTree hL
    pure (.publicTree ⟨nMax, hash, state.barrierVersion, commitment.historyViewId, commitment,
      entries⟩)

def AsksCurrent (hL : HashL) (state : GroupState) : HistoryQuery → Prop
  | .publicTree kemTreeHashAfter => (state.currentTree hL).map (·.2.2) = .ok kemTreeHashAfter
  | .joinOccupancies _ | .revokedOccupancies _ => True

instance (hL : HashL) (state : GroupState) : DecidablePred (AsksCurrent hL state)
  | .publicTree kemTreeHashAfter =>
    inferInstanceAs (Decidable ((state.currentTree hL).map (·.2.2) = .ok kemTreeHashAfter))
  | .joinOccupancies _ | .revokedOccupancies _ => .isTrue trivial

def pageCore (state : GroupState) : GroupState where
  latestRoot := state.latestRoot
  snapshots := state.snapshots
  leafSlotLeases := state.leafSlotLeases
  revokedSlotLeases := state.revokedSlotLeases
  barrierVersion := state.barrierVersion
  nMax := state.nMax
  joinHistory := state.joinHistory
  leafDevicePk := state.leafDevicePk
  leafBarrierPublic := state.leafBarrierPublic
  barrierPkEntries := state.barrierPkEntries

variable {hL : HashL} {commitment : HistoryCommitment} {state state' : GroupState}
  {query : HistoryQuery} {answer : HistoryPage}

theorem pruneJoinHistory_pageCore (state : GroupState) :
    pruneJoinHistory state.pageCore = (pruneJoinHistory state).map pageCore := by
  have hactive : state.pageCore.latestSnapshot = state.latestSnapshot := rfl
  have hhistory : state.pageCore.joinHistory = state.joinHistory := rfl
  have hnMax : state.pageCore.nMax = state.nMax := rfl
  unfold pruneJoinHistory
  rw [hactive, hhistory, hnMax]
  by_cases hnil : state.joinHistory = []
  · rw [if_pos hnil, if_pos hnil]
    rfl
  rw [if_neg hnil, if_neg hnil]
  cases validateBarrierNMax state.nMax with
  | error e => rfl
  | ok nMax =>
    rw [Except.ok_bind, Except.ok_bind]
    by_cases hempty : (state.latestSnapshot.getD {}).members.isEmpty
    · rw [if_pos hempty, if_pos hempty]
      rfl
    rw [if_neg hempty, if_neg hempty]
    dsimp only
    cases Except.ensure ((latestJoinByLeaf (state.latestSnapshot.getD {}).members
      state.joinHistory).size ≤ nMax) _ <;> rfl

theorem page_pageCore (state : GroupState) :
    state.pageCore.page hL commitment query = state.page hL commitment query := by
  cases query with
  | joinOccupancies version =>
    unfold page
    dsimp only
    rw [pruneJoinHistory_pageCore]
    cases pruneJoinHistory state <;> rfl
  | revokedOccupancies rootsHash => rfl
  | publicTree hash => rfl

theorem Adjusts.page (h : state.Adjusts state') (hpage : state.page hL commitment query = .ok answer) :
    state'.page hL commitment query = .ok answer := by
  have hcore : ∀ {state state' : GroupState}, state.page hL commitment query = .ok answer →
      state'.pageCore = state.pageCore → state'.page hL commitment query = .ok answer := by
    intro state state' hpage hsame
    rw [← page_pageCore, hsame, page_pageCore, hpage]
  induction h with
  | refl => exact hpage
  | trans _ _ ih ih' => exact ih' (ih hpage)
  | history h =>
    have hsame := congrArg pageCore h
    exact hcore hpage hsame
  | joinHistory h =>
    cases query with
    | joinOccupancies version =>
      simp only [GroupState.page, h, pruneJoinHistory_settled h] at hpage ⊢
      exact hpage
    | revokedOccupancies rootsHash =>
      obtain ⟨_, rfl⟩ := pruneJoinHistory_ok h
      exact hpage
    | publicTree hash =>
      obtain ⟨_, rfl⟩ := pruneJoinHistory_ok h
      exact hpage
  | kbroad | maxBytes | slots | nextIndex | pending | admins => exact hcore hpage rfl

theorem Adjusts.historyView (h : state.Adjusts state') : state'.historyView = state.historyView := by
  induction h with
  | refl => rfl
  | trans _ _ ih ih' => exact ih'.trans ih
  | history h =>
    have hview := congrArg GroupState.historyView h
    exact hview
  | joinHistory h =>
    obtain ⟨_, rfl⟩ := pruneJoinHistory_ok h
    rfl
  | kbroad | maxBytes | slots | nextIndex | pending | admins => rfl

theorem Initializes.adjusts_or_initialized {env : ServerEnv} (h : state.Initializes env state') :
    state.Adjusts state' ∨
      state.barrierInitialized = false ∧ state'.barrierInitialized = true := by
  induction h with
  | adjusts h => exact .inl h
  | bootstrap _ huninitialized => exact .inr ⟨huninitialized, rfl⟩
  | trans _ _ ih ih' =>
    rcases ih with hadjusts | ⟨hfalse, htrue⟩ <;> rcases ih' with hadjusts' | ⟨hfalse', htrue'⟩
    · exact .inl (hadjusts.trans hadjusts')
    · have hinit := congrArg (·.barrierInitialized) hadjusts.historyView
      exact .inr ⟨hinit.symm.trans hfalse', htrue'⟩
    · have hinit := congrArg (·.barrierInitialized) hadjusts'.historyView
      exact .inr ⟨hfalse, hinit.trans htrue⟩
    · exact .inr ⟨hfalse, htrue'⟩

end GroupState

section Answers
variable {env : ServerEnv} {gid : Bytes} {state state' : GroupState} {commitment : HistoryCommitment}
  {query : HistoryQuery} {answer : HistoryPage}

structure Shown (hL : HashL) (gid : Bytes) (commitment : HistoryCommitment) (state : GroupState) :
    Prop where
  current : state.currentHistoryCommitment = commitment
  view : state.historyView.id hL gid = .ok commitment.historyViewId

theorem ensureCurrent_shown
    (h : ensureCurrentHistoryCommitment env.hL env.wire gid state = .ok commitment state') :
    Shown env.hL gid commitment state' := by
  have hview := congrArg GroupState.historyView
    ((KeepsCore.ensureCurrent env.hL env.wire gid state).of_ok h)
  change state'.historyView = state.historyView at hview
  simp only [ensureCurrentHistoryCommitment, EStateM.bind_eq_ok, EStateM.get_eq_ok,
    EStateM.ofExcept_eq_ok] at h
  obtain ⟨_, _, ⟨rfl, rfl⟩, historyViewId, _, ⟨hid, rfl⟩, h⟩ := h
  rw [computeHistoryViewId_eq] at hid
  split at h
  · next hcurrent =>
      simp only [EStateM.bind_eq_ok, EStateM.pure_eq_ok] at h
      obtain ⟨_, _, hrefreshed, rfl, rfl⟩ := h
      have hkept := (KeepsOffTrees.refreshCurrent env.hL env.wire _ _).of_ok hrefreshed
      have hcommitment := congrArg GroupState.currentHistoryCommitment hkept
      exact ⟨hcommitment, by rw [hview, hid, hcurrent.1]⟩
  · simp only [EStateM.bind_eq_ok, EStateM.pure_eq_ok, EStateM.set_eq_ok] at h
    obtain ⟨_, _, rfl, _, _, hrefreshed, rfl, rfl⟩ := h
    have hkept := (KeepsOffTrees.refreshCurrent env.hL env.wire _ _).of_ok hrefreshed
    have hcommitment := congrArg GroupState.currentHistoryCommitment hkept
    exact ⟨hcommitment, by rw [hview, hid]; rfl⟩

theorem fetchBarrierPublicTree_current {hash : Bytes32} {snapshot : BarrierPublicTreeSnapshot}
    (h : fetchBarrierPublicTree env gid hash state = .ok snapshot state')
    (hcurrent : state.AsksCurrent env.hL (.publicTree hash)) :
    Shown env.hL gid snapshot.historyCommitment state' ∧
      state'.page env.hL snapshot.historyCommitment (.publicTree hash) = .ok (.publicTree snapshot) := by
  simp only [fetchBarrierPublicTree, EStateM.check_bind_eq_ok] at h
  obtain ⟨nMax, hnMax, h⟩ := h
  rw [EStateM.bind_eq_ok] at h
  obtain ⟨_, pruned, hpruned, h⟩ := h
  simp only [EStateM.bind_eq_ok, EStateM.check_eq_ok, EStateM.pure_eq_ok] at h
  obtain ⟨entries, _, ⟨hentries, rfl⟩, currentHash, _, ⟨hcurrentHash, rfl⟩, predecessor, _, ⟨-, rfl⟩, found,
    shown, hfound, computedHash, _, ⟨hcomputed, rfl⟩, _, _, ⟨-, rfl⟩, rfl, rfl⟩ := h
  -- The tree that the hash is computed of is the one that the query is about.
  have hkept : pruned.withoutHistory = state.withoutHistory := (KeepsCore.prune state).of_ok hpruned
  have hsame := congrArg (GroupState.currentTree env.hL) hkept
  change pruned.currentTree env.hL = state.currentTree env.hL at hsame
  have hnMax' : validateBarrierNMax pruned.nMax = .ok nMax :=
    (congrArg (fun state => validateBarrierNMax state.nMax) hkept).trans hnMax
  have htree : pruned.currentTree env.hL = .ok (nMax, entries, currentHash) := by
    simp only [GroupState.currentTree, hnMax', hentries, hcurrentHash, Except.ok_bind]
    rfl
  have hhash : currentHash = hash := by
    rw [GroupState.AsksCurrent, ← hsame, htree] at hcurrent
    exact Except.ok.inj hcurrent
  simp only [findTree, if_pos hhash, EStateM.bind_eq_ok, EStateM.check_eq_ok, EStateM.pure_eq_ok,
    Except.pure_eq_ok] at hfound
  obtain ⟨commitment, after, hensured, version, _, ⟨rfl, rfl⟩, rfl, rfl⟩ := hfound
  have hafter := congrArg (GroupState.currentTree env.hL)
    ((KeepsCore.ensureCurrent env.hL env.wire gid pruned).of_ok hensured)
  change after.currentTree env.hL = pruned.currentTree env.hL at hafter
  rw [hcomputed, Except.ok.injEq] at hcurrentHash
  refine ⟨ensureCurrent_shown hensured, ?_⟩
  simp only [GroupState.page, hafter, htree, Except.ok_bind, hcurrentHash]
  rfl

theorem answerQuery_ok (h : answerQuery env gid query state = .ok (commitment, answer) state')
    (hcurrent : state.AsksCurrent env.hL query) :
    Shown env.hL gid commitment state' ∧ state'.page env.hL commitment query = .ok answer := by
  cases query with
  | joinOccupancies version =>
    simp only [answerQuery, resolveJoinOccupanciesSince, EStateM.bind_eq_ok, EStateM.check_eq_ok,
      EStateM.update_eq_ok, EStateM.pure_eq_ok, Except.pure_eq_ok] at h
    obtain ⟨_, _, ⟨_, _, ⟨-, rfl⟩, _, pruned, hpruned, shown, after, hensured, byLeaf, _, ⟨hbyLeaf, rfl⟩,
      rfl, rfl⟩, _, _, ⟨rfl, rfl⟩, heq, rfl⟩ := h
    obtain ⟨rfl, rfl⟩ := Prod.mk.inj heq
    have hkept := (KeepsCore.ensureCurrent env.hL env.wire gid pruned).of_ok hensured
    have hsame := congrArg (joinOccupancies version) hkept
    change joinOccupancies version after = joinOccupancies version pruned at hsame
    rw [hbyLeaf] at hsame
    have hpage : pruned.page env.hL shown (.joinOccupancies version) =
        .ok (.joinOccupancies byLeaf.values) := by
      simp only [GroupState.page, pruneJoinHistory_settled hpruned, Except.ok_bind, ← hsame]
      rfl
    have hshown := ensureCurrent_shown hensured
    rw [hshown.current]
    exact ⟨hshown, GroupState.Adjusts.page (.history hkept) hpage⟩
  | revokedOccupancies rootsHash =>
    simp only [answerQuery, resolveRevokedOccupancies, EStateM.bind_eq_ok, EStateM.check_eq_ok,
      EStateM.pure_eq_ok, Except.pure_eq_ok] at h
    obtain ⟨_, _, ⟨_, _, ⟨-, rfl⟩, _, _, hensured, _, _, ⟨-, rfl⟩, rfl, rfl⟩, _, _, ⟨rfl, rfl⟩, heq,
      rfl⟩ := h
    obtain ⟨rfl, rfl⟩ := Prod.mk.inj heq
    have hshown := ensureCurrent_shown hensured
    rw [hshown.current]
    exact ⟨hshown, rfl⟩
  | publicTree hash =>
    simp only [answerQuery, EStateM.bind_eq_ok, EStateM.pure_eq_ok, Prod.mk.injEq] at h
    obtain ⟨snapshot, _, hfetched, ⟨rfl, rfl⟩, rfl⟩ := h
    exact fetchBarrierPublicTree_current hfetched hcurrent

theorem fetchBarrierPublicTree_keepsCore (hash : Bytes32) :
    KeepsCore (fetchBarrierPublicTree env gid hash) := by
  have hlegacy : ∀ snapshot, KeepsCore (legacyCommitted env gid hash snapshot) := by
    intro snapshot
    unfold legacyCommitted
    split
    · exact Keeps.bind (.modify fun _ => rfl) fun _ => .pure _
    · exact Keeps.pure _
  have hfind : ∀ current currentHash predecessor,
      KeepsCore (findTree env gid hash current currentHash predecessor) := by
    intro current currentHash predecessor
    unfold findTree
    split
    · refine Keeps.bind (KeepsCore.ensureCurrent _ _ _) fun _ => ?_
      exact .bind (.check _) fun _ => .pure _
    · refine Keeps.bind (.check _) fun _ => .bind (hlegacy _) fun _ => ?_
      split
      · refine Keeps.bind (KeepsCore.ensureCurrent _ _ _) fun _ => ?_
        exact .bind (.check _) fun _ => .bind (.check _) fun _ => .pure _
      · exact .bind (.check _) fun _ => .pure _
  refine Keeps.bind (.check _) fun _ => .bind KeepsCore.prune fun _ => ?_
  refine .bind (.check _) fun _ => .bind (.check _) fun _ => .bind (.check _) fun _ => ?_
  exact .bind (hfind _ _ _) fun _ => .bind (.check _) fun _ => .bind (.check _) fun _ => .pure _

theorem answerQuery_adjusts (query : HistoryQuery) :
    Preserves state.Adjusts (answerQuery env gid query) := by
  have h := state.adjusts_ticketStable env gid
  cases query with
  | joinOccupancies version =>
    exact .bind (h.resolveJoinOccupanciesSince version) fun _ => .bind (.check _) fun _ => .pure _
  | revokedOccupancies rootsHash =>
    exact .bind (h.resolveRevokedOccupancies rootsHash) fun _ => .bind (.check _) fun _ => .pure _
  | publicTree hash =>
    exact .bind (.of_keepsCore (fetchBarrierPublicTree_keepsCore hash)) fun _ => .pure _

theorem answerQuery_browses (query : HistoryQuery) :
    GroupState.Browses env.hL gid (answerQuery env gid query) := by
  cases query with
  | joinOccupancies version =>
    exact .of_looks (.bind_keeps (resolveJoinOccupanciesSince_looks version) fun _ =>
      .bind (.check _) fun _ => .pure _)
  | revokedOccupancies rootsHash =>
    exact .of_looks (.bind_keeps (resolveRevokedOccupancies_looks rootsHash) fun _ =>
      .bind (.check _) fun _ => .pure _)
  | publicTree hash =>
    exact .of_looks (.bind_keeps (fetchBarrierPublicTree_looks hash) fun _ => .pure _)

theorem ReadRequest.edit_adjusts (read : ReadRequest) :
    Preserves state.Adjusts (read.edit env) := by
  have h := state.adjusts_ticketStable env read.gid.val
  cases read with
  | lookupMergeAcceptance gid version digest weid =>
    exact .bind (.bind h.current fun _ => .check _) fun _ => .pure _
  | resolveRevokedOccupancies gid rootsHash =>
    exact .bind (h.resolveRevokedOccupancies rootsHash) fun _ => .pure _
  | resolveJoinOccupanciesSince gid version =>
    exact .bind (h.resolveJoinOccupanciesSince version) fun _ => .pure _
  | fetchBarrierPublicTree gid hash =>
    exact .bind (.of_keepsCore (fetchBarrierPublicTree_keepsCore hash)) fun _ => .pure _
  | currentHistoryCommitment gid =>
    exact .bind h.current fun _ => .pure _

end Answers

def CityGServer.accepted (env : ServerEnv) (bundle : ClientEpochBundle) (server : CityGServer) :
    Option CityGServer :=
  match acceptEpoch env bundle server with
  | .ok _ server' => some server'
  | .error _ _ => none

structure HistoryAnswer where
  query : HistoryQuery
  commitment : HistoryCommitment
  page : HistoryPage
  /-- The view of the group when the answer was given. -/
  view : HistoryView

/-- A server with its answers about one group and the chain of the group from step to step, the
newest first. -/
structure HistoryRun where
  server : CityGServer
  answers : List HistoryAnswer
  trail : List (HistoryView × HistoryCommitment)

inductive HistoryOp where
  | request (request : ServerRequest)
  | read (read : ReadRequest)
  | ask (query : HistoryQuery)
  | acceptEpoch (bundle : ClientEpochBundle)

namespace HistoryRun

section
variable (env : ServerEnv) (gid : Bytes32)

def group (run : HistoryRun) : GroupState := run.server.roster.group gid.val

def proceed (run : HistoryRun) (server : CityGServer) : HistoryRun :=
  { run with
    server := server
    trail := (server.roster.group gid.val).historyChain :: run.trail }

def give (run : HistoryRun) (query : HistoryQuery) (answer : HistoryCommitment × HistoryPage) :
    HistoryRun :=
  { run with answers := ⟨query, answer.1, answer.2, (run.group gid).historyView⟩ :: run.answers }

def step (run : HistoryRun) : HistoryOp → Option HistoryRun
  | .request request => some (run.proceed gid (CityGServer.serve env request run.server))
  | .read read => some (run.proceed gid (CityGServer.answer env read run.server))
  | .ask query =>
    match CityGServer.onKnownGroup gid (answerQuery env gid.val query) run.server with
    | .ok answer server =>
      if (run.group gid).AsksCurrent env.hL query then
        some ((run.proceed gid server).give gid query answer)
      else some (run.proceed gid server)
    | .error _ server => some (run.proceed gid server)
  | .acceptEpoch bundle =>
    some (run.proceed gid ((CityGServer.acceptEpoch env bundle).final run.server))

structure Unasked (run : HistoryRun) : Prop where
  answers : run.answers = []
  trail : run.trail = [(run.group gid).historyChain]
  commitment : (run.group gid).currentHistoryCommitment = {}

/-- An accepted epoch leaves no view under which the commitment that it is committed on was given
with an answer. -/
def LeavesShownViews (run : HistoryRun) : HistoryOp → Prop
  | .acceptEpoch bundle =>
    bundle.gid = gid.val → ∀ server ∈ CityGServer.accepted env bundle run.server,
      ∀ a ∈ run.answers, a.commitment = bundle.startCommitment env.hL (run.group gid) →
        (server.roster.group gid.val).historyView ≠ a.view
  | .request _ | .read _ | .ask _ => True

instance (run : HistoryRun) : DecidablePred (LeavesShownViews env gid run)
  | .acceptEpoch _ => by unfold LeavesShownViews; infer_instance
  | .request _ | .read _ | .ask _ => .isTrue trivial

/-- The commitments that the chain may have gone through between two states of the trail. -/
def Issued (run : HistoryRun) (commitment : HistoryCommitment) : Prop :=
  ∃ states ∈ run.trail.zip run.trail.tail, ∃ j m, commitment =
    (HistoryCommitment.renew env.hL gid.val states.1.1)^[m]
      ((HistoryCommitment.renew env.hL gid.val states.2.1)^[j] states.2.2)

def hashed (run : HistoryRun) : Set (String × Value) :=
  { x | (∃ state ∈ run.trail, x = ("barrier/history-view", state.1.value gid.val)) ∨
    ∃ commitment, run.Issued env gid commitment ∧
      x = ("barrier/history-commitment", commitment.value gid.val) }

variable {env gid}

structure Answered (env : ServerEnv) (gid : Bytes32) (run : HistoryRun) (a : HistoryAnswer) :
    Prop where
  view : a.view.id env.hL gid.val = .ok a.commitment.historyViewId
  seen : a.view ∈ run.trail.map Prod.fst
  initialized : a.view.barrierInitialized = true → (run.group gid).barrierInitialized = true
  page : a.commitment = (run.group gid).currentHistoryCommitment →
    (run.group gid).historyView = a.view →
      (run.group gid).page env.hL a.commitment a.query = .ok a.page

structure ChainOf (env : ServerEnv) (gid : Bytes32) (run : HistoryRun)
    (earlier : List HistoryCommitment) : Prop where
  chained : Chained env.hL gid.val ((run.group gid).currentHistoryCommitment :: earlier)
  issued : ∀ c ∈ (run.group gid).currentHistoryCommitment :: earlier, c = {} ∨ run.Issued env gid c
  answers : ∀ a ∈ run.answers, a.commitment ∈ (run.group gid).currentHistoryCommitment :: earlier

structure Consistent (env : ServerEnv) (gid : Bytes32) (run : HistoryRun) : Prop where
  trail : run.trail.head? = some (run.group gid).historyChain
  chain : ∃ earlier, ChainOf env gid run earlier
  answered : ∀ a ∈ run.answers, Answered env gid run a
  agree : ∀ a ∈ run.answers, ∀ b ∈ run.answers, a.commitment = b.commitment → a.query = b.query →
    a.page = b.page

variable {run : HistoryRun} {server : CityGServer}

theorem Issued.proceed {commitment : HistoryCommitment} (h : run.Issued env gid commitment) :
    (run.proceed gid server).Issued env gid commitment := by
  obtain ⟨states, hmem, hissued⟩ := h
  refine ⟨states, ?_, hissued⟩
  cases htrail : run.trail with
  | nil =>
    rw [htrail] at hmem
    cases hmem
  | cons newest rest =>
    change states ∈ (_ :: run.trail).zip run.trail
    rw [htrail] at hmem ⊢
    exact .tail _ hmem

theorem hashed_proceed : run.hashed env gid ⊆ (run.proceed gid server).hashed env gid := by
  rintro x (⟨state, hmem, rfl⟩ | ⟨commitment, hissued, rfl⟩)
  · exact .inl ⟨state, .tail _ hmem, rfl⟩
  · exact .inr ⟨commitment, hissued.proceed, rfl⟩

theorem issued_of_step (htrail : run.trail.head? = some (run.group gid).historyChain) (j m : Nat) :
    (run.proceed gid server).Issued env gid
      ((HistoryCommitment.renew env.hL gid.val (server.roster.group gid.val).historyView)^[m]
        ((HistoryCommitment.renew env.hL gid.val (run.group gid).historyView)^[j]
          (run.group gid).currentHistoryCommitment)) := by
  refine ⟨((server.roster.group gid.val).historyChain, (run.group gid).historyChain), ?_, j, m, rfl⟩
  obtain ⟨rest, hrest⟩ := List.head?_eq_some_iff.mp htrail
  simp [proceed, hrest]

theorem ChainOf.nodup {earlier : List HistoryCommitment} (h : ChainOf env gid run earlier)
    (hinj : Set.InjOn (fun x => env.hL x.1 x.2) (run.hashed env gid)) :
    ((run.group gid).currentHistoryCommitment :: earlier).Nodup := by
  refine h.chained.nodup fun a ha b hb hne hne' hsame => ?_
  have hissued : ∀ c ∈ (run.group gid).currentHistoryCommitment :: earlier, c ≠ {} →
      ("barrier/history-commitment", c.value gid.val) ∈ run.hashed env gid :=
    fun c hc hne => .inr ⟨c, (h.issued c hc).resolve_left hne, rfl⟩
  exact congrArg Prod.snd (hinj (hissued a ha hne) (hissued b hb hne') hsame)

theorem ChainOf.proceed {earlier : List HistoryCommitment} (h : ChainOf env gid run earlier)
    (htrail : run.trail.head? = some (run.group gid).historyChain) {j m : Nat}
    (hstep : (server.roster.group gid.val).currentHistoryCommitment =
      (HistoryCommitment.renew env.hL gid.val (server.roster.group gid.val).historyView)^[m]
        ((HistoryCommitment.renew env.hL gid.val (run.group gid).historyView)^[j]
          (run.group gid).currentHistoryCommitment))
    (hinj : Set.InjOn (fun x => env.hL x.1 x.2) ((run.proceed gid server).hashed env gid)) :
    ∃ earlier', ChainOf env gid (run.proceed gid server) earlier' ∧ ∀ a ∈ run.answers,
      a.commitment = (server.roster.group gid.val).currentHistoryCommitment →
      a.commitment = (run.group gid).currentHistoryCommitment ∧ a.commitment =
        (HistoryCommitment.renew env.hL gid.val (run.group gid).historyView)^[j]
          (run.group gid).currentHistoryCommitment := by
  obtain ⟨middle, earlier', hchained, hsuffix, hsuffix', hmem⟩ :=
    h.chained.proceed (run.group gid).historyView (server.roster.group gid.val).historyView j m
  rw [← hstep] at hchained hsuffix' hmem
  have hchain : ChainOf env gid (run.proceed gid server) earlier' := by
    refine ⟨hchained, fun c hc => ?_, fun a ha => ?_⟩
    · rcases hmem c hc with hold | ⟨i, k, rfl⟩
      · exact (h.issued c hold).imp_right Issued.proceed
      · exact .inr (issued_of_step htrail i k)
    · exact (hsuffix.trans hsuffix').subset (h.answers a ha)
  refine ⟨earlier', hchain, fun a ha hnewest => ?_⟩
  have hnodup := hchain.nodup hinj
  have hold := h.answers a ha
  rw [hnewest] at hold ⊢
  exact ⟨(head_eq_of_suffix hnodup (hsuffix.trans hsuffix') hold).symm,
    (head_eq_of_suffix hnodup hsuffix' (hsuffix.subset hold)).symm⟩

theorem Consistent.proceed (h : Consistent env gid run) {j m : Nat}
    (hstep : (server.roster.group gid.val).currentHistoryCommitment =
      (HistoryCommitment.renew env.hL gid.val (server.roster.group gid.val).historyView)^[m]
        ((HistoryCommitment.renew env.hL gid.val (run.group gid).historyView)^[j]
          (run.group gid).currentHistoryCommitment))
    (hinj : Set.InjOn (fun x => env.hL x.1 x.2) ((run.proceed gid server).hashed env gid))
    (hinit : (run.group gid).barrierInitialized = true →
      (server.roster.group gid.val).barrierInitialized = true)
    (hpage : ∀ a ∈ run.answers, a.commitment = (run.group gid).currentHistoryCommitment →
      a.commitment = (HistoryCommitment.renew env.hL gid.val (run.group gid).historyView)^[j]
        (run.group gid).currentHistoryCommitment →
      (server.roster.group gid.val).historyView = a.view →
        (server.roster.group gid.val).page env.hL a.commitment a.query = .ok a.page) :
    Consistent env gid (run.proceed gid server) := by
  obtain ⟨earlier, hchain⟩ := h.chain
  obtain ⟨earlier', hchain', hnewest⟩ := hchain.proceed h.trail hstep hinj
  refine ⟨rfl, ⟨earlier', hchain'⟩, fun a ha => ?_, h.agree⟩
  have hbefore := h.answered a ha
  refine ⟨hbefore.view, .tail _ hbefore.seen, fun hset => hinit (hbefore.initialized hset), ?_⟩
  intro hcurrent hview
  obtain ⟨hstart, hmiddle⟩ := hnewest a ha hcurrent
  exact hpage a ha hstart hmiddle hview

theorem Consistent.serve (h : Consistent env gid run)
    (hproceeds : (run.group gid).Proceeds env.hL gid.val (server.roster.group gid.val))
    (hinitializes : (run.group gid).Initializes env (server.roster.group gid.val))
    (hinj : Set.InjOn (fun x => env.hL x.1 x.2) ((run.proceed gid server).hashed env gid)) :
    Consistent env gid (run.proceed gid server) := by
  obtain ⟨j, m, hstep⟩ := hproceeds
  rcases hinitializes.adjusts_or_initialized with hadjusts | ⟨hunset, hset⟩
  · have hview := hadjusts.historyView
    refine h.proceed hstep hinj (fun hinit => ?_) fun a ha hcurrent _ hsame => ?_
    · exact (congrArg (·.barrierInitialized) hview).trans hinit
    · exact hadjusts.page ((h.answered a ha).page hcurrent (hview.symm.trans hsame))
  · refine h.proceed hstep hinj (fun _ => hset) fun a ha _ _ hsame => ?_
    -- No answer was given yet under a view with a barrier.
    have hinit := (h.answered a ha).initialized ((congrArg (·.barrierInitialized) hsame).symm.trans hset)
    exact Bool.noConfusion (hunset.symm.trans hinit)

variable {query : HistoryQuery} {next : HistoryRun}

theorem Consistent.give (h : Consistent env gid run) {answer : HistoryCommitment × HistoryPage}
    (hinj : Set.InjOn (fun x => env.hL x.1 x.2) (run.hashed env gid))
    (hshown : Shown env.hL gid.val answer.1 (run.group gid))
    (hpage : (run.group gid).page env.hL answer.1 query = .ok answer.2) :
    Consistent env gid (run.give gid query answer) := by
  have hseen : (run.group gid).historyChain ∈ run.trail := List.mem_of_head? h.trail
  -- The id in the commitment determines the view.
  have hview : ∀ a ∈ run.answers, a.commitment = answer.1 → (run.group gid).historyView = a.view := by
    intro a ha hsame
    obtain ⟨state, hmem, hstate⟩ := List.mem_map.mp (h.answered a ha).seen
    have hid := HistoryView.hash_of_id (h.answered a ha).view
    rw [hsame, ← HistoryView.hash_of_id hshown.view, ← hstate] at hid
    have hvalue := congrArg Prod.snd (hinj (.inl ⟨state, hmem, rfl⟩) (.inl ⟨_, hseen, rfl⟩) hid)
    exact (HistoryView.value_injective gid.val hvalue).symm.trans hstate
  have hagree : ∀ a ∈ run.answers, a.commitment = answer.1 → a.query = query → a.page = answer.2 := by
    intro a ha hsame hquery
    have hfound := (h.answered a ha).page (hsame.trans hshown.current.symm) (hview a ha hsame)
    rw [hsame, hquery, hpage] at hfound
    exact (Except.ok.inj hfound).symm
  obtain ⟨earlier, hchain⟩ := h.chain
  refine ⟨h.trail, ⟨earlier, hchain.chained, hchain.issued, fun a ha => ?_⟩, fun a ha => ?_, ?_⟩
  · rcases List.mem_cons.mp ha with rfl | ha
    · exact hshown.current ▸ List.mem_cons_self
    · exact hchain.answers a ha
  · rcases List.mem_cons.mp ha with rfl | ha
    · exact ⟨hshown.view, List.mem_map_of_mem hseen, id, fun _ _ => hpage⟩
    · exact ⟨(h.answered a ha).view, (h.answered a ha).seen, (h.answered a ha).initialized,
        (h.answered a ha).page⟩
  · intro a ha b hb hsame hquery
    rcases List.mem_cons.mp ha with rfl | ha <;> rcases List.mem_cons.mp hb with rfl | hb
    · rfl
    · exact (hagree b hb hsame.symm hquery.symm).symm
    · exact hagree a ha hsame hquery
    · exact h.agree a ha b hb hsame hquery

theorem Unasked.consistent (h : Unasked gid run) : Consistent env gid run := by
  refine ⟨by rw [h.trail]; rfl, ⟨[], ⟨?_, ?_⟩, ?_, ?_⟩, ?_, ?_⟩
  · exact List.isChain_singleton _
  · rw [h.commitment]
    rfl
  · intro c hc
    exact .inl ((List.mem_singleton.mp hc).trans h.commitment)
  all_goals
    rw [h.answers]
    exact fun a ha => absurd ha List.not_mem_nil

theorem Consistent.adjust (h : Consistent env gid run)
    (hcontinues : run.server.Continues env server) (hadjusts : run.server.Adjusts server)
    (hinj : Set.InjOn (fun x => env.hL x.1 x.2) ((run.proceed gid server).hashed env gid)) :
    Consistent env gid (run.proceed gid server) :=
  h.serve (hcontinues gid.val).proceeds (.adjusts (hadjusts.group_adjusts gid.val)) hinj

theorem step_ask (hstep : run.step env gid (.ask query) = some next) :
    let program := CityGServer.onKnownGroup gid (answerQuery env gid.val query)
    next = run.proceed gid (program.final run.server) ∨
      ∃ answer server, program run.server = .ok answer server ∧
        (run.group gid).AsksCurrent env.hL query ∧
        next = (run.proceed gid server).give gid query answer := by
  intro program
  cases hanswered : program run.server with
  | error e server =>
    rw [EStateM.final_of_error hanswered]
    simp only [step, program, hanswered, Option.some.injEq] at hstep
    exact .inl hstep.symm
  | ok answer server =>
    rw [EStateM.final_of_ok hanswered]
    simp only [step, program, hanswered] at hstep
    split_ifs at hstep with hcurrent
    · exact .inr ⟨answer, server, rfl, hcurrent, (Option.some.inj hstep).symm⟩
    · exact .inl (Option.some.inj hstep).symm

theorem Consistent.ask (h : Consistent env gid run)
    (hstep : run.step env gid (.ask query) = some next)
    (hinj : Set.InjOn (fun x => env.hL x.1 x.2) (next.hashed env gid)) :
    Consistent env gid next := by
  have hbrowses : Preserves (run.server.Continues env)
      (CityGServer.onKnownGroup gid (answerQuery env gid.val query)) :=
    .bind (.check _) fun _ => CityGServer.Continues.onGroup (answerQuery_browses query)
  have hadjusts : Preserves run.server.Adjusts
      (CityGServer.onKnownGroup gid (answerQuery env gid.val query)) :=
    .bind (.check _) fun _ => CityGServer.Adjusts.onGroup fun _ => answerQuery_adjusts query
  obtain rfl | ⟨answer, server, hanswered, hcurrent, rfl⟩ := step_ask hstep
  · exact h.adjust (hbrowses _ (.refl _)) (hadjusts _ (.refl _)) hinj
  · have hproceed : Consistent env gid (run.proceed gid server) :=
      h.adjust (hbrowses.of_ok (.refl _) hanswered) (hadjusts.of_ok (.refl _) hanswered) hinj
    obtain ⟨-, -, hanswered⟩ := EStateM.check_bind_eq_ok.mp hanswered
    obtain ⟨state, hquery, rfl⟩ := EStateM.zoom_eq_ok.mp hanswered
    obtain ⟨hshown, hpage⟩ := answerQuery_ok hquery hcurrent
    have hgroup : (run.proceed gid (CityGServer.putGroup gid.val state run.server)).group gid = state :=
      (GroupRoster.group_insert _ _ _ _).trans (if_pos rfl)
    rw [← hgroup] at hshown hpage
    exact hproceed.give hinj hshown hpage

theorem startCommitment_eq (hL : HashL) (bundle : ClientEpochBundle) (state : GroupState) :
    ∃ j, bundle.startCommitment hL state =
      (HistoryCommitment.renew hL bundle.gid state.historyView)^[j] state.currentHistoryCommitment := by
  unfold ClientEpochBundle.startCommitment
  split
  · exact ⟨1, rfl⟩
  · exact ⟨0, rfl⟩

theorem Consistent.acceptEpoch (h : Consistent env gid run) {bundle : ClientEpochBundle}
    (hguard : LeavesShownViews env gid run (.acceptEpoch bundle))
    (hinj : Set.InjOn (fun x => env.hL x.1 x.2) ((run.proceed gid
      ((CityGServer.acceptEpoch env bundle).final run.server)).hashed env gid)) :
    Consistent env gid (run.proceed gid ((CityGServer.acceptEpoch env bundle).final run.server)) := by
  have hsame : ∀ {server : CityGServer}, server.roster.group gid.val = run.group gid →
      Set.InjOn (fun x => env.hL x.1 x.2) ((run.proceed gid server).hashed env gid) →
      Consistent env gid (run.proceed gid server) := by
    intro server hgroup
    refine h.serve (GroupState.Continues.of_chain ?_).proceeds ?_
    · rw [hgroup]
    · rw [hgroup]
      exact .adjusts (.refl _)
  cases hrun : CityGServer.acceptEpoch env bundle run.server with
  | error e server =>
    rw [EStateM.final_of_error hrun, acceptEpoch_error hrun] at hinj ⊢
    exact hsame rfl hinj
  | ok outcome server =>
    rw [EStateM.final_of_ok hrun] at hinj ⊢
    obtain ⟨prepared, accepted, barrier, group, newRoot, hepoch⟩ := acceptEpoch_ok hrun
    by_cases hgid : bundle.gid = gid.val
    · have haccepted : CityGServer.accepted env bundle run.server = some server := by
        rw [CityGServer.accepted, hrun]
      have hleaves := hguard hgid server haccepted
      obtain ⟨j, hj⟩ := startCommitment_eq env.hL bundle (run.group gid)
      obtain ⟨m, hm⟩ := hepoch.commitment
      have hinit := hepoch.initialized
      rw [hgid] at hj hm hinit
      refine h.proceed (hm.trans (congrArg _ hj)) hinj (fun _ => hinit) ?_
      intro a ha _ hstart hview
      exact absurd hview (hleaves a ha (hstart.trans hj.symm))
    · exact hsame (hepoch.others (Ne.symm hgid)) hinj

theorem hashed_step {op : HistoryOp} (hstep : run.step env gid op = some next) :
    run.hashed env gid ⊆ next.hashed env gid := by
  cases op with
  | request | read | acceptEpoch =>
    cases hstep
    exact hashed_proceed
  | ask query =>
    obtain rfl | ⟨answer, server, -, -, rfl⟩ := step_ask hstep
    · exact hashed_proceed
    · have hproceed : run.hashed env gid ⊆ (run.proceed gid server).hashed env gid := hashed_proceed
      exact hproceed

theorem consistent_of_reach
    (h : Run.Reach (Unasked gid) (step env gid) (LeavesShownViews env gid) run) :
    Set.InjOn (fun x => env.hL x.1 x.2) (run.hashed env gid) → Consistent env gid run := by
  induction h with
  | start hstart => exact fun _ => hstart.consistent
  | @next run next op _ hguard hstep ih =>
  intro hinj
  have hbefore := ih (hinj.mono (hashed_step hstep))
  cases op with
  | request request =>
    cases hstep
    exact hbefore.serve (CityGServer.serve_proceeds request run.server gid.val)
      ((CityGServer.serve_manages env request run.server).group_initializes gid.val) hinj
  | read read =>
    cases hstep
    have hbrowses : Preserves (run.server.Continues env)
        (CityGServer.onKnownGroup read.gid (read.edit env)) :=
      .bind (.check _) fun _ => CityGServer.Continues.onGroup (.of_looks read.edit_looks)
    have hadjusts : Preserves run.server.Adjusts
        (CityGServer.onKnownGroup read.gid (read.edit env)) :=
      .bind (.check _) fun _ => CityGServer.Adjusts.onGroup fun _ => read.edit_adjusts
    exact hbefore.adjust (hbrowses _ (.refl _)) (hadjusts _ (.refl _)) hinj
  | ask query => exact hbefore.ask hstep hinj
  | acceptEpoch bundle =>
    cases hstep
    exact hbefore.acceptEpoch hguard hinj

/-- Under one commitment, a query is answered with one page. -/
theorem one_page_under_commitment (env : ServerEnv) (gid : Bytes32) {run : HistoryRun}
    (h : Run.Reach (Unasked gid) (step env gid) (LeavesShownViews env gid) run)
    (hinj : Set.InjOn (fun x => env.hL x.1 x.2) (run.hashed env gid)) :
    ∀ a ∈ run.answers, ∀ b ∈ run.answers, a.commitment = b.commitment → a.query = b.query →
      a.page = b.page :=
  (consistent_of_reach h hinj).agree

end

section Settled
variable {env : ServerEnv} {gid : Bytes32} {run : HistoryRun}

def renewals (env : ServerEnv) (gid : Bytes32) (view : HistoryView) (commitment : HistoryCommitment) :
    List HistoryCommitment :=
  [commitment, commitment.renew env.hL gid.val view]

def Settled (env : ServerEnv) (gid : Bytes32) (run : HistoryRun) : Prop :=
  ∀ states ∈ run.trail.zip run.trail.tail,
    (states.2.2.renew env.hL gid.val states.2.1).renew env.hL gid.val states.2.1 =
      states.2.2.renew env.hL gid.val states.2.1 ∧
    ∀ c ∈ renewals env gid states.2.1 states.2.2,
      (c.renew env.hL gid.val states.1.1).renew env.hL gid.val states.1.1 =
        c.renew env.hL gid.val states.1.1

instance : Decidable (Settled env gid run) := by unfold Settled; infer_instance

def hashedOnce (env : ServerEnv) (gid : Bytes32) (run : HistoryRun) :
    List (HistoryView ⊕ HistoryCommitment) :=
  run.trail.map (fun state => .inl state.1) ++
    ((run.trail.zip run.trail.tail).flatMap fun states =>
      (renewals env gid states.2.1 states.2.2).flatMap (renewals env gid states.1.1)).map .inr

def hashInput (gid : Bytes32) : HistoryView ⊕ HistoryCommitment → String × Value
  | .inl view => ("barrier/history-view", view.value gid.val)
  | .inr commitment => ("barrier/history-commitment", commitment.value gid.val)

def HashesApart (env : ServerEnv) (gid : Bytes32) (run : HistoryRun) : Prop :=
  ((run.hashedOnce env gid).dedup.map fun x => env.hL (hashInput gid x).1 (hashInput gid x).2).Nodup

instance : Decidable (HashesApart env gid run) := by unfold HashesApart; infer_instance

theorem iterate_mem_renewals {view : HistoryView} {c : HistoryCommitment}
    (h : (c.renew env.hL gid.val view).renew env.hL gid.val view = c.renew env.hL gid.val view)
    (k : Nat) : (HistoryCommitment.renew env.hL gid.val view)^[k] c ∈ renewals env gid view c := by
  cases k with
  | zero => exact List.mem_cons_self
  | succ k =>
    rw [Function.iterate_succ_apply, Function.iterate_fixed h]
    simp [renewals]

theorem Settled.hashed (h : Settled env gid run) {x : String × Value}
    (hx : x ∈ run.hashed env gid) : ∃ y ∈ run.hashedOnce env gid, x = hashInput gid y := by
  obtain ⟨state, hmem, rfl⟩ | ⟨c, ⟨states, hmem, j, m, rfl⟩, rfl⟩ := hx
  · exact ⟨.inl state.1, List.mem_append_left _ (List.mem_map_of_mem hmem), rfl⟩
  · obtain ⟨hbefore, hafter⟩ := h states hmem
    have hj := iterate_mem_renewals hbefore j
    refine ⟨.inr _, List.mem_append_right _ (List.mem_map_of_mem ?_), rfl⟩
    refine List.mem_flatMap.mpr ⟨states, hmem, List.mem_flatMap.mpr ⟨_, hj, ?_⟩⟩
    exact iterate_mem_renewals (hafter _ hj) m

theorem Settled.injOn (h : Settled env gid run) (hapart : HashesApart env gid run) :
    Set.InjOn (fun x => env.hL x.1 x.2) (run.hashed env gid) := by
  intro x hx y hy hsame
  obtain ⟨x', hx', rfl⟩ := h.hashed hx
  obtain ⟨y', hy', rfl⟩ := h.hashed hy
  rw [List.inj_on_of_nodup_map hapart (List.mem_dedup.mpr hx') (List.mem_dedup.mpr hy') hsame]

end Settled

def wideRoom : CityGServer := { roomServer with roster := OrdMap.empty.insert roomGid.val { nMax := 4 } }

def unaskedRoom : HistoryRun :=
  ⟨wideRoom, [], [(wideRoom.roster.group roomGid.val).historyChain]⟩

theorem unasked_room : Unasked roomGid unaskedRoom := ⟨rfl, rfl, by decide +kernel⟩

def foremostJoin : RoomEpoch where
  fsEc := 9
  device := 10
  joinRoot := deviceLeaf 10

def companionJoin : RoomEpoch where
  fsEc := 6
  device := 11
  parentRoot := deviceLeaf 10
  joinRoot := deviceLeaf 11

def replacingJoin : RoomEpoch where
  fsEc := 5
  device := 12
  joinRoot := deviceLeaf 12

def companionAgain : RoomEpoch where
  fsEc := 7
  device := 11
  parentRoot := deviceLeaf 10
  joinRoot := deviceLeaf 11
  devPrev := companionJoin.devCommit

def joinTicket (device token : Byte) : HistoryOp :=
  .request (.buildJoinTicket roomGid (some (deviceLeaf device)) ⟨kemKey 9, fill token⟩)

def joinedTwice : List HistoryOp :=
  [.request (.registerGroup roomGid (kemKey 1)), joinTicket 10 77, joinTicket 11 78, joinTicket 12 79,
    .acceptEpoch (foremostJoin.join 20), .acceptEpoch (companionJoin.join 21),
    .ask (.joinOccupancies 0), .acceptEpoch (replacingJoin.join 22),
    .acceptEpoch (companionAgain.join 23), .ask (.joinOccupancies 0)]

set_option maxRecDepth 1000000 in
theorem one_page_in_joined_room :
    ∃ run ∈ Run.exec (Run.guarded (step roomEnv roomGid) (LeavesShownViews roomEnv roomGid)) unaskedRoom
        [.request (.registerGroup roomGid (kemKey 1)), joinTicket 10 77,
          .acceptEpoch (foremostJoin.join 20), .ask (.joinOccupancies 0), .ask (.joinOccupancies 0)],
      run.answers.length = 2 ∧ ∀ a ∈ run.answers, ∀ b ∈ run.answers, a.page = b.page := by
  obtain ⟨run, hrun, hsettled, hapart, hanswers, hsame⟩ :
      ∃ run ∈ Run.exec (Run.guarded (step roomEnv roomGid) (LeavesShownViews roomEnv roomGid))
          unaskedRoom
          [.request (.registerGroup roomGid (kemKey 1)), joinTicket 10 77,
            .acceptEpoch (foremostJoin.join 20), .ask (.joinOccupancies 0), .ask (.joinOccupancies 0)],
        Settled roomEnv roomGid run ∧ HashesApart roomEnv roomGid run ∧ run.answers.length = 2 ∧
        ∀ a ∈ run.answers, ∀ b ∈ run.answers, a.commitment = b.commitment ∧ a.query = b.query := by
    decide +kernel
  refine ⟨run, hrun, hanswers, fun a ha b hb => ?_⟩
  obtain ⟨hcommitment, hquery⟩ := hsame a ha b hb
  exact one_page_under_commitment roomEnv roomGid (Run.reach_of_exec (.start unasked_room) hrun)
    (hsettled.injOn hapart) a ha b hb hcommitment hquery

set_option maxRecDepth 1000000 in
/-- The same members come back with the same counters and another key for one of them. -/
theorem two_pages_under_commitment :
    ∃ run ∈ Run.exec (step roomEnv roomGid) unaskedRoom joinedTwice,
      Set.InjOn (fun x => roomEnv.hL x.1 x.2) (run.hashed roomEnv roomGid) ∧
      ∃ a ∈ run.answers, ∃ b ∈ run.answers, a.commitment = b.commitment ∧ a.query = b.query ∧
        a.page ≠ b.page := by
  obtain ⟨run, hrun, hsettled, hapart, hpages⟩ :
      ∃ run ∈ Run.exec (step roomEnv roomGid) unaskedRoom joinedTwice,
        Settled roomEnv roomGid run ∧ HashesApart roomEnv roomGid run ∧
        ∃ a ∈ run.answers, ∃ b ∈ run.answers, a.commitment = b.commitment ∧ a.query = b.query ∧
          a.page ≠ b.page := by
    decide +kernel
  exact ⟨run, hrun, hsettled.injOn hapart, hpages⟩

end HistoryRun

end CityG
