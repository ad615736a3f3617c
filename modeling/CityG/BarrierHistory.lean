import CityG.BarrierHash
import CityG.BarrierUpdate

/-!
# The stored public trees and the history commitments

Trees are stored as lists of indices into a pool of entries. Every change of
the committed view appends one step to the group's commitment chain.
-/

namespace CityG

def MAX_RETAINED_BARRIER_PUBLIC_TREE_SNAPSHOTS : Nat := 256

def barrierPkEntryLayout (nMax : Nat) : Except CityGError (Nat × Nat × Nat) := do
  let nMax ← validateBarrierNMax nMax
  pure (nMax, 2 * nMax - 1, nMax - 1)

def buildFallbackPkEntries (state : GroupState) : Except CityGError PkEntries := do
  ensureDistinctActiveSlotIndices state
  let (nMax, expectedLen, leafBase) ← barrierPkEntryLayout state.nMax
  (match state.latestSnapshot with
    | some snapshot => snapshot.members.keys
    | none => []).foldlM (fun pk leaf => do
      let lease ← requireActiveSlotLease state leaf
      if nMax ≤ lease.slotIndex then pure pk
      else
        match state.leafBarrierPublic.get? leaf with
        | some ekLeaf => pure (pk.set (leafBase + lease.slotIndex) ekLeaf)
        | none => pure pk) (List.replicate expectedLen [])

def buildPkEntriesView (state : GroupState) : Except CityGError PkEntries := do
  ensureDistinctActiveSlotIndices state
  let (_, expectedLen, _) ← barrierPkEntryLayout state.nMax
  if state.barrierPkEntries.length = expectedLen then pure state.barrierPkEntries
  else buildFallbackPkEntries state

def rebuildBarrierPublicTreeBlobIndex : EStateM CityGError GroupState Unit := do
  modify fun state => { state with
    barrierPublicTreeBlobIndex :=
      OrdMap.ofList (state.barrierPublicTreeBlobs.zipIdx.take (U32_MAX + 1)) }
  if U32_MAX + 1 < (← get).barrierPublicTreeBlobs.length then
    throw (.invalidInput "barrier public tree blob index overflow")

def internBarrierPublicTreeBlob (entry : Bytes) : EStateM CityGError GroupState Nat := do
  let state ← get
  match state.barrierPublicTreeBlobIndex.get? entry with
  | some index => pure index
  | none =>
    let index := state.barrierPublicTreeBlobs.length
    if U32_MAX < index then throw (.invalidInput "barrier public tree blob index overflow")
    else do
      set { state with
        barrierPublicTreeBlobs := state.barrierPublicTreeBlobs ++ [entry]
        barrierPublicTreeBlobIndex := state.barrierPublicTreeBlobIndex.insert entry index }
      pure index

def internBarrierPublicTreeBlobs : List Bytes → EStateM CityGError GroupState (List Nat)
  | [] => pure []
  | entry :: rest => do
    let index ← internBarrierPublicTreeBlob entry
    let indices ← internBarrierPublicTreeBlobs rest
    pure (index :: indices)

def encodeBarrierPublicTreeSnapshotRef (pk : PkEntries) :
    EStateM CityGError GroupState BarrierPublicTreeSnapshotRef := do
  let blobIndices ← internBarrierPublicTreeBlobs pk
  pure ⟨blobIndices, 0, Bytes32.zero, {}⟩

def decodeBarrierPublicTreeSnapshotRef (blobs : List Bytes)
    (snapshot : BarrierPublicTreeSnapshotRef) : Except CityGError PkEntries :=
  Except.mapList (fun index =>
    Except.ofOption (.invalidInput "barrier public tree blob missing") blobs[index]?)
    snapshot.blobIndices

/-- Current tree first, then the newest commitment, then the larger hash. -/
def retainedBefore (current : Bytes32) (a b : Bytes32 × BarrierPublicTreeSnapshotRef) : Prop :=
  a.1 = current ∧ b.1 ≠ current ∨
    (a.1 = current ↔ b.1 = current) ∧
      (b.2.historyCommitment.historySeq < a.2.historyCommitment.historySeq ∨
        b.2.historyCommitment.historySeq = a.2.historyCommitment.historySeq ∧ b.1 ≤ a.1)

instance (current : Bytes32) : DecidableRel (retainedBefore current) := fun _ _ =>
  inferInstanceAs (Decidable (_ ∨ _))

def GroupState.putTree (state : GroupState) (hash : Bytes32)
    (snapshot : BarrierPublicTreeSnapshotRef) : GroupState :=
  { state with barrierPublicTreeHistory := state.barrierPublicTreeHistory.insert hash snapshot }

def BarrierPublicTreeSnapshotRef.committed (snapshot : BarrierPublicTreeSnapshotRef)
    (barrierVersion : Nat) (commitment : HistoryCommitment) : BarrierPublicTreeSnapshotRef :=
  { snapshot with
    barrierVersion := barrierVersion
    historyCommitment := commitment
    historyViewId := commitment.historyViewId }

/-- Store the retained trees again. The barrier version of a snapshot is not
carried over: the encoder leaves it at zero. -/
def restoreRetained (oldBlobs : List Bytes) :
    List (Bytes32 × BarrierPublicTreeSnapshotRef) → EStateM CityGError GroupState Unit
  | [] => pure ()
  | (hash, snapshot) :: rest => do
    let pk ← EStateM.ofExcept (decodeBarrierPublicTreeSnapshotRef oldBlobs snapshot)
    let encoded ← encodeBarrierPublicTreeSnapshotRef pk
    modify fun state => state.putTree hash { encoded with
      historyViewId := snapshot.historyViewId
      historyCommitment := snapshot.historyCommitment }
    restoreRetained oldBlobs rest

def pruneBarrierPublicTreeHistory : EStateM CityGError GroupState Unit := do
  let state ← get
  if state.barrierPublicTreeHistory.isEmpty then
    set { state with barrierPublicTreeBlobs := [], barrierPublicTreeBlobIndex := .empty }
  else do
    let retained := (state.barrierPublicTreeHistory.entries.insertionSort
      (retainedBefore state.kemTreeHashAfter)).take MAX_RETAINED_BARRIER_PUBLIC_TREE_SNAPSHOTS
    set { state with
      barrierPublicTreeHistory := .empty
      barrierPublicTreeBlobs := []
      barrierPublicTreeBlobIndex := .empty }
    restoreRetained state.barrierPublicTreeBlobs retained

section
variable (hL : HashL) (dec : WireDecoder) (gid : Bytes)

def computeHistoryViewId (state : GroupState) : Except CityGError Bytes32 := do
  let nMax ← validateBarrierNMax state.nMax
  pure (hL "barrier/history-view" (Value.ofFields
    [("gid", .bytes gid), ("barrier_initialized", .bool state.barrierInitialized),
      ("barrier_version", .ofNat state.barrierVersion),
      ("barrier_roots_hash", .bytes state.barrierRootsHash.val),
      ("kem_tree_hash_after", .bytes state.kemTreeHashAfter.val),
      ("latest_root", .bytes (state.latestRoot.getD Bytes32.zero).val),
      ("last_checkpoint_ec", .ofNat state.lastCheckpointEc),
      ("last_accepted_ec", .ofNat state.lastAcceptedEc), ("n_max", .ofNat nMax)]))

def computeHistoryCommitmentId (historyViewId prevHistoryCommitmentId : Bytes32)
    (historySeq : Nat) : Bytes32 :=
  hL "barrier/history-commitment" (Value.ofFields
    [("gid", .bytes gid), ("history_view_id", .bytes historyViewId.val),
      ("prev_history_commitment_id", .bytes prevHistoryCommitmentId.val),
      ("history_seq", .ofNat historySeq)])

def synthesizeLegacyHistoryCommitment (historyViewId : Bytes32) : HistoryCommitment :=
  if historyViewId = Bytes32.zero then {}
  else
    { historyViewId := historyViewId
      historyCommitmentId :=
        hL "barrier/history-commitment/legacy" (.bytes (gid ++ historyViewId.val)) }

def storedTreeOrEncode (kemTreeHashAfter : Bytes32) (pk : PkEntries) :
    EStateM CityGError GroupState BarrierPublicTreeSnapshotRef := do
  match (← get).barrierPublicTreeHistory.get? kemTreeHashAfter with
  | some snapshot => pure snapshot
  | none => encodeBarrierPublicTreeSnapshotRef pk

def recordBarrierPublicTreeSnapshotWithMetadata (kemTreeHashAfter : Bytes32)
    (barrierVersion : Nat) (commitment : HistoryCommitment) (pk : PkEntries) :
    EStateM CityGError GroupState Unit :=
  if pk = [] then pure ()
  else do
    let snapshot ← storedTreeOrEncode kemTreeHashAfter pk
    modify fun state =>
      state.putTree kemTreeHashAfter (snapshot.committed barrierVersion commitment)

def refreshCurrentTree (commitment : HistoryCommitment) : EStateM CityGError GroupState Unit := do
  let state ← get
  if state.barrierPkEntries = [] then pure ()
  else do
    let current ← EStateM.ofExcept (buildPkEntriesView state)
    let currentHash ← EStateM.ofExcept (computeBarrierTreeHash hL (max state.nMax 1) current)
    recordBarrierPublicTreeSnapshotWithMetadata currentHash state.barrierVersion commitment current

def refreshPredecessorTree (commitment : HistoryCommitment) :
    EStateM CityGError GroupState Unit := do
  let state ← get
  let predecessorHash := state.acceptedPredecessorHash dec
  match state.barrierPublicTreeHistory.get? predecessorHash with
  | some snapshot =>
    if predecessorHash = Bytes32.zero then pure ()
    else set (state.putTree predecessorHash (snapshot.committed state.barrierVersion commitment))
  | none => pure ()

def refreshCurrentBarrierSnapshotCommitments (commitment : HistoryCommitment) :
    EStateM CityGError GroupState Unit := do
  refreshCurrentTree hL commitment
  refreshPredecessorTree dec commitment

def nextHistoryCommitment (current : HistoryCommitment) (historyViewId : Bytes32) :
    HistoryCommitment :=
  let historySeq := min (current.historySeq + 1) U64_MAX
  { historyViewId := historyViewId
    historyCommitmentId := computeHistoryCommitmentId hL gid historyViewId
      current.historyCommitmentId historySeq
    prevHistoryCommitmentId := current.historyCommitmentId
    historySeq := historySeq }

def GroupState.withCommitment (state : GroupState) (commitment : HistoryCommitment) : GroupState :=
  { state with currentHistoryCommitment := commitment }

def ensureCurrentHistoryCommitment : EStateM CityGError GroupState HistoryCommitment := do
  let state ← get
  let historyViewId ← EStateM.ofExcept (computeHistoryViewId hL gid state)
  let current := state.currentHistoryCommitment
  if current.historyViewId = historyViewId ∧ current.historyCommitmentId ≠ Bytes32.zero then do
    refreshCurrentBarrierSnapshotCommitments hL dec current
    pure current
  else do
    let commitment := nextHistoryCommitment hL gid current historyViewId
    set (state.withCommitment commitment)
    refreshCurrentBarrierSnapshotCommitments hL dec commitment
    pure commitment

def recordBarrierPublicTreeSnapshot : EStateM CityGError GroupState Unit := do
  let state ← get
  if state.barrierPkEntries = [] then pure ()
  else do
    let snapshot ← encodeBarrierPublicTreeSnapshotRef state.barrierPkEntries
    let commitment ← ensureCurrentHistoryCommitment hL dec gid
    modify fun after =>
      after.putTree after.kemTreeHashAfter (snapshot.committed state.barrierVersion commitment)
    pruneBarrierPublicTreeHistory

end

def GroupState.withoutTrees (state : GroupState) : GroupState :=
  { state with
    barrierPublicTreeBlobs := []
    barrierPublicTreeBlobIndex := .empty
    barrierPublicTreeHistory := .empty }

def GroupState.withoutHistory (state : GroupState) : GroupState :=
  { state with
    barrierPublicTreeBlobs := []
    barrierPublicTreeBlobIndex := .empty
    barrierPublicTreeHistory := .empty
    currentHistoryCommitment := {} }

def KeepsOffTrees {α : Type} (x : EStateM CityGError GroupState α) : Prop :=
  ∀ state, x.KeepsAt GroupState.withoutTrees state

def KeepsCore {α : Type} (x : EStateM CityGError GroupState α) : Prop :=
  ∀ state, x.KeepsAt GroupState.withoutHistory state

theorem GroupState.withoutHistory_of_withoutTrees {state state' : GroupState}
    (h : state'.withoutTrees = state.withoutTrees) : state'.withoutHistory = state.withoutHistory := by
  have hhistory := congrArg GroupState.withoutHistory h
  exact hhistory

namespace KeepsOffTrees

open EStateM

theorem internBlob (entry : Bytes) : KeepsOffTrees (internBarrierPublicTreeBlob entry) := by
  intro state
  apply KeepsAt.get_bind
  split
  · exact keepsAt_pure _ _
  · dsimp only
    split_ifs
    · exact keepsAt_throw _ _
    · exact .bind (keepsAt_set rfl) fun _ _ _ => keepsAt_pure _ _

theorem internBlobs (pk : List Bytes) : KeepsOffTrees (internBarrierPublicTreeBlobs pk) := by
  induction pk with
  | nil => exact fun state => keepsAt_pure _ _
  | cons entry rest ih =>
    intro state
    exact .bind (internBlob entry state) fun _ t _ =>
      .bind (ih t) fun _ _ _ => keepsAt_pure _ _

theorem encode (pk : PkEntries) : KeepsOffTrees (encodeBarrierPublicTreeSnapshotRef pk) :=
  fun state => .bind (internBlobs pk state) fun _ _ _ => keepsAt_pure _ _

theorem restoreRetained (oldBlobs : List Bytes)
    (retained : List (Bytes32 × BarrierPublicTreeSnapshotRef)) :
    KeepsOffTrees (CityG.restoreRetained oldBlobs retained) := by
  induction retained with
  | nil => exact fun state => keepsAt_pure _ _
  | cons e rest ih =>
    intro state
    apply KeepsAt.bind (keepsAt_ofExcept _ _)
    intro pk t _
    apply KeepsAt.bind (encode pk t)
    intro encoded t _
    exact .bind (keepsAt_modify rfl) fun _ t _ => ih t

theorem prune : KeepsOffTrees pruneBarrierPublicTreeHistory := by
  intro state
  apply KeepsAt.get_bind
  split_ifs
  · exact keepsAt_set rfl
  · exact .bind (keepsAt_set rfl) fun _ t _ => restoreRetained _ _ t

theorem recordWithMetadata (hash : Bytes32) (version : Nat) (commitment : HistoryCommitment)
    (pk : PkEntries) :
    KeepsOffTrees (recordBarrierPublicTreeSnapshotWithMetadata hash version commitment pk) := by
  intro state
  unfold recordBarrierPublicTreeSnapshotWithMetadata
  split_ifs
  · exact keepsAt_pure _ _
  · refine .bind (.get_bind ?_) fun _ _ _ => keepsAt_modify rfl
    split
    · exact keepsAt_pure _ _
    · exact encode pk _

variable (hL : HashL) (dec : WireDecoder)

theorem refreshTree (commitment : HistoryCommitment) :
    KeepsOffTrees (refreshCurrentTree hL commitment) := by
  intro state
  apply KeepsAt.get_bind
  split_ifs
  · exact keepsAt_pure _ _
  · apply KeepsAt.bind (keepsAt_ofExcept _ _)
    intro pk t _
    apply KeepsAt.bind (keepsAt_ofExcept _ _)
    intro hash t _
    exact recordWithMetadata _ _ _ _ t

theorem refreshPredecessor (commitment : HistoryCommitment) :
    KeepsOffTrees (refreshPredecessorTree dec commitment) := by
  intro state
  apply KeepsAt.get_bind
  dsimp only
  split
  · split_ifs
    · exact keepsAt_pure _ _
    · exact keepsAt_set rfl
  · exact keepsAt_pure _ _

theorem refreshCurrent (commitment : HistoryCommitment) :
    KeepsOffTrees (refreshCurrentBarrierSnapshotCommitments hL dec commitment) := fun state =>
  .bind (refreshTree hL commitment state) fun _ t _ => refreshPredecessor dec commitment t

end KeepsOffTrees

def GroupState.advanced (hL : HashL) (gid : Bytes) (state : GroupState) : GroupState :=
  match computeHistoryViewId hL gid state with
  | .error _ => state
  | .ok historyViewId =>
    if state.currentHistoryCommitment.historyViewId = historyViewId ∧
        state.currentHistoryCommitment.historyCommitmentId ≠ Bytes32.zero then state
    else state.withCommitment
      (nextHistoryCommitment hL gid state.currentHistoryCommitment historyViewId)

theorem ensureCurrentHistoryCommitment_advances (hL : HashL) (dec : WireDecoder) (gid : Bytes)
    (state : GroupState) :
    ((ensureCurrentHistoryCommitment hL dec gid).final state).withoutTrees =
      (state.advanced hL gid).withoutTrees := by
  have hrun : ensureCurrentHistoryCommitment hL dec gid state = _ :=
    EStateM.bind_of_ok (t := state) rfl
  unfold GroupState.advanced
  cases hview : computeHistoryViewId hL gid state with
  | error e =>
    rw [EStateM.final, hrun, EStateM.bind_of_error (by rw [hview]; rfl)]
  | ok historyViewId =>
    replace hrun := hrun.trans
      (EStateM.bind_of_ok (t := state) (a := historyViewId) (by rw [hview]; rfl))
    dsimp only at hrun ⊢
    split at hrun
    · next hcurrent =>
        rw [if_pos hcurrent, EStateM.final, hrun]
        exact EStateM.KeepsAt.bind (KeepsOffTrees.refreshCurrent hL dec _ state)
          fun _ _ _ => EStateM.keepsAt_pure _ _
    · next hstale =>
        replace hrun := hrun.trans (EStateM.bind_of_ok rfl)
        rw [if_neg hstale, EStateM.final, hrun]
        exact EStateM.KeepsAt.bind (KeepsOffTrees.refreshCurrent hL dec _ _)
          fun _ _ _ => EStateM.keepsAt_pure _ _

namespace KeepsCore

open EStateM

theorem of_offTrees {α : Type} {x : EStateM CityGError GroupState α} (h : KeepsOffTrees x) :
    KeepsCore x := fun state => GroupState.withoutHistory_of_withoutTrees (h state)

theorem encode (pk : PkEntries) : KeepsCore (encodeBarrierPublicTreeSnapshotRef pk) :=
  .of_offTrees (.encode pk)

theorem prune : KeepsCore pruneBarrierPublicTreeHistory := .of_offTrees .prune

theorem recordWithMetadata (hash : Bytes32) (version : Nat) (commitment : HistoryCommitment)
    (pk : PkEntries) :
    KeepsCore (recordBarrierPublicTreeSnapshotWithMetadata hash version commitment pk) :=
  .of_offTrees (.recordWithMetadata hash version commitment pk)

variable (hL : HashL) (dec : WireDecoder) (gid : Bytes)

theorem ensureCurrent : KeepsCore (ensureCurrentHistoryCommitment hL dec gid) := by
  intro state
  have hadvanced : (state.advanced hL gid).withoutHistory = state.withoutHistory := by
    unfold GroupState.advanced
    split
    · rfl
    · split_ifs <;> rfl
  exact (GroupState.withoutHistory_of_withoutTrees
    (ensureCurrentHistoryCommitment_advances hL dec gid state)).trans hadvanced

theorem record : KeepsCore (recordBarrierPublicTreeSnapshot hL dec gid) := by
  intro state
  apply KeepsAt.get_bind
  split_ifs
  · exact keepsAt_pure _ _
  · apply KeepsAt.bind (encode _ _)
    intro snapshot t _
    apply KeepsAt.bind (ensureCurrent hL dec gid t)
    intro commitment t _
    exact .bind (keepsAt_modify rfl) fun _ t _ => prune t

end KeepsCore

def joinRecordLE (a b : JoinLeafHistoryRecord) : Prop :=
  a.slotIndex < b.slotIndex ∨ a.slotIndex = b.slotIndex ∧
    (a.barrierVersion < b.barrierVersion ∨ a.barrierVersion = b.barrierVersion ∧
      a.leafId ≤ b.leafId)

instance : DecidableRel joinRecordLE := fun _ _ => inferInstanceAs (Decidable (_ ∨ _))

def latestJoinByLeaf (active : OrdSet Bytes32) (history : List JoinLeafHistoryRecord) :
    OrdMap Bytes32 JoinLeafHistoryRecord :=
  history.foldl (fun latest record =>
    if record.leafId ∉ active then latest
    else
      match latest.get? record.leafId with
      | some existing =>
        if existing.barrierVersion ≤ record.barrierVersion then latest.insert record.leafId record
        else latest
      | none => latest.insert record.leafId record) .empty

def pruneJoinHistory (state : GroupState) : Except CityGError GroupState :=
  if state.joinHistory = [] then pure state
  else do
    let nMax ← validateBarrierNMax state.nMax
    let active := (state.latestSnapshot.getD {}).members
    if active.isEmpty then pure { state with joinHistory := [] }
    else do
      let latest := latestJoinByLeaf active state.joinHistory
      Except.ensure (latest.size ≤ nMax) (.invalidInput "unresolved join history exceeds n_max")
      pure { state with joinHistory := latest.values.insertionSort joinRecordLE }

theorem pruneJoinHistory_ok {state state' : GroupState} (h : pruneJoinHistory state = .ok state') :
    ∃ history, state' = { state with joinHistory := history } := by
  unfold pruneJoinHistory at h
  split at h
  · cases h
    exact ⟨_, rfl⟩
  · simp only [Except.bind_eq_ok] at h
    obtain ⟨_, _, h⟩ := h
    split at h
    · cases h
      exact ⟨_, rfl⟩
    · simp only [Except.bind_eq_ok, Except.pure_eq_ok] at h
      obtain ⟨_, _, rfl⟩ := h
      exact ⟨_, rfl⟩

end CityG
