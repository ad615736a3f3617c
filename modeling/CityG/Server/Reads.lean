import CityG.Server.Epoch
import CityG.Server.Run

/-!
# Read-only requests

Lookups of an acceptance, of occupancies and of public trees. All of them ask
for the commitment of the current view, which appends a step to the chain when
the view has changed since the last one.
-/

namespace CityG

open Except (ensure ofOption)
open EStateM (check Keeps)

inductive MergeAcceptanceStatus where
  | accepted
  | superseded
  | finalRejected
  | pending
  deriving DecidableEq

structure MergeAcceptanceRecord where
  status : MergeAcceptanceStatus
  historyViewId : Bytes32
  historyCommitment : HistoryCommitment
  acceptedBarrierVersion : Option Nat := none
  acceptedFsEc : Option Nat := none
  acceptedReason : Option Nat := none
  acceptedDigest : Option Bytes32 := none
  deriving DecidableEq

structure BarrierPublicTreeSnapshot where
  nMax : Nat
  kemTreeHashAfter : Bytes32
  barrierVersion : Nat
  historyViewId : Bytes32
  historyCommitment : HistoryCommitment
  pkEntries : PkEntries
  deriving DecidableEq

section
variable (env : ServerEnv) (gid : Bytes)

def MergeAcceptanceRecord.found (status : MergeAcceptanceStatus) (commitment : HistoryCommitment)
    (record : AcceptedBarrierMergeRecord) : MergeAcceptanceRecord where
  status := status
  historyViewId := commitment.historyViewId
  historyCommitment := commitment
  acceptedBarrierVersion := some record.barrierVersion
  acceptedFsEc := some record.fsEc
  acceptedReason := some record.reason
  acceptedDigest := some record.digest

def lookupMergeAcceptance (pendingBarrierVersion : Nat)
    (pendingBarrierUpdateDigest pendingWeEpochId : Bytes32) :
    EStateM CityGError GroupState MergeAcceptanceRecord := do
  let commitment ← ensureCurrentHistoryCommitment env.hL env.wire gid
  check fun state => pure <|
    match state.acceptedBarrierMerges.get? pendingBarrierVersion with
    | some record =>
      if record.digest = pendingBarrierUpdateDigest ∧ record.weEpochId = pendingWeEpochId then
        .found .accepted commitment record
      else .found .superseded commitment record
    | none =>
      { status := if pendingBarrierVersion < state.barrierVersion then .finalRejected else .pending
        historyViewId := commitment.historyViewId
        historyCommitment := commitment }

def legacyCommitted (kemTreeHashAfter : Bytes32) (snapshot : BarrierPublicTreeSnapshotRef) :
    EStateM CityGError GroupState BarrierPublicTreeSnapshotRef :=
  if snapshot.historyCommitment.historyCommitmentId = .zero then do
    let commitment := synthesizeLegacyHistoryCommitment env.hL gid snapshot.historyViewId
    modify (·.putTree kemTreeHashAfter { snapshot with
      historyCommitment := commitment
      historyViewId := commitment.historyViewId })
    pure { snapshot with historyCommitment := commitment }
  else pure snapshot

/-- The entries of the tree, with the version and the commitment it is shown
under; the current tree and the one before it are shown under the current ones. -/
def findTree (kemTreeHashAfter : Bytes32) (current : PkEntries) (currentHash predecessor : Bytes32) :
    EStateM CityGError GroupState (PkEntries × Nat × HistoryCommitment) := do
  if currentHash = kemTreeHashAfter then do
    let commitment ← ensureCurrentHistoryCommitment env.hL env.wire gid
    let version ← check fun state => pure state.barrierVersion
    pure (current, version, commitment)
  else do
    let stored ← check fun state =>
      ofOption (.invalidInput "historical barrier public tree snapshot unavailable")
        (state.barrierPublicTreeHistory.get? kemTreeHashAfter)
    let snapshot ← legacyCommitted env gid kemTreeHashAfter stored
    if predecessor ≠ .zero ∧ predecessor = kemTreeHashAfter then do
      let commitment ← ensureCurrentHistoryCommitment env.hL env.wire gid
      let entries ← check fun state =>
        decodeBarrierPublicTreeSnapshotRef state.barrierPublicTreeBlobs snapshot
      let version ← check fun state => pure state.barrierVersion
      pure (entries, version, commitment)
    else do
      let entries ← check fun state =>
        decodeBarrierPublicTreeSnapshotRef state.barrierPublicTreeBlobs snapshot
      pure (entries, snapshot.barrierVersion, snapshot.historyCommitment)

def fetchBarrierPublicTree (kemTreeHashAfter : Bytes32) :
    EStateM CityGError GroupState BarrierPublicTreeSnapshot := do
  let nMax ← check fun state => validateBarrierNMax state.nMax
  pruneBarrierPublicTreeHistory
  let current ← check buildPkEntriesView
  let currentHash ← check fun _ => computeBarrierTreeHash env.hL nMax current
  let predecessor ← check fun state => pure (state.acceptedPredecessorHash env.wire)
  let found ← findTree env gid kemTreeHashAfter current currentHash predecessor
  let computedHash ← check fun _ => computeBarrierTreeHash env.hL nMax found.1
  check fun _ => ensure (computedHash = kemTreeHashAfter)
    (.freeze freezeBarrierTreeSnapshotAuthFailure)
  pure ⟨nMax, computedHash, found.2.1, found.2.2.historyViewId, found.2.2, found.1⟩

end

inductive ReadRequest where
  | lookupMergeAcceptance (gid : Bytes32) (pendingBarrierVersion : Nat)
      (pendingBarrierUpdateDigest pendingWeEpochId : Bytes32)
  | resolveRevokedOccupancies (gid revocationRootsHash : Bytes32)
  | resolveJoinOccupanciesSince (gid : Bytes32) (prevBarrierVersion : Nat)
  | fetchBarrierPublicTree (gid kemTreeHashAfter : Bytes32)
  | currentHistoryCommitment (gid : Bytes32)

namespace ReadRequest

def gid : ReadRequest → Bytes32
  | .lookupMergeAcceptance gid _ _ _ | .resolveRevokedOccupancies gid _
  | .resolveJoinOccupanciesSince gid _ | .fetchBarrierPublicTree gid _
  | .currentHistoryCommitment gid => gid

def edit (env : ServerEnv) : ReadRequest → EStateM CityGError GroupState Unit
  | .lookupMergeAcceptance gid version digest weid =>
    discard (CityG.lookupMergeAcceptance env gid.val version digest weid)
  | .resolveRevokedOccupancies gid rootsHash =>
    discard (CityG.resolveRevokedOccupancies env gid.val rootsHash)
  | .resolveJoinOccupanciesSince gid version =>
    discard (CityG.resolveJoinOccupanciesSince env gid.val version)
  | .fetchBarrierPublicTree gid hash => discard (CityG.fetchBarrierPublicTree env gid.val hash)
  | .currentHistoryCommitment gid =>
    discard (ensureCurrentHistoryCommitment env.hL env.wire gid.val)

end ReadRequest

def CityGServer.answer (env : ServerEnv) (read : ReadRequest) : CityGServer → CityGServer :=
  (CityGServer.onKnownGroup read.gid (read.edit env)).final

namespace GroupState

/-- The parts of a group that its commitments and the acceptance of its epochs
depend on; of the tree only whether there is one. -/
def historyCore (state : GroupState) : GroupState where
  latestRoot := state.latestRoot
  snapshots := state.snapshots
  rotationRequired := state.rotationRequired
  barrierInitialized := state.barrierInitialized
  barrierVersion := state.barrierVersion
  barrierRootsHash := state.barrierRootsHash
  kemTreeHashAfter := state.kemTreeHashAfter
  lastCheckpointEc := state.lastCheckpointEc
  lastAcceptedEc := state.lastAcceptedEc
  srxRootSw := state.srxRootSw
  nMax := state.nMax
  lastPcsRefreshEc := state.lastPcsRefreshEc
  pcsRefreshMinDeltaDeviceEc := state.pcsRefreshMinDeltaDeviceEc
  pcsRefreshMinDeltaGroupEc := state.pcsRefreshMinDeltaGroupEc
  pcsRefreshSlotWidthEc := state.pcsRefreshSlotWidthEc
  maxBarrierUpdateBytes := state.maxBarrierUpdateBytes
  barrierPkEntries := if state.barrierPkEntries = [] then [] else [[]]
  currentHistoryCommitment := state.currentHistoryCommitment

def Current (hL : HashL) (gid : Bytes) (state : GroupState) : Prop :=
  match computeHistoryViewId hL gid state with
  | .error _ => True
  | .ok historyViewId => state.currentHistoryCommitment.historyViewId = historyViewId ∧
      state.currentHistoryCommitment.historyCommitmentId ≠ Bytes32.zero

instance (hL : HashL) (gid : Bytes) (state : GroupState) : Decidable (Current hL gid state) := by
  unfold Current
  split <;> infer_instance

theorem advanced_of_current {hL : HashL} {gid : Bytes} {state : GroupState}
    (h : Current hL gid state) : state.advanced hL gid = state := by
  unfold Current at h
  unfold advanced
  split
  · rfl
  · next historyViewId hview =>
      rw [hview] at h
      exact if_pos h

theorem historyCore_advanced (hL : HashL) (gid : Bytes) (state : GroupState) :
    (state.advanced hL gid).historyCore = state.historyCore.advanced hL gid := by
  have hview : computeHistoryViewId hL gid state.historyCore = computeHistoryViewId hL gid state := rfl
  unfold advanced
  rw [hview]
  split
  · rfl
  · next historyViewId _ =>
      by_cases hcurrent : state.currentHistoryCommitment.historyViewId = historyViewId ∧
          state.currentHistoryCommitment.historyCommitmentId ≠ Bytes32.zero
      · exact (congrArg historyCore (if_pos hcurrent)).trans (if_pos hcurrent).symm
      · exact (congrArg historyCore (if_neg hcurrent)).trans (if_neg hcurrent).symm

theorem current_historyCore {hL : HashL} {gid : Bytes} {state : GroupState} :
    Current hL gid state.historyCore ↔ Current hL gid state := Iff.rfl

theorem historyCore_of_withoutTrees {state state' : GroupState}
    (h : state'.withoutTrees = state.withoutTrees) : state'.historyCore = state.historyCore := by
  have hcore := congrArg historyCore h
  exact hcore

theorem ensureCurrent_historyCore (hL : HashL) (dec : WireDecoder) (gid : Bytes)
    (state : GroupState) :
    ((ensureCurrentHistoryCommitment hL dec gid).final state).historyCore =
      state.historyCore.advanced hL gid := by
  rw [← historyCore_advanced]
  exact historyCore_of_withoutTrees (ensureCurrentHistoryCommitment_advances hL dec gid state)

end GroupState

namespace GroupState

def LooksOnce (hL : HashL) (gid : Bytes) {α : Type} (x : EStateM CityGError GroupState α) : Prop :=
  ∀ s, (x.final s).historyCore = s.historyCore ∨
    (x.final s).historyCore = s.historyCore.advanced hL gid

namespace LooksOnce
variable {hL : HashL} {gid : Bytes} {α β : Type} {x : EStateM CityGError GroupState α}
  {f : α → EStateM CityGError GroupState β}

theorem of_keeps (h : Keeps historyCore x) : LooksOnce hL gid x := fun s => .inl (h s)

theorem ensureCurrent (dec : WireDecoder) :
    LooksOnce hL gid (ensureCurrentHistoryCommitment hL dec gid) :=
  fun s => .inr (ensureCurrent_historyCore hL dec gid s)

theorem keeps_bind (hx : Keeps historyCore x) (hf : ∀ a, LooksOnce hL gid (f a)) :
    LooksOnce hL gid (x >>= f) := by
  intro s
  have hfirst := hx s
  unfold EStateM.KeepsAt EStateM.final at hfirst
  cases hrun : x s with
  | ok a t =>
    rw [hrun] at hfirst
    rw [EStateM.final, EStateM.bind_of_ok hrun, ← hfirst]
    exact hf a t
  | error e t =>
    rw [hrun] at hfirst
    rw [EStateM.final, EStateM.bind_of_error hrun]
    exact .inl hfirst

theorem bind_keeps (hx : LooksOnce hL gid x) (hf : ∀ a, Keeps historyCore (f a)) :
    LooksOnce hL gid (x >>= f) := by
  intro s
  have hfirst := hx s
  unfold EStateM.final at hfirst
  cases hrun : x s with
  | ok a t =>
    rw [hrun] at hfirst
    rw [EStateM.final, EStateM.bind_of_ok hrun]
    have hrest : ((f a).final t).historyCore = t.historyCore := hf a t
    unfold EStateM.final at hrest
    rw [hrest]
    exact hfirst
  | error e t =>
    rw [hrun] at hfirst
    rw [EStateM.final, EStateM.bind_of_error hrun]
    exact hfirst

end LooksOnce

theorem keepsHistoryCore_of_offTrees {α : Type} {x : EStateM CityGError GroupState α}
    (h : KeepsOffTrees x) : Keeps historyCore x := fun s => historyCore_of_withoutTrees (h s)

end GroupState

section Looks
open GroupState (LooksOnce keepsHistoryCore_of_offTrees)
variable {env : ServerEnv} {gid : Bytes}

theorem legacyCommitted_historyCore (hash : Bytes32) (snapshot : BarrierPublicTreeSnapshotRef) :
    Keeps GroupState.historyCore (legacyCommitted env gid hash snapshot) := by
  unfold legacyCommitted
  split
  · exact .bind (.modify fun _ => rfl) fun _ => .pure _
  · exact .pure _

theorem findTree_looks (hash currentHash predecessor : Bytes32) (current : PkEntries) :
    LooksOnce env.hL gid (findTree env gid hash current currentHash predecessor) := by
  unfold findTree
  split
  · exact .bind_keeps (.ensureCurrent _) fun _ => .bind (.check _) fun _ => .pure _
  · refine .keeps_bind (.check _) fun _ => .keeps_bind (legacyCommitted_historyCore _ _) fun _ => ?_
    split
    · refine .bind_keeps (.ensureCurrent _) fun _ => ?_
      exact .bind (.check _) fun _ => .bind (.check _) fun _ => .pure _
    · exact .of_keeps (.bind (.check _) fun _ => .pure _)

theorem fetchBarrierPublicTree_looks (hash : Bytes32) :
    LooksOnce env.hL gid (fetchBarrierPublicTree env gid hash) := by
  refine .keeps_bind (.check _) fun _ => .keeps_bind (keepsHistoryCore_of_offTrees .prune) fun _ => ?_
  refine .keeps_bind (.check _) fun _ => .keeps_bind (.check _) fun _ => ?_
  refine .keeps_bind (.check _) fun _ => .bind_keeps (findTree_looks _ _ _ _) fun _ => ?_
  exact .bind (.check _) fun _ => .bind (.check _) fun _ => .pure _

theorem resolveRevokedOccupancies_looks (rootsHash : Bytes32) :
    LooksOnce env.hL gid (resolveRevokedOccupancies env gid rootsHash) := by
  refine .keeps_bind (.check _) fun _ => ?_
  exact .bind_keeps (.ensureCurrent _) fun _ => .bind (.check _) fun _ => .check _

theorem resolveJoinOccupanciesSince_looks (version : Nat) :
    LooksOnce env.hL gid (resolveJoinOccupanciesSince env gid version) := by
  refine .keeps_bind (.check _) fun _ => .keeps_bind ?_ fun _ => ?_
  · exact GroupState.KeepsOffLeaves.pruneJoinHistory.comp GroupState.historyCore
  · exact .bind_keeps (.ensureCurrent _) fun _ => .bind (.check _) fun _ => .pure _

theorem ReadRequest.edit_looks (read : ReadRequest) :
    LooksOnce env.hL read.gid.val (read.edit env) := by
  have hdiscard : ∀ {α : Type} {x : EStateM CityGError GroupState α},
      LooksOnce env.hL read.gid.val x → LooksOnce env.hL read.gid.val (discard x) :=
    fun h => .bind_keeps h fun _ => .pure _
  cases read with
  | lookupMergeAcceptance gid version digest weid =>
    exact hdiscard (.bind_keeps (.ensureCurrent _) fun _ => .check _)
  | currentHistoryCommitment gid => exact hdiscard (.ensureCurrent _)
  | resolveRevokedOccupancies gid rootsHash => exact hdiscard (resolveRevokedOccupancies_looks _)
  | resolveJoinOccupanciesSince gid version => exact hdiscard (resolveJoinOccupanciesSince_looks _)
  | fetchBarrierPublicTree gid hash => exact hdiscard (fetchBarrierPublicTree_looks hash)

end Looks

end CityG
