import CityG.Accept.SrxChain

/-!
# What a rejected anchor leaves behind

Both pipelines write before their last check. A rejected join is remembered by
the replay guard; a rejected merge may fix the policy version and the base
timestamp, drop expired parities, give its group a shadow root, or retire its
heads for a window that has no room.
-/

namespace CityG

open Except (ensure)
open EStateM (check Keeps)

@[ext] structure Trace where
  heads : Bytes → List HeadRecord
  deviceChains : OrdMap Bytes (OrdMap Bytes DeviceChainState)
  rhoGuard : RhoReplayGuard
  pivotStore : PivotParityStore
  fsPolicyVersion : Option String
  fsBaseTs : Option Nat
  groups : Bytes → Option BarrierGroupState

def AcceptanceContext.trace (ctx : AcceptanceContext) : Trace where
  heads := ctx.mhWindow.headsAt
  deviceChains := ctx.deviceChains
  rhoGuard := ctx.rhoGuard
  pivotStore := ctx.pivotStore
  fsPolicyVersion := ctx.fsPolicyVersion
  fsBaseTs := ctx.fsBaseTs
  groups := ctx.barrierGroupState

namespace MultiHeadWindow

section
variable {w : MultiHeadWindow} {wid wid' : Bytes} {now : Nat}

theorem headsAt_prune_pruneAll (w : MultiHeadWindow) (now : Nat) (wid : Bytes) :
    ((w.pruneAll now).prune wid now).headsAt = (w.pruneAll now).headsAt := by
  funext wid'
  rw [prune, headsAt_insert]
  split
  · next heq =>
      rw [heq, headsAt_pruneAll, List.filter_filter]
      congr 1
      funext record
      exact Bool.and_self _
  · rfl

variable {w' : MultiHeadWindow} {heads : List Bytes32}

theorem findHead_congr (h : w'.headsAt = w.headsAt) (wid : Bytes) (weid : Bytes32) :
    w'.findHead wid weid = w.findHead wid weid := by
  rw [findHead, findHead, h]

theorem findHead_retire {head other : Bytes32} (hne : other ≠ head) :
    (w.retire wid head).findHead wid other = w.findHead wid other := by
  have hheads : (w.retire wid head).headsAt wid =
      (w.headsAt wid).eraseP fun record => record.weEpochId = head := by
    rw [retire, headsAt_insert, if_pos rfl]
  rw [findHead, findHead, hheads]
  induction w.headsAt wid with
  | nil => rfl
  | cons record rest ih =>
    by_cases hrecord : record.weEpochId = head
    · simp [hrecord, hne.symm]
    · simp only [List.eraseP_cons, hrecord, decide_false, cond_false, List.find?_cons, ih]

theorem length_retire {head : Bytes32} (hfound : (w.findHead wid head).isSome = true) :
    ((w.retire wid head).headsAt wid).length + 1 = (w.headsAt wid).length := by
  rw [retire, headsAt_insert, if_pos rfl]
  obtain ⟨record, hmem, hrecord⟩ := List.find?_isSome.mp hfound
  exact List.length_eraseP_add_one hmem hrecord

theorem retireHeads_ok (hnodup : heads.Nodup)
    (hfound : ∀ head ∈ heads, (w.findHead wid head).isSome = true) :
    ∃ w', retireHeads wid heads w = .ok () w' ∧
      (w'.headsAt wid).length + heads.length = (w.headsAt wid).length := by
  induction heads generalizing w with
  | nil => exact ⟨w, rfl, rfl⟩
  | cons head rest ih =>
    obtain ⟨hnotin, hrest⟩ := List.nodup_cons.mp hnodup
    have hhead := hfound head List.mem_cons_self
    have hothers : ∀ other ∈ rest, ((w.retire wid head).findHead wid other).isSome = true := by
      intro other hother
      have hne : other ≠ head := fun heq => hnotin (heq ▸ hother)
      rw [findHead_retire hne]
      exact hfound other (List.mem_cons_of_mem head hother)
    obtain ⟨w', hrun, hlength⟩ := ih hrest hothers
    have hone := length_retire hhead
    refine ⟨w', ?_, by rw [List.length_cons]; omega⟩
    change (if (w.findHead wid head).isSome = true then _ else _) = _
    rw [if_pos hhead]
    exact hrun

theorem pushPruned_error {record : HeadRecord} {e : FreezeError}
    (h : pushPruned wid record w = .error e w') : w' = w := by
  unfold pushPruned at h
  split at h
  · cases h
    rfl
  · cases h

theorem isSortedUnique_iff :
    isSortedUnique heads = true ↔ heads ≠ [] ∧ heads.IsChain (· < ·) := by
  simp [isSortedUnique]

theorem acceptMerge_error {widOld widNew : Bytes} {record : HeadRecord} {e : FreezeError}
    (hsorted : isSortedUnique heads = true) (hpruned : (w.prune widOld now).headsAt = w.headsAt)
    (hfound : ∀ head ∈ heads, (w.findHead widOld head).isSome = true)
    (h : acceptMerge widOld widNew heads record now w = .error e w') : w'.headsAt ≠ w.headsAt := by
  obtain ⟨hne, hchain⟩ := isSortedUnique_iff.mp hsorted
  have hnodup : heads.Nodup := hchain.pairwise.imp fun hlt => ne_of_lt hlt
  obtain ⟨retired, hrun, hlength⟩ := retireHeads_ok hnodup (w := w.prune widOld now)
    fun head hhead => by rw [findHead_congr hpruned]; exact hfound head hhead
  have hshorter : (retired.headsAt widOld).length < (w.headsAt widOld).length := by
    have hpos := List.length_pos_iff.mpr hne
    rw [hpruned] at hlength
    omega
  suffices hsame : w'.headsAt widOld = retired.headsAt widOld by
    intro heq
    rw [← hsame, heq] at hshorter
    exact lt_irrefl _ hshorter
  rw [acceptMerge, if_pos hsorted] at h
  change (retireHeads widOld heads >>= _) (w.prune widOld now) = _ at h
  rw [EStateM.bind_of_ok hrun] at h
  split at h
  · rw [pushPruned_error h]
  · next hwid =>
      change pushPruned _ _ ((retired.removeIfEmpty widOld).prune widNew now) = _ at h
      rw [pushPruned_error h, prune, headsAt_insert, if_neg hwid, headsAt_removeIfEmpty]

end

end MultiHeadWindow

namespace RhoReplayGuard

def Settled (guard : RhoReplayGuard) (gid parentRoot : Bytes) (rhoCommit : Bytes32) (now : Nat) :
    Prop :=
  guard.entries.get? (makeKey gid parentRoot) = some (guard.live (makeKey gid parentRoot) now) ∧
    ((∃ entry ∈ guard.live (makeKey gid parentRoot) now, entry.1 = rhoCommit) ∨
      guard.limit ≤ (guard.live (makeKey gid parentRoot) now).length)

instance (guard : RhoReplayGuard) (gid parentRoot : Bytes) (rhoCommit : Bytes32) (now : Nat) :
    Decidable (guard.Settled gid parentRoot rhoCommit now) :=
  inferInstanceAs (Decidable (_ ∧ _))

variable {guard : RhoReplayGuard}

theorem setEntries_eq_self {entries : OrdMap Bytes (List (Bytes32 × Nat))} :
    { guard with entries := entries } = guard ↔ entries = guard.entries := by
  constructor
  · intro h
    rw [← h]
  · rintro rfl
    rfl

theorem record_eq_self {gid parentRoot : Bytes} {rhoCommit : Bytes32} {now : Nat} :
    (guard.record gid parentRoot rhoCommit now).2 = guard ↔
      guard.Settled gid parentRoot rhoCommit now := by
  dsimp only [record, Settled]
  split
  · next hrefused =>
      rw [setEntries_eq_self, OrdMap.insert_eq_self]
      exact ⟨fun h => ⟨h, hrefused⟩, fun h => h.1⟩
  · next hnew =>
      rw [setEntries_eq_self, OrdMap.insert_eq_self]
      refine ⟨fun h => absurd ?_ hnew, fun h => absurd h.2 hnew⟩
      have hlive : (rhoCommit, now) ∈ guard.live (makeKey gid parentRoot) now := by
        rw [live, h]
        simp
      exact .inl ⟨_, hlive, rfl⟩

theorem Settled.refused {gid parentRoot : Bytes} {rhoCommit : Bytes32} {now : Nat}
    (h : guard.Settled gid parentRoot rhoCommit now) :
    (guard.record gid parentRoot rhoCommit now).1 = false := by
  dsimp only [record]
  rw [if_pos h.2]

end RhoReplayGuard

namespace PivotParityStore

def Fresh (store : PivotParityStore) (now : Nat) : Prop :=
  ∀ key list, store.entries.get? key = some list →
    list ≠ [] ∧ ∀ entry ∈ list, now - entry.acceptTime ≤ store.ttl

theorem prune_eq_self {store : PivotParityStore} {now : Nat} :
    store.prune now = store ↔ store.Fresh now := by
  have hlist : ∀ list : List PivotParityEntry,
      (if (list.filter fun entry => decide (now - entry.acceptTime ≤ store.ttl)).isEmpty then none
        else some (list.filter fun entry => decide (now - entry.acceptTime ≤ store.ttl))) =
          some list ↔ list ≠ [] ∧ ∀ entry ∈ list, now - entry.acceptTime ≤ store.ttl := by
    intro list
    split
    · next hempty =>
        refine iff_of_false nofun fun ⟨hne, hfresh⟩ => hne ?_
        rw [← List.filter_eq_self.mpr fun entry hentry => decide_eq_true (hfresh entry hentry)]
        exact List.isEmpty_iff.mp hempty
    · next hkept =>
        rw [Option.some.injEq, List.filter_eq_self]
        simp only [decide_eq_true_eq]
        refine ⟨fun hfresh => ⟨?_, hfresh⟩, fun h => h.2⟩
        rintro rfl
        exact hkept rfl
  constructor
  · intro h key list hget
    have hentry := congrArg (fun s : PivotParityStore => s.entries.get? key) h
    simp only [prune, OrdMap.get?_filterMap, hget, Option.bind_some] at hentry
    exact (hlist list).mp hentry
  · intro h
    have hentries : (store.prune now).entries = store.entries := by
      ext1 key
      rw [prune, OrdMap.get?_filterMap]
      cases hget : store.entries.get? key with
      | none => rfl
      | some list => exact (hlist list).mpr (h key list hget)
    calc store.prune now = { store with entries := (store.prune now).entries } := rfl
      _ = store := by rw [hentries]

end PivotParityStore

section Join
variable (codec : AnchorCodec) (verifiers : AnchorProofs) (input : AnchorInput)

def joinToGuard : AcceptM Bytes32 := do
  modify (·.startAnchor)
  let _ ← check (anchorGate codec input)
  let _ ← check (joinPrelude codec input.parts input.header)
  check fun _ => headerBytes32OrFreeze input.header HDR_RHO_COMMIT freezeRhoParity

theorem joinFs_rhoGuard (popPk : Bytes) (digest : Bytes32) :
    Keeps (·.rhoGuard) (joinFs codec input.parts input.header popPk digest) := by
  refine .bind (.check _) fun _ => ?_
  refine .bind (.bind (.check _) fun _ => .bind (.check _) fun _ => .modify fun _ => rfl) fun _ => ?_
  refine .bind (.check _) fun _ => .bind (.check _) fun _ => ?_
  refine .bind (.bind (.check _) fun _ => .bind (.check _) fun _ =>
    .bind (.modify fun _ => rfl) fun _ => .check _) fun _ => ?_
  refine .bind (.check _) fun _ => .bind (.check _) fun _ => .bind (.check _) fun _ => ?_
  exact .bind (.check _) fun _ => .pure _

theorem joinCommit_rhoGuard (mhNote : Option String) (now : Nat) (c : JoinChecked) :
    Keeps (·.rhoGuard) (joinCommit codec input.parts input.header mhNote now c) := by
  refine EStateM.keeps_iff_preserves.mpr fun guard => ?_
  apply CommitStable.joinCommit
  exact ⟨fun _ _ h => h, fun _ _ h => h, fun _ _ _ _ h => h, fun _ _ _ h => h⟩

theorem applyBarrierAcceptanceCommit_rhoGuard (ctx : AcceptanceContext) (gid : Bytes)
    (header : HeaderMap) (gate : Accept.BarrierGateDecision) :
    (ctx.applyBarrierAcceptanceCommit gid header gate).rhoGuard = ctx.rhoGuard := by
  unfold AcceptanceContext.applyBarrierAcceptanceCommit AcceptanceContext.commitRefresh
  repeat' split
  all_goals rfl

variable {codec verifiers input} {ctx after : AcceptanceContext} {e : AcceptanceError}

theorem joinToGuard_eq_ok {rhoCommit : Bytes32} :
    joinToGuard codec input ctx = .ok rhoCommit after ↔
      (∃ gate, anchorGate codec input ctx.startAnchor = .ok gate) ∧
        (∃ roots, joinPrelude codec input.parts input.header ctx.startAnchor = .ok roots) ∧
        headerBytes32OrFreeze input.header HDR_RHO_COMMIT freezeRhoParity = .ok rhoCommit ∧
        ctx.startAnchor = after := by
  simp only [joinToGuard, EStateM.modify_bind_eq_ok, EStateM.check_bind_eq_ok, EStateM.check_eq_ok]
  constructor
  · rintro ⟨gate, hgate, roots, hroots, h⟩
    exact ⟨⟨gate, hgate⟩, ⟨roots, hroots⟩, h⟩
  · rintro ⟨⟨gate, hgate⟩, ⟨roots, hroots⟩, h⟩
    exact ⟨gate, hgate, roots, hroots, h⟩

def JoinTraceFree (codec : AnchorCodec) (input : AnchorInput) (ctx : AcceptanceContext) : Prop :=
  ∀ rhoCommit after, joinToGuard codec input ctx = .ok rhoCommit after →
    ctx.rhoGuard.Settled input.parts.gid input.parts.parentRoot rhoCommit ctx.clock.tick.last

theorem acceptAnchor_join_trace (hjoin : isMergeAnchor input.header = false)
    (h : acceptAnchor codec verifiers input ctx = .error e after) :
    after.trace = ctx.startAnchor.trace ↔ JoinTraceFree codec input ctx := by
  simp only [acceptAnchor, acceptAnchorPipeline, hjoin, Bool.false_eq_true, if_false,
    acceptAnchorJoin, joinChecks, recordRho, bind_assoc, pure_bind] at h
  rw [EStateM.modify_bind_eq_error, EStateM.check_bind_eq_error] at h
  obtain ⟨hnow, -⟩ | ⟨now, hnow, h⟩ := h
  · cases hnow
  obtain rfl : ctx.clock.tick.last = now := Except.pure_eq_ok.mp hnow
  rw [EStateM.check_bind_eq_error] at h
  obtain ⟨hgate, rfl⟩ | ⟨gate, hgate, h⟩ := h
  · refine iff_of_true rfl fun rhoCommit t hrun => ?_
    obtain ⟨⟨_, hpassed⟩, -⟩ := joinToGuard_eq_ok.mp hrun
    simp [hgate] at hpassed
  rw [EStateM.check_bind_eq_error] at h
  obtain ⟨hprelude, rfl⟩ | ⟨roots, hprelude, h⟩ := h
  · refine iff_of_true rfl fun rhoCommit t hrun => ?_
    obtain ⟨-, ⟨_, hpassed⟩, -⟩ := joinToGuard_eq_ok.mp hrun
    simp [hprelude] at hpassed
  rw [EStateM.check_bind_eq_error] at h
  obtain ⟨hrho, rfl⟩ | ⟨rho, hrho, h⟩ := h
  · refine iff_of_true rfl fun rhoCommit t hrun => ?_
    obtain ⟨-, -, hpassed, -⟩ := joinToGuard_eq_ok.mp hrun
    simp [hrho] at hpassed
  have hfree : JoinTraceFree codec input ctx ↔ ctx.rhoGuard.Settled input.parts.gid
      input.parts.parentRoot rho ctx.clock.tick.last := by
    constructor
    · intro hfree
      exact hfree rho _ (joinToGuard_eq_ok.mpr ⟨⟨gate, hgate⟩, ⟨roots, hprelude⟩, hrho, rfl⟩)
    · intro hsettled rhoCommit t hrun
      obtain ⟨-, -, hread, -⟩ := joinToGuard_eq_ok.mp hrun
      cases hrho.symm.trans hread
      exact hsettled
  rw [hfree, ← RhoReplayGuard.record_eq_self]
  rw [EStateM.modifyGet_bind_eq_error, EStateM.check_bind_eq_error] at h
  obtain ⟨-, rfl⟩ | ⟨_, hrecorded, h⟩ := h
  · -- the guard refused, and what had expired is gone
    exact ⟨congrArg Trace.rhoGuard, congrArg fun guard => (ctx.startAnchor.setRhoGuard guard).trace⟩
  · -- the guard has taken the commitment up, and nothing takes it back
    have hrest : after.rhoGuard = (ctx.rhoGuard.record input.parts.gid input.parts.parentRoot rho
        ctx.clock.tick.last).2 := by
      refine EStateM.KeepsAt.of_error (?_ : EStateM.KeepsAt (·.rhoGuard) _ _) h
      refine Keeps.bind (.check _) (fun _ => ?_) _
      refine .bind (joinFs_rhoGuard codec input _ _) fun _ => .bind (.check _) fun _ => ?_
      refine .bind (.modifyGet fun _ => rfl) fun _ => ?_
      refine .bind (.check _) fun _ => .bind (.check _) fun _ => .bind (.check _) fun _ => ?_
      refine .bind (.check _) fun _ => .bind (.check _) fun _ => ?_
      refine .bind (.modifyGet fun _ => rfl) fun _ => .bind (.check _) fun _ => ?_
      refine .bind (.check _) fun _ => .bind (joinCommit_rhoGuard codec input _ _ _) fun _ => ?_
      exact .bind (.modify fun _ => applyBarrierAcceptanceCommit_rhoGuard _ _ _ _) fun _ => .pure _
    constructor
    · intro htrace
      exact hrest.symm.trans (congrArg Trace.rhoGuard htrace)
    · intro heq
      have hrefused := (RhoReplayGuard.record_eq_self.mp heq).refused
      have htaken := Except.ensure_eq_ok.mp hrecorded
      exact absurd (htaken.symm.trans hrefused) (by decide)

end Join

/-! ### How far a merge comes

Each of these programs ends right before a write that a rejection leaves. -/

structure PolicyReached where
  gate : Accept.BarrierGateDecision
  mhNote : Option String
  now : Nat
  heads : List Bytes32
  version : Nat

structure BaseReached extends PolicyReached where
  baseTs : Nat

structure PivotsReached extends BaseReached where
  fs : MergeFs
  roots : AnchorRoots
  seed : MergeSeed
  pivot : MergePivot
  ids : AnchorIds
  acceptSeq : Nat
  artifacts : ProofArtifacts

section Reach
variable (codec : AnchorCodec) (verifiers : AnchorProofs) (input : AnchorInput)

def mergeToPolicy : AcceptM PolicyReached := do
  modify (·.startAnchor)
  let now ← check fun ctx => pure ctx.clock.last
  let gate ← check (anchorGate codec input)
  let heads ← check fun _ => parseMhHeads input.header
  check (mergePrelude codec input.parts input.header)
  let version ← check fun _ =>
    headerU64OrFreeze input.header HDR_FS_POLICY_VERSION freezeFsJoinMissing
  check fun ctx => ensure ((∀ expected ∈ ctx.allowedFsPolicyVersion, expected = toString version) ∧
      ∀ existing ∈ ctx.fsPolicyVersion, existing = toString version)
    (.freeze freezeFsPolicyVersionUnsupported)
  pure ⟨gate.1, gate.2, now, heads, version⟩

def mergeToBase : AcceptM BaseReached := do
  let r ← mergeToPolicy codec input
  modify (·.setFsPolicyVersion (toString r.version))
  let baseTs ← check fun _ =>
    headerU64OrFreeze input.header HDR_FS_EPOCH_BASE_TS freezeFsJoinMissing
  check fun ctx => ensure (∀ stored ∈ ctx.fsBaseTs, stored = baseTs) (.freeze freezeFsBaseMismatch)
  pure ⟨r, baseTs⟩

def mergeToPivots : AcceptM PivotsReached := do
  let r ← mergeToBase codec input
  modify (·.setFsBaseTs r.baseTs)
  check fun ctx => ensure (ctx.fsCaps.windowPeriods ≠ 0) (.freeze freezeFsPolicyWindowIncompatible)
  let fs ← check fun _ => readMergeFs codec input.header
  check (verifyMergeDevice codec input.parts fs)
  check fun _ => ensurePurge input.header
  let roots ← check fun _ => ensureRoots input.parts input.header
  let seed ← check fun _ => mergeSeed codec input.header
  let pivot ← check fun ctx => findPivot input.header r.heads ctx.mhWindow
  check fun _ => checkPivotSeed codec input.parts roots.parentRoot seed pivot
  let ids ← check fun _ => deriveAnchorIds codec input.parts input.weEpochIdClaim roots.parentRoot
    seed.seedCtx none
  let acceptSeq ← takeAcceptSeq
  let artifacts ← check (mergeArtifacts codec input.header)
  pure ⟨r, fs, roots, seed, pivot, ids, acceptSeq, artifacts⟩

def mergeFromPivots (r : PivotsReached) : AcceptM StagedMerge := do
  let parities ← takeParities input.parts r.roots.parentRoot r.now
  let pivotParity ← check fun _ => parityOf parities r.pivot.pivotWeid
  let envelope ← check fun _ => mergeEnvelope codec input.header pivotParity
  check fun _ => verifyJoinPayloadHpEnvelope input.header (some envelope)
    BARRIER_HP_CONTEXT_BARRIER_RECOVERY
  check fun _ => checkPivotProofs r.artifacts pivotParity
  check (checkCheckpoint input.parts r.heads parities r.fs.fsCheckpointEc)
  pure ⟨r.gate, r.mhNote, r.now, r.heads, r.fs,
    ⟨r.roots, r.seed, r.pivot, r.ids, r.acceptSeq, r.artifacts, parities, pivotParity⟩⟩

theorem mergeStage_eq :
    mergeStage codec input = mergeToPivots codec input >>= mergeFromPivots codec input := by
  simp only [mergeStage, mergeFs, mergeChecks, ensureFsPolicyVersion, ensureFsBaseTs, mergeToPivots,
    mergeToBase, mergeToPolicy, mergeFromPivots, bind_assoc, pure_bind]

def mergeToShadow : AcceptM StagedMerge := do
  let st ← mergeStage codec input
  check fun _ => ensureMergeSrxKeys input.header (st.required input.header)
  pure st

def mergeToWindow : AcceptM StagedMerge := do
  let st ← mergeStage codec input
  let _ ← stagedSrx codec verifiers input st
  check fun _ => checkRollup codec input.header st.heads st.checked.parities
  check fun ctx => ensure (st.heads.length ≤ ctx.mhWindow.hMax) (.freeze windowFull)
  pure st

end Reach

section Reached
variable {codec : AnchorCodec} {verifiers : AnchorProofs} {input : AnchorInput}
  {ctx after : AcceptanceContext} {e : AcceptanceError}

theorem mergeToPolicy_ok {r : PolicyReached} (h : mergeToPolicy codec input ctx = .ok r after) :
    after = ctx.startAnchor ∧ r.now = ctx.clock.tick.last ∧
      ∀ existing ∈ ctx.fsPolicyVersion, existing = toString r.version := by
  simp only [mergeToPolicy, EStateM.modify_bind_eq_ok, EStateM.check_bind_eq_ok, EStateM.pure_eq_ok,
    Except.ensure_eq_ok, Except.pure_eq_ok] at h
  obtain ⟨_, rfl, _, -, _, -, _, -, version, -, _, ⟨-, hversion⟩, rfl, rfl⟩ := h
  exact ⟨rfl, rfl, hversion⟩

theorem mergeToPolicy_error (h : mergeToPolicy codec input ctx = .error e after) :
    after = ctx.startAnchor := by
  rw [mergeToPolicy, EStateM.modify_bind_eq_error] at h
  refine EStateM.KeepsAt.of_error (?_ : EStateM.KeepsAt id _ _) h
  refine Keeps.bind (.check _) (fun _ => ?_) _
  refine .bind (.check _) fun _ => .bind (.check _) fun _ => .bind (.check _) fun _ => ?_
  exact .bind (.check _) fun _ => .bind (.check _) fun _ => .pure _

theorem mergeToBase_ok {r : BaseReached} (h : mergeToBase codec input ctx = .ok r after) :
    mergeToPolicy codec input ctx = .ok r.toPolicyReached ctx.startAnchor ∧
      after = ctx.startAnchor.setFsPolicyVersion (toString r.version) ∧
      ∀ stored ∈ ctx.fsBaseTs, stored = r.baseTs := by
  rw [mergeToBase, EStateM.bind_eq_ok] at h
  obtain ⟨p, t, hpolicy, h⟩ := h
  obtain rfl := (mergeToPolicy_ok hpolicy).1
  simp only [EStateM.modify_bind_eq_ok, EStateM.check_bind_eq_ok, EStateM.pure_eq_ok,
    Except.ensure_eq_ok] at h
  obtain ⟨baseTs, -, _, hstored, rfl, rfl⟩ := h
  exact ⟨hpolicy, rfl, hstored⟩

theorem mergeToBase_error (h : mergeToBase codec input ctx = .error e after) :
    mergeToPolicy codec input ctx = .error e after ∨
      ∃ r, mergeToPolicy codec input ctx = .ok r ctx.startAnchor ∧
        after = ctx.startAnchor.setFsPolicyVersion (toString r.version) := by
  rw [mergeToBase, EStateM.bind_eq_error] at h
  rcases h with h | ⟨r, t, hpolicy, h⟩
  · exact .inl h
  obtain rfl := (mergeToPolicy_ok hpolicy).1
  refine .inr ⟨r, hpolicy, ?_⟩
  rw [EStateM.modify_bind_eq_error] at h
  refine EStateM.KeepsAt.of_error (?_ : EStateM.KeepsAt id _ _) h
  exact Keeps.bind (.check _) (fun _ => .bind (.check _) fun _ => .pure _) _

def BaseReached.trace (r : BaseReached) (ctx : AcceptanceContext) : Trace :=
  ((ctx.startAnchor.setFsPolicyVersion (toString r.version)).setFsBaseTs r.baseTs).trace

variable {r : PivotsReached} {t staged : AcceptanceContext} {st : StagedMerge} {root : Bytes32}
  {header : HeaderMap}

theorem mergeToPivots_ok (h : mergeToPivots codec input ctx = .ok r after) :
    (∃ t, mergeToBase codec input ctx = .ok r.toBaseReached t) ∧
      after.trace = r.toBaseReached.trace ctx := by
  rw [mergeToPivots, EStateM.bind_eq_ok] at h
  obtain ⟨b, t, hbase, h⟩ := h
  obtain rfl := (mergeToBase_ok hbase).2.1
  simp only [takeAcceptSeq, EStateM.modify_bind_eq_ok, EStateM.modifyGet_bind_eq_ok,
    EStateM.check_bind_eq_ok, EStateM.pure_eq_ok] at h
  obtain ⟨_, -, _, -, _, -, _, -, _, -, _, -, _, -, _, -, _, -, _, -, rfl, rfl⟩ := h
  exact ⟨⟨_, hbase⟩, rfl⟩

theorem mergeToPivots_error (h : mergeToPivots codec input ctx = .error e after) :
    mergeToBase codec input ctx = .error e after ∨
      ∃ r t, mergeToBase codec input ctx = .ok r t ∧ after.trace = r.trace ctx := by
  rw [mergeToPivots, EStateM.bind_eq_error] at h
  rcases h with h | ⟨r, t, hbase, h⟩
  · exact .inl h
  obtain rfl := (mergeToBase_ok hbase).2.1
  refine .inr ⟨r, _, hbase, ?_⟩
  rw [EStateM.modify_bind_eq_error] at h
  refine EStateM.KeepsAt.of_error (?_ : EStateM.KeepsAt AcceptanceContext.trace _ _) h
  refine Keeps.bind (.check _) (fun _ => ?_) _
  refine .bind (.check _) fun _ => .bind (.check _) fun _ => .bind (.check _) fun _ => ?_
  refine .bind (.check _) fun _ => .bind (.check _) fun _ => .bind (.check _) fun _ => ?_
  refine .bind (.check _) fun _ => .bind (.check _) fun _ => .bind (.modifyGet fun _ => rfl) fun _ => ?_
  exact .bind (.check _) fun _ => .pure _

def PivotsReached.trace (r : PivotsReached) (ctx : AcceptanceContext) : Trace :=
  { r.toBaseReached.trace ctx with pivotStore := ctx.pivotStore.prune r.now }

theorem mergeFromPivots_trace (h : mergeToPivots codec input ctx = .ok r t) :
    ((mergeFromPivots codec input r).final t).trace = r.trace ctx := by
  have htrace := (mergeToPivots_ok h).2
  have hpruned : (t.setPivotStore (t.pivotStore.prune r.now)).trace = r.trace ctx := by
    have hstore : t.pivotStore = ctx.pivotStore := congrArg Trace.pivotStore htrace
    change { t.trace with pivotStore := t.pivotStore.prune r.now } = _
    rw [htrace, hstore]
    rfl
  rw [mergeFromPivots, takeParities, bind_assoc, EStateM.final_modify_bind]
  refine Eq.trans ?_ hpruned
  refine Keeps.bind (.check _) (fun _ => ?_) _
  refine .bind (.check _) fun _ => .bind (.check _) fun _ => .bind (.check _) fun _ => ?_
  exact .bind (.check _) fun _ => .bind (.check _) fun _ => .pure _

theorem mergeStage_ok (h : mergeStage codec input ctx = .ok st after) :
    ∃ r t, mergeToPivots codec input ctx = .ok r t ∧ after.trace = r.trace ctx := by
  rw [mergeStage_eq, EStateM.bind_eq_ok] at h
  obtain ⟨r, t, hpivots, hrest⟩ := h
  refine ⟨r, t, hpivots, ?_⟩
  rw [← mergeFromPivots_trace hpivots, EStateM.final_of_ok hrest]

theorem mergeStage_error (h : mergeStage codec input ctx = .error e after) :
    mergeToPivots codec input ctx = .error e after ∨
      ∃ r t, mergeToPivots codec input ctx = .ok r t ∧ after.trace = r.trace ctx := by
  rw [mergeStage_eq, EStateM.bind_eq_error] at h
  rcases h with h | ⟨r, t, hpivots, hrest⟩
  · exact .inl h
  · refine .inr ⟨r, t, hpivots, ?_⟩
    rw [← mergeFromPivots_trace hpivots, EStateM.final_of_error hrest]

def AcceptanceContext.HasShadowRoot (ctx : AcceptanceContext) (gid : Bytes) : Prop :=
  ∃ state, ctx.barrierGroupState gid = some state ∧ state.srxRootSw.isSome = true

theorem ensureGroupSrxRootSw_eq_iff {gid : Bytes} :
    (ctx.ensureGroupSrxRootSw gid).barrierGroupState = ctx.barrierGroupState ↔
      ctx.HasShadowRoot gid := by
  have hgroups : (ctx.ensureGroupSrxRootSw gid).barrierGroupState = ctx.barrierGroupState ↔
      ctx.barrierGroups.insert gid { ctx.barrierGroupStateEntry gid with
        srxRootSw := some ((ctx.barrierGroupStateEntry gid).srxRootSw.getD ctx.srxFallbackRoot) } =
          ctx.barrierGroups := by
    constructor
    · intro h
      ext1 key
      exact congrFun h key
    · intro h
      funext key
      exact congrArg (fun groups => OrdMap.get? groups key) h
  rw [hgroups, OrdMap.insert_eq_self]
  unfold AcceptanceContext.HasShadowRoot AcceptanceContext.barrierGroupStateEntry
    AcceptanceContext.barrierGroupState
  cases hget : ctx.barrierGroups.get? gid with
  | none => simp
  | some state =>
    cases hroot : state.srxRootSw with
    | none =>
      simp only [Option.getD_some, Option.some.injEq, exists_eq_left', hroot]
      refine iff_of_false (fun heq => ?_) (by simp)
      have hsome := congrArg BarrierGroupState.srxRootSw heq
      simp [hroot] at hsome
    | some root =>
      simp only [Option.getD_some, Option.some.injEq, exists_eq_left', hroot]
      refine iff_of_true ?_ rfl
      rw [← hroot]

theorem stagedSrx_trace (h : ensureMergeSrxKeys input.header (st.required input.header) = .ok ()) :
    ((stagedSrx codec verifiers input st).final staged).trace =
      (staged.ensureGroupSrxRootSw input.parts.gid).trace := by
  rw [stagedSrx, mergeSrx, EStateM.final_check_bind
    (f := fun _ => ensureMergeSrxKeys input.header (st.required input.header)) h,
    EStateM.final_modify_bind]
  apply (?_ : Keeps AcceptanceContext.trace _)
  refine .bind (.check _) fun _ => .bind (.check _) fun _ => ?_
  split
  · exact .bind (.zoom fun _ _ => rfl) fun _ => .pure _
  · exact .pure _

theorem stagedSrx_keys (h : stagedSrx codec verifiers input st staged = .ok root after) :
    ensureMergeSrxKeys input.header (st.required input.header) = .ok () := by
  rw [stagedSrx, mergeSrx, EStateM.check_bind_eq_ok] at h
  obtain ⟨_, hkeys, -⟩ := h
  exact hkeys

theorem stagedSrx_root (h : stagedSrx codec verifiers input st staged = .ok root after) :
    after.groupSrxRootSw input.parts.gid = root := by
  rw [stagedSrx, mergeSrx] at h
  simp only [EStateM.check_bind_eq_ok, EStateM.modify_bind_eq_ok, Except.pure_eq_ok] at h
  obtain ⟨_, -, before, rfl, _, rfl, h⟩ := h
  split at h
  · simp only [EStateM.bind_eq_ok, onVckCache, EStateM.zoom_eq_ok, EStateM.pure_eq_ok] at h
    obtain ⟨_, _, ⟨_, -, rfl⟩, rfl, rfl⟩ := h
    rfl
  · obtain ⟨rfl, rfl⟩ := EStateM.pure_eq_ok.mp h
    rfl

theorem headerValueBytes_of_textOf {key : Nat} {text : String} (freeze : FreezeError)
    (h : (header.get? key).bind codec.textOf = some text) :
    ∃ bytes, codec.headerValueBytes header key freeze = .ok bytes := by
  obtain ⟨value, hget, htext⟩ := Option.bind_eq_some_iff.mp h
  unfold AnchorCodec.headerValueBytes
  rw [hget]
  cases value <;> simp_all [AnchorCodec.textOf]

theorem headerValueBytes_of_params {bytes : Bytes} (freeze : FreezeError)
    (h : canonicalParamsId codec (header.get? HDR_PARAMS_ID) = some bytes) :
    ∃ bytes, codec.headerValueBytes header HDR_PARAMS_ID freeze = .ok bytes := by
  unfold AnchorCodec.headerValueBytes
  cases hget : header.get? HDR_PARAMS_ID with
  | none => simp [hget, canonicalParamsId] at h
  | some value => cases value <;> simp_all [canonicalParamsId]

theorem mergeFs_suite {parts : AnchorInstanceParts} {fs : MergeFs}
    (h : mergeFs codec parts header ctx = .ok fs after) :
    (∃ crsId, codec.headerValueBytes header HDR_CRS_ID freezeMsphfCrsInvalid = .ok crsId) ∧
      ∃ paramsId, codec.headerValueBytes header HDR_PARAMS_ID freezeParamsIdInvalid =
        .ok paramsId := by
  rw [mergeFs, EStateM.check_bind_eq_ok] at h
  obtain ⟨_, hprelude, -⟩ := h
  simp only [mergePrelude, ensureSuite, ensureCrsId, ensureParamsId, Except.bind_eq_ok,
    Except.ofOption_eq_ok] at hprelude
  obtain ⟨_, ⟨_, _, _, _, _, ⟨_, hcrs, _⟩, _, _, _, _, _, hparams, _⟩, _⟩ := hprelude
  exact ⟨headerValueBytes_of_textOf _ hcrs, headerValueBytes_of_params _ hparams⟩

theorem headerBytes32_of_freeze {key : Nat} {freeze : FreezeError} {bytes : Bytes32}
    (freeze' : FreezeError) (h : headerBytes32OrFreeze header key freeze = .ok bytes) :
    headerBytes32OrFreeze header key freeze' = .ok bytes := by
  unfold headerBytes32OrFreeze at *
  cases hget : header.get? key with
  | none => simp [hget, freezeWith] at h
  | some value => cases value <;> simp_all [valueBytes32, freezeWith]

/-- Nothing fails behind the window: the header was read before, and the group's
shadow root is the one the relations were verified against. -/
theorem mergeSrxFields_ok {related : AcceptanceContext}
    (hstage : mergeStage codec input ctx = .ok st staged)
    (hsrx : stagedSrx codec verifiers input st staged = .ok root related)
    (ht : t.groupSrxRootSw input.parts.gid = related.groupSrxRootSw input.parts.gid) :
    ∃ fields, mergeSrxFields input.parts input.header (st.required input.header) root t =
      .ok fields := by
  cases hrequired : st.required input.header with
  | false => exact ⟨_, rfl⟩
  | true =>
    have hroot : t.groupSrxRootSw input.parts.gid = root := ht.trans (stagedSrx_root hsrx)
    obtain ⟨read, hread, -⟩ := mergeSrx_passed hsrx hrequired
    obtain ⟨_, _, hsteps⟩ := (mergeStage_staged hstage).checks
    have hproof := hsteps.read.srx
    have hkey : HDR_SRX_ROOT_SW ∈ input.header := hread.keys _ (by decide)
    simp only [readSrxProof, hkey, if_true, Except.bind_eq_ok] at hproof
    obtain ⟨_, -, rootSw, hrootSw, -⟩ := hproof
    simp only [mergeSrxFields, if_true, hread.commit, headerBytes32_of_freeze _ hrootSw, hroot]
    exact ⟨_, rfl⟩

theorem stagedCommit_error {related : AcceptanceContext}
    (hstage : mergeStage codec input ctx = .ok st staged)
    (hsrx : stagedSrx codec verifiers input st staged = .ok root related)
    (h : stagedCommit codec input st root related.takePendingCapssWitness = .error e after) :
    (¬ st.heads.length ≤ related.mhWindow.hMax ∧ after.trace = related.trace) ∨
      st.heads.length ≤ related.mhWindow.hMax ∧
        ∃ e' w, MultiHeadWindow.acceptMerge st.checked.pivot.widOld st.checked.ids.wid.val st.heads
          (st.checked.headRecord input.header st.fs st.now) st.now related.mhWindow = .error e' w ∧
          after.trace.heads = w.headsAt := by
  rw [stagedCommit, mergeCommit, acceptMergeHead, bind_assoc, EStateM.check_bind_eq_error] at h
  obtain ⟨hfull, rfl⟩ | ⟨_, hroom, h⟩ := h
  · refine .inl ⟨fun hle => ?_, rfl⟩
    cases hfull.symm.trans (Except.ensure_eq_ok (u := ()).mpr hle)
  refine .inr ⟨Except.ensure_eq_ok.mp hroom, ?_⟩
  rw [EStateM.bind_eq_error] at h
  obtain h | ⟨_, accepted, hwindow, h⟩ := h
  · obtain ⟨e', w, hrun, -, rfl⟩ := EStateM.zoom_eq_error.mp h
    exact ⟨e', w, hrun, rfl⟩
  -- behind the window every header has been read before
  exfalso
  obtain ⟨_, hfs, -⟩ := (mergeStage_staged hstage).checks
  obtain ⟨⟨crsId, hcrs⟩, paramsId, hparams⟩ := mergeFs_suite hfs
  have hgroup : accepted.groupSrxRootSw input.parts.gid =
      related.groupSrxRootSw input.parts.gid := by
    obtain ⟨_, -, rfl⟩ := EStateM.zoom_eq_ok.mp hwindow
    rfl
  rw [EStateM.modify_bind_eq_error, EStateM.check_bind_eq_error] at h
  obtain ⟨hfails, -⟩ | ⟨_, -, h⟩ := h
  · cases hfails.symm.trans hcrs
  rw [EStateM.check_bind_eq_error] at h
  obtain ⟨hfails, -⟩ | ⟨_, -, h⟩ := h
  · cases hfails.symm.trans hparams
  rw [EStateM.check_bind_eq_error] at h
  obtain ⟨hfails, -⟩ | ⟨_, -, h⟩ := h
  · obtain ⟨fields, hfields⟩ := mergeSrxFields_ok hstage hsrx (t := accepted.setPivotStore _) hgroup
    cases hfails.symm.trans hfields
  · cases h

inductive MergeLeft (codec : AnchorCodec) (verifiers : AnchorProofs) (input : AnchorInput)
    (ctx after : AcceptanceContext) : Prop
  | early (stopped : ¬ (mergeToPolicy codec input).Succeeds ctx)
      (left : after.trace = ctx.startAnchor.trace)
  | policy {r : PolicyReached} {t : AcceptanceContext}
      (came : mergeToPolicy codec input ctx = .ok r t)
      (stopped : ¬ (mergeToBase codec input).Succeeds ctx)
      (left : after.trace = (ctx.startAnchor.setFsPolicyVersion (toString r.version)).trace)
  | base {r : BaseReached} {t : AcceptanceContext} (came : mergeToBase codec input ctx = .ok r t)
      (stopped : ¬ (mergeToPivots codec input).Succeeds ctx) (left : after.trace = r.trace ctx)
  | pivots {r : PivotsReached} {t : AcceptanceContext}
      (came : mergeToPivots codec input ctx = .ok r t)
      (stopped : ¬ (mergeToShadow codec input).Succeeds ctx) (left : after.trace = r.trace ctx)
  | shadow {r : PivotsReached} {t staged : AcceptanceContext}
      (came : mergeToPivots codec input ctx = .ok r t) (staged_trace : staged.trace = r.trace ctx)
      (reached : (mergeToShadow codec input).Succeeds ctx)
      (stopped : ¬ (mergeToWindow codec verifiers input).Succeeds ctx)
      (left : after.trace = (staged.ensureGroupSrxRootSw input.parts.gid).trace)
  | window (reached : (mergeToWindow codec verifiers input).Succeeds ctx)
      (left : after.trace.heads ≠ ctx.startAnchor.trace.heads)

theorem MergeLeft.of_stage (h : mergeStage codec input ctx = .error e after) :
    MergeLeft codec verifiers input ctx after := by
  have hshadow : ¬ (mergeToShadow codec input).Succeeds ctx :=
    fun hs => EStateM.not_succeeds_of_error h hs.of_bind
  obtain hpivots | ⟨r, t, hpivots, htrace⟩ := mergeStage_error h
  · obtain hbase | ⟨r, t, hbase, htrace⟩ := mergeToPivots_error hpivots
    · obtain hpolicy | ⟨r, hpolicy, rfl⟩ := mergeToBase_error hbase
      · exact .early (EStateM.not_succeeds_of_error hpolicy)
          (congrArg AcceptanceContext.trace (mergeToPolicy_error hpolicy))
      · exact .policy hpolicy (EStateM.not_succeeds_of_error hbase) rfl
    · exact .base hbase (EStateM.not_succeeds_of_error hpivots) htrace
  · exact .pivots hpivots hshadow htrace

section Staged
variable {st : StagedMerge} {staged related : AcceptanceContext} {root : Bytes32}

theorem mergeToShadow_succeeds_iff (hstage : mergeStage codec input ctx = .ok st staged) :
    (mergeToShadow codec input).Succeeds ctx ↔
      ensureMergeSrxKeys input.header (st.required input.header) = .ok () := by
  unfold EStateM.Succeeds mergeToShadow
  simp only [EStateM.bind_of_ok hstage, EStateM.check_bind_eq_ok, EStateM.pure_eq_ok]
  constructor
  · rintro ⟨_, _, _, hkeys, _⟩
    exact hkeys
  · intro hkeys
    exact ⟨_, _, _, hkeys, rfl, rfl⟩

theorem mergeToWindow_succeeds (hstage : mergeStage codec input ctx = .ok st staged)
    (h : (mergeToWindow codec verifiers input).Succeeds ctx) :
    ∃ root related, stagedSrx codec verifiers input st staged = .ok root related ∧
      checkRollup codec input.header st.heads st.checked.parities = .ok () ∧
      st.heads.length ≤ related.mhWindow.hMax := by
  obtain ⟨_, _, hrun⟩ := h
  rw [mergeToWindow, EStateM.bind_of_ok hstage, EStateM.bind_eq_ok] at hrun
  obtain ⟨root, related, hsrx, hrun⟩ := hrun
  simp only [EStateM.check_bind_eq_ok, Except.ensure_eq_ok] at hrun
  obtain ⟨_, hrollup, _, hroom, -⟩ := hrun
  exact ⟨root, related, hsrx, hrollup, hroom⟩

theorem MergeLeft.of_related (hstage : mergeStage codec input ctx = .ok st staged)
    (hkeys : ensureMergeSrxKeys input.header (st.required input.header) = .ok ())
    (hstopped : ¬ (mergeToWindow codec verifiers input).Succeeds ctx)
    (hleft : after.trace = ((stagedSrx codec verifiers input st).final staged).trace) :
    MergeLeft codec verifiers input ctx after := by
  obtain ⟨r, t, hpivots, htrace⟩ := mergeStage_ok hstage
  exact .shadow hpivots htrace ((mergeToShadow_succeeds_iff hstage).mpr hkeys) hstopped
    (hleft.trans (stagedSrx_trace hkeys))

theorem MergeLeft.of_srx (hstage : mergeStage codec input ctx = .ok st staged)
    (h : stagedSrx codec verifiers input st staged = .error e after) :
    MergeLeft codec verifiers input ctx after := by
  cases hkeys : ensureMergeSrxKeys input.header (st.required input.header) with
  | error e' =>
    obtain ⟨r, t, hpivots, htrace⟩ := mergeStage_ok hstage
    have hafter : after = staged := by
      rw [← EStateM.final_of_error h, stagedSrx, mergeSrx]
      exact EStateM.final_check_bind_error
        (f := fun _ => ensureMergeSrxKeys input.header (st.required input.header)) hkeys
    refine .pivots hpivots (fun hreached => ?_) (hafter ▸ htrace)
    cases hkeys.symm.trans ((mergeToShadow_succeeds_iff hstage).mp hreached)
  | ok u =>
    refine .of_related hstage hkeys (fun hreached => ?_) (by rw [EStateM.final_of_error h])
    obtain ⟨_, _, hsrx, -⟩ := mergeToWindow_succeeds hstage hreached
    cases h.symm.trans hsrx

theorem MergeLeft.of_rollup (hstage : mergeStage codec input ctx = .ok st staged)
    (hsrx : stagedSrx codec verifiers input st staged = .ok root after)
    (h : checkRollup codec input.header st.heads st.checked.parities = .error e) :
    MergeLeft codec verifiers input ctx after := by
  refine .of_related hstage (stagedSrx_keys hsrx) (fun hreached => ?_)
    (by rw [EStateM.final_of_ok hsrx])
  obtain ⟨_, _, -, hrollup, -⟩ := mergeToWindow_succeeds hstage hreached
  cases h.symm.trans hrollup

theorem mergeFs_window (parts : AnchorInstanceParts) (header : HeaderMap) :
    Keeps (·.mhWindow) (mergeFs codec parts header) := by
  refine .bind (.check _) fun _ => ?_
  refine .bind (.bind (.check _) fun _ => .bind (.check _) fun _ => .modify fun _ => rfl) fun _ => ?_
  refine .bind (.bind (.check _) fun _ => .bind (.check _) fun _ =>
    .bind (.modify fun _ => rfl) fun _ => .check _) fun _ => ?_
  exact .bind (.check _) fun _ => .bind (.check _) fun _ => .pure _

theorem stagedSrx_window (hsrx : stagedSrx codec verifiers input st staged = .ok root related) :
    related.mhWindow = staged.mhWindow := by
  refine Keeps.of_ok (?_ : Keeps AcceptanceContext.mhWindow _) hsrx
  refine .bind (.check _) fun _ => .bind (.modify fun _ => rfl) fun _ => ?_
  refine .bind (.check _) fun _ => .bind (.check _) fun _ => ?_
  split
  · exact .bind (.zoom fun _ _ => rfl) fun _ => .pure _
  · exact .pure _

theorem mergeStage_window (hstage : mergeStage codec input ctx = .ok st staged) :
    staged.mhWindow = ctx.mhWindow.pruneAll st.now ∧ isSortedUnique st.heads = true ∧
      ∀ head ∈ st.heads,
        (staged.mhWindow.findHead st.checked.pivot.widOld head).isSome = true := by
  have hstaged := mergeStage_staged hstage
  obtain ⟨t, hfs, hsteps⟩ := hstaged.checks
  have ht : t.mhWindow = ctx.startAnchor.mhWindow := (mergeFs_window _ _).of_ok hfs
  have hpruned : ctx.startAnchor.mhWindow = ctx.mhWindow.pruneAll st.now := by rw [hstaged.now]; rfl
  have hpivot := hsteps.pivot
  have hwindow : staged.mhWindow = t.mhWindow := by rw [hsteps.after]; rfl
  simp only [findPivot, Except.bind_eq_ok, Except.ensure_eq_ok, Except.pure_eq_ok] at hpivot
  obtain ⟨_, hsorted, widOld, -, _, hfound, _, -, _, -, _, -, hpivot⟩ := hpivot
  refine ⟨hwindow.trans (ht.trans hpruned), hsorted, ?_⟩
  rw [hwindow, ← hpivot]
  exact hfound

theorem MergeLeft.of_commit (hstage : mergeStage codec input ctx = .ok st staged)
    (hsrx : stagedSrx codec verifiers input st staged = .ok root related)
    (hrollup : checkRollup codec input.header st.heads st.checked.parities = .ok ())
    (h : stagedCommit codec input st root related.takePendingCapssWitness = .error e after) :
    MergeLeft codec verifiers input ctx after := by
  obtain ⟨hfull, hleft⟩ | ⟨hroom, e', w, hrun, hheads⟩ := stagedCommit_error hstage hsrx h
  · refine .of_related hstage (stagedSrx_keys hsrx) (fun hreached => ?_)
      (by rw [EStateM.final_of_ok hsrx, hleft])
    obtain ⟨_, _, hsrx', -, hroom⟩ := mergeToWindow_succeeds hstage hreached
    cases hsrx.symm.trans hsrx'
    exact hfull hroom
  · obtain ⟨hwindow, hsorted, hfound⟩ := mergeStage_window hstage
    refine .window ⟨st, related, ?_⟩ ?_
    · rw [mergeToWindow, EStateM.bind_of_ok hstage, EStateM.bind_of_ok hsrx]
      simp only [EStateM.check_bind_eq_ok, Except.ensure_eq_ok, EStateM.pure_eq_ok]
      exact ⟨(), hrollup, (), hroom, trivial, trivial⟩
    · have hsame := stagedSrx_window hsrx
      have hpruned : (related.mhWindow.prune st.checked.pivot.widOld st.now).headsAt =
          related.mhWindow.headsAt := by
        rw [hsame, hwindow, MultiHeadWindow.headsAt_prune_pruneAll]
      rw [← hsame] at hfound
      have hchanged := MultiHeadWindow.acceptMerge_error hsorted hpruned hfound hrun
      rw [hheads]
      rw [hsame, hwindow, (mergeStage_staged hstage).now] at hchanged
      exact hchanged

end Staged

theorem acceptAnchor_merge_left (hmerge : isMergeAnchor input.header = true)
    (h : acceptAnchor codec verifiers input ctx = .error e after) :
    MergeLeft codec verifiers input ctx after := by
  cases acceptAnchor_merge_refused hmerge h with
  | stage failed => exact .of_stage failed
  | srx stage failed => exact .of_srx stage failed
  | rollup stage srx failed => exact .of_rollup stage srx failed
  | commit stage srx rolled failed => exact .of_commit stage srx rolled failed

/-- The merge finds the policy version and the base timestamp fixed, the parities
live and the group with a shadow root, each as far as it comes, and does not come
as far as the window. -/
structure MergeTraceFree (codec : AnchorCodec) (verifiers : AnchorProofs) (input : AnchorInput)
    (ctx : AcceptanceContext) : Prop where
  policy : (mergeToPolicy codec input).Succeeds ctx → ctx.fsPolicyVersion.isSome = true
  base : (mergeToBase codec input).Succeeds ctx → ctx.fsBaseTs.isSome = true
  pivots : (mergeToPivots codec input).Succeeds ctx → ctx.pivotStore.Fresh ctx.clock.tick.last
  shadow : (mergeToShadow codec input).Succeeds ctx → ctx.HasShadowRoot input.parts.gid
  window : ¬ (mergeToWindow codec verifiers input).Succeeds ctx

section Further

theorem mergeToPolicy_of_base (h : (mergeToBase codec input).Succeeds ctx) :
    (mergeToPolicy codec input).Succeeds ctx := h.of_bind

theorem mergeToBase_of_pivots (h : (mergeToPivots codec input).Succeeds ctx) :
    (mergeToBase codec input).Succeeds ctx := h.of_bind

theorem mergeToPivots_of_shadow (h : (mergeToShadow codec input).Succeeds ctx) :
    (mergeToPivots codec input).Succeeds ctx := by
  have hstage : (mergeStage codec input).Succeeds ctx := h.of_bind
  rw [mergeStage_eq] at hstage
  exact hstage.of_bind

theorem mergeToShadow_of_window (h : (mergeToWindow codec verifiers input).Succeeds ctx) :
    (mergeToShadow codec input).Succeeds ctx := by
  have hstage : (mergeStage codec input).Succeeds ctx := h.of_bind
  obtain ⟨st, staged, hstage⟩ := hstage
  obtain ⟨root, related, hsrx, -⟩ := mergeToWindow_succeeds hstage h
  exact (mergeToShadow_succeeds_iff hstage).mpr (stagedSrx_keys hsrx)

end Further

theorem fixed_iff {α : Type} {o : Option α} {v : α} (h : ∀ x ∈ o, x = v) :
    some v = o ↔ o.isSome = true := by
  cases o with
  | none => simp
  | some x => simp [h x rfl]

theorem BaseReached.trace_eq_iff {r : BaseReached} (h : mergeToBase codec input ctx = .ok r t) :
    r.trace ctx = ctx.startAnchor.trace ↔
      ctx.fsPolicyVersion.isSome = true ∧ ctx.fsBaseTs.isSome = true := by
  obtain ⟨hpolicy, -, hbase⟩ := mergeToBase_ok h
  rw [← fixed_iff (mergeToPolicy_ok hpolicy).2.2, ← fixed_iff hbase, Trace.ext_iff]
  exact ⟨fun ⟨_, _, _, _, hversion, hts, _⟩ => ⟨hversion, hts⟩,
    fun ⟨hversion, hts⟩ => ⟨rfl, rfl, rfl, rfl, hversion, hts, rfl⟩⟩

theorem PivotsReached.trace_eq_iff (h : mergeToPivots codec input ctx = .ok r t) :
    r.trace ctx = ctx.startAnchor.trace ↔
      r.toBaseReached.trace ctx = ctx.startAnchor.trace ∧
        ctx.pivotStore.Fresh ctx.clock.tick.last := by
  obtain ⟨⟨_, hbase⟩, -⟩ := mergeToPivots_ok h
  have hnow : r.now = ctx.clock.tick.last := (mergeToPolicy_ok (mergeToBase_ok hbase).1).2.1
  rw [← PivotParityStore.prune_eq_self, ← hnow, Trace.ext_iff, Trace.ext_iff]
  exact ⟨fun ⟨h₁, h₂, h₃, hstore, h₅, h₆, h₇⟩ => ⟨⟨h₁, h₂, h₃, rfl, h₅, h₆, h₇⟩, hstore⟩,
    fun ⟨⟨h₁, h₂, h₃, _, h₅, h₆, h₇⟩, hstore⟩ => ⟨h₁, h₂, h₃, hstore, h₅, h₆, h₇⟩⟩

theorem acceptAnchor_merge_trace (hmerge : isMergeAnchor input.header = true)
    (h : acceptAnchor codec verifiers input ctx = .error e after) :
    after.trace = ctx.startAnchor.trace ↔ MergeTraceFree codec verifiers input ctx := by
  cases acceptAnchor_merge_left hmerge h with
  | early stopped left =>
    have hbase := mt mergeToPolicy_of_base stopped
    have hpivots := mt mergeToBase_of_pivots hbase
    have hshadow := mt mergeToPivots_of_shadow hpivots
    refine iff_of_true left ⟨fun h => absurd h stopped, fun h => absurd h hbase,
      fun h => absurd h hpivots, fun h => absurd h hshadow, mt mergeToShadow_of_window hshadow⟩
  | @policy r t came stopped left =>
    have hpivots := mt mergeToBase_of_pivots stopped
    have hshadow := mt mergeToPivots_of_shadow hpivots
    have hfixed : (ctx.startAnchor.setFsPolicyVersion (toString r.version)).trace =
        ctx.startAnchor.trace ↔ ctx.fsPolicyVersion.isSome = true := by
      rw [← fixed_iff (mergeToPolicy_ok came).2.2, Trace.ext_iff]
      exact ⟨fun ⟨_, _, _, _, hversion, _, _⟩ => hversion,
        fun hversion => ⟨rfl, rfl, rfl, rfl, hversion, rfl, rfl⟩⟩
    rw [left, hfixed]
    exact ⟨fun hsome => ⟨fun _ => hsome, fun h => absurd h stopped, fun h => absurd h hpivots,
      fun h => absurd h hshadow, mt mergeToShadow_of_window hshadow⟩,
      fun hfree => hfree.policy ⟨r, t, came⟩⟩
  | @base r t came stopped left =>
    have hshadow := mt mergeToPivots_of_shadow stopped
    rw [left, BaseReached.trace_eq_iff came]
    exact ⟨fun hsome => ⟨fun _ => hsome.1, fun _ => hsome.2, fun h => absurd h stopped,
      fun h => absurd h hshadow, mt mergeToShadow_of_window hshadow⟩,
      fun hfree => ⟨hfree.policy (mergeToPolicy_of_base ⟨r, t, came⟩), hfree.base ⟨r, t, came⟩⟩⟩
  | @pivots r t came stopped left =>
    obtain ⟨⟨tb, hbase⟩, -⟩ := mergeToPivots_ok came
    rw [left, PivotsReached.trace_eq_iff came, BaseReached.trace_eq_iff hbase]
    exact ⟨fun hsome => ⟨fun _ => hsome.1.1, fun _ => hsome.1.2, fun _ => hsome.2,
      fun h => absurd h stopped, mt mergeToShadow_of_window stopped⟩,
      fun hfree => ⟨⟨hfree.policy (mergeToPolicy_of_base ⟨_, tb, hbase⟩),
        hfree.base ⟨_, tb, hbase⟩⟩, hfree.pivots ⟨r, t, came⟩⟩⟩
  | @shadow r t staged came staged_trace reached stopped left =>
    obtain ⟨⟨tb, hbase⟩, -⟩ := mergeToPivots_ok came
    have hstaged : (staged.ensureGroupSrxRootSw input.parts.gid).trace = ctx.startAnchor.trace ↔
        r.trace ctx = ctx.startAnchor.trace ∧ ctx.HasShadowRoot input.parts.gid := by
      have hgroups : staged.barrierGroupState = ctx.barrierGroupState :=
        congrArg Trace.groups staged_trace
      have hroot : staged.HasShadowRoot input.parts.gid ↔ ctx.HasShadowRoot input.parts.gid := by
        rw [AcceptanceContext.HasShadowRoot, AcceptanceContext.HasShadowRoot, hgroups]
      rw [← staged_trace, ← hroot, ← ensureGroupSrxRootSw_eq_iff, Trace.ext_iff, Trace.ext_iff]
      exact ⟨fun ⟨h₁, h₂, h₃, h₄, h₅, h₆, h₇⟩ =>
          ⟨⟨h₁, h₂, h₃, h₄, h₅, h₆, hgroups⟩, h₇.trans hgroups.symm⟩,
        fun ⟨⟨h₁, h₂, h₃, h₄, h₅, h₆, _⟩, h₇⟩ =>
          ⟨h₁, h₂, h₃, h₄, h₅, h₆, h₇.trans hgroups⟩⟩
    rw [left, hstaged, PivotsReached.trace_eq_iff came, BaseReached.trace_eq_iff hbase]
    exact ⟨fun hsome => ⟨fun _ => hsome.1.1.1, fun _ => hsome.1.1.2, fun _ => hsome.1.2,
      fun _ => hsome.2, stopped⟩,
      fun hfree => ⟨⟨⟨hfree.policy (mergeToPolicy_of_base ⟨_, tb, hbase⟩),
        hfree.base ⟨_, tb, hbase⟩⟩, hfree.pivots ⟨r, t, came⟩⟩, hfree.shadow reached⟩⟩
  | window reached left =>
    exact iff_of_false (fun htrace => left (congrArg Trace.heads htrace))
      fun hfree => hfree.window reached

end Reached

def Untraced (ctx after : AcceptanceContext) : Prop :=
  after.trace =
    { ctx.trace with heads := (ctx.mhWindow.pruneAll ctx.clock.nextTick).headsAt }

theorem Untraced.rhoGuard {ctx after : AcceptanceContext} (h : Untraced ctx after) :
    after.rhoGuard = ctx.rhoGuard := congrArg Trace.rhoGuard h

theorem Untraced.heads {ctx after : AcceptanceContext} (h : Untraced ctx after) (wid : Bytes) :
    after.mhWindow.headsAt wid = (ctx.mhWindow.pruneAll ctx.clock.nextTick).headsAt wid :=
  congrFun (congrArg Trace.heads h) wid

def TraceFree (codec : AnchorCodec) (verifiers : AnchorProofs) (input : AnchorInput)
    (ctx : AcceptanceContext) : Prop :=
  if isMergeAnchor input.header then MergeTraceFree codec verifiers input ctx
  else JoinTraceFree codec input ctx

def spoiledJoin : AnchorInput :=
  { headA.join 10 with header := (headA.join 10).header.insert HDR_PROOFS_COMMIT zeroValue }

def spoiledCall : AnchorCall := callAnchor sampleCodec sampleProofs (sampleContext 0) spoiledJoin

def mendedCall : AnchorCall := callAnchor sampleCodec sampleProofs spoiledCall.after (headA.join 10)

def twin : SampleAnchor := { fsEc := 7, version := 0, revoked := .zero }

def narrowContext : AcceptanceContext :=
  (acceptAnchor sampleCodec sampleProofs (twin.join 11)).final
    ((acceptAnchor sampleCodec sampleProofs (headA.join 10)).final
      ((sampleContext 0).setMhWindow (.new 1 120)))

def crowdedCall : AnchorCall :=
  callAnchor sampleCodec sampleProofs narrowContext (revoking.merge headA 1 0 [])

end CityG
