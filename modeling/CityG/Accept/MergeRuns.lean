import CityG.Accept.VersionChain

/-!
# The runs of a merge

`accept_anchor` on a merge, read back into its stages: up to the checkpoint
nothing is written that a later anchor is judged by but the policy of the
context and the expiry of parities; then come the SRX relations, and last the
commit.
-/

namespace CityG

open EStateM (check Preserves)

structure StagedMerge where
  gate : Accept.BarrierGateDecision
  mhNote : Option String
  now : Nat
  heads : List Bytes32
  fs : MergeFs
  checked : MergeChecked

def StagedMerge.required (st : StagedMerge) (header : HeaderMap) : Bool :=
  srxRequired header st.checked.roots st.checked.pivot.pivotRecord

section Halves
variable (codec : AnchorCodec) (verifiers : AnchorProofs) (input : AnchorInput)

def mergeStage : AcceptM StagedMerge := do
  modify (·.startAnchor)
  let now ← check fun ctx => pure ctx.clock.last
  let gate ← check (anchorGate codec input)
  let heads ← check fun _ => parseMhHeads input.header
  let fs ← mergeFs codec input.parts input.header
  let m ← mergeChecks codec input.parts input.header input.weEpochIdClaim heads now
  check (checkCheckpoint input.parts heads m.parities fs.fsCheckpointEc)
  pure ⟨gate.1, gate.2, now, heads, fs, m⟩

def stagedSrx (st : StagedMerge) : AcceptM Bytes32 :=
  mergeSrx codec verifiers input.parts input.header (st.required input.header) st.checked.roots
    st.checked.srxBinding st.now st.checked.artifacts

def stagedCommit (st : StagedMerge) (srxRootSwBefore : Bytes32) : AcceptM AcceptanceOutcome :=
  mergeCommit codec input.parts input.header st.heads st.mhNote st.now st.fs st.checked
    (st.required input.header) srxRootSwBefore

def mergeFinish (st : StagedMerge) : AcceptM AcceptanceOutcome := do
  let srxRootSwBefore ← stagedSrx codec verifiers input st
  check fun _ => checkRollup codec input.header st.heads st.checked.parities
  let _ ← takeWitness
  let outcome ← stagedCommit codec input st srxRootSwBefore
  modify (·.applyBarrierAcceptanceCommit input.parts.gid input.header st.gate)
  pure outcome

theorem acceptAnchor_merge_eq (hmerge : isMergeAnchor input.header = true) :
    acceptAnchor codec verifiers input =
      mergeStage codec input >>= mergeFinish codec verifiers input := by
  simp only [acceptAnchor, acceptAnchorPipeline, hmerge, if_true, acceptAnchorMerge, mergeStage,
    mergeFinish, stagedSrx, stagedCommit, StagedMerge.required, bind_assoc, pure_bind]

end Halves

def AnchorCall.checked (codec : AnchorCodec) (c : AnchorCall) : Option MergeChecked :=
  ((mergeStage codec c.input).value c.before).toOption.map (·.checked)

section Runs
variable {codec : AnchorCodec} {verifiers : AnchorProofs} {input : AnchorInput}
  {ctx after : AcceptanceContext} {st : StagedMerge}

structure MergeStaged (codec : AnchorCodec) (input : AnchorInput) (ctx staged : AcceptanceContext)
    (st : StagedMerge) : Prop where
  passed : anchorGate codec input ctx.startAnchor = .ok (st.gate, st.mhNote)
  parsed : parseMhHeads input.header = .ok st.heads
  now : st.now = ctx.clock.tick.last
  checks : ∃ after, mergeFs codec input.parts input.header ctx.startAnchor = .ok st.fs after ∧
    MergeSteps codec input.parts input.header input.weEpochIdClaim st.heads st.now after staged
      st.checked
  checkpoint :
    checkCheckpoint input.parts st.heads st.checked.parities st.fs.fsCheckpointEc staged = .ok ()

theorem mergeStage_staged {staged : AcceptanceContext}
    (h : mergeStage codec input ctx = .ok st staged) : MergeStaged codec input ctx staged st := by
  simp only [mergeStage, EStateM.modify_bind_eq_ok, EStateM.check_bind_eq_ok] at h
  obtain ⟨now, hnow, gate, hgate, heads, hheads, h⟩ := h
  simp only [EStateM.bind_eq_ok, EStateM.check_eq_ok, EStateM.pure_eq_ok] at h
  obtain ⟨fs, after, hfs, m, _, hchecks, _, _, ⟨hcheckpoint, rfl⟩, rfl, rfl⟩ := h
  exact ⟨hgate, hheads, (Except.pure_eq_ok.mp hnow).symm, ⟨after, hfs, mergeChecks_steps hchecks⟩,
    hcheckpoint⟩

theorem AnchorCall.checked_eq_some {c : AnchorCall} {m : MergeChecked} :
    c.checked codec = some m ↔
      ∃ st staged, mergeStage codec c.input c.before = .ok st staged ∧ st.checked = m := by
  unfold AnchorCall.checked
  rw [Option.map_eq_some_iff]
  simp only [EStateM.value_toOption_eq_some]
  constructor
  · rintro ⟨st, ⟨staged, hstage⟩, rfl⟩
    exact ⟨st, staged, hstage, rfl⟩
  · rintro ⟨st, staged, hstage, rfl⟩
    exact ⟨st, ⟨staged, hstage⟩, rfl⟩

theorem mergeFs_reason {parts : AnchorInstanceParts} {header : HeaderMap} {fs : MergeFs}
    (h : mergeFs codec parts header ctx = .ok fs after) : HDR_BARRIER_UPDATE_REASON ∈ header := by
  simp only [mergeFs, EStateM.bind_eq_ok, EStateM.check_eq_ok, readMergeFs, Except.bind_eq_ok] at h
  obtain ⟨_, _, -, _, _, -, _, _, -, _, _, ⟨⟨_, _, _, _, _, hreason, _⟩, -⟩, -⟩ := h
  exact mem_of_headerU64 hreason

structure MergeDone (codec : AnchorCodec) (verifiers : AnchorProofs) (input : AnchorInput)
    (ctx after : AcceptanceContext) (outcome : AcceptanceOutcome) (st : StagedMerge)
    (staged related committed : AcceptanceContext) (root : Bytes32) : Prop where
  stage : mergeStage codec input ctx = .ok st staged
  srx : stagedSrx codec verifiers input st staged = .ok root related
  commit : stagedCommit codec input st root related.takePendingCapssWitness = .ok outcome committed
  barrier : committed.applyBarrierAcceptanceCommit input.parts.gid input.header st.gate = after

theorem acceptAnchor_merge_done {outcome : AcceptanceOutcome}
    (hmerge : isMergeAnchor input.header = true)
    (h : acceptAnchor codec verifiers input ctx = .ok outcome after) :
    ∃ st staged related committed root,
      MergeDone codec verifiers input ctx after outcome st staged related committed root := by
  rw [acceptAnchor_merge_eq codec verifiers input hmerge, EStateM.bind_eq_ok] at h
  obtain ⟨st, staged, hstage, h⟩ := h
  rw [mergeFinish, EStateM.bind_eq_ok] at h
  obtain ⟨root, related, hsrx, h⟩ := h
  simp only [takeWitness, EStateM.check_bind_eq_ok, EStateM.modifyGet_bind_eq_ok] at h
  obtain ⟨_, _, h⟩ := h
  simp only [EStateM.bind_eq_ok, EStateM.modify_eq_ok, EStateM.pure_eq_ok] at h
  obtain ⟨_, committed, hcommit, _, _, hbarrier, rfl, rfl⟩ := h
  exact ⟨st, staged, related, committed, root, hstage, hsrx, hcommit, hbarrier⟩

/-- Where a refused merge stopped: before its SRX relations, in them, at the
rollup, or in its commit. -/
inductive MergeRefused (codec : AnchorCodec) (verifiers : AnchorProofs) (input : AnchorInput)
    (ctx after : AcceptanceContext) (e : AcceptanceError) : Prop
  | stage (failed : mergeStage codec input ctx = .error e after)
  | srx {st : StagedMerge} {staged : AcceptanceContext}
      (stage : mergeStage codec input ctx = .ok st staged)
      (failed : stagedSrx codec verifiers input st staged = .error e after)
  | rollup {st : StagedMerge} {staged : AcceptanceContext} {root : Bytes32}
      (stage : mergeStage codec input ctx = .ok st staged)
      (srx : stagedSrx codec verifiers input st staged = .ok root after)
      (failed : checkRollup codec input.header st.heads st.checked.parities = .error e)
  | commit {st : StagedMerge} {staged related : AcceptanceContext} {root : Bytes32}
      (stage : mergeStage codec input ctx = .ok st staged)
      (srx : stagedSrx codec verifiers input st staged = .ok root related)
      (rolled : checkRollup codec input.header st.heads st.checked.parities = .ok ())
      (failed : stagedCommit codec input st root related.takePendingCapssWitness = .error e after)

theorem acceptAnchor_merge_refused {e : AcceptanceError}
    (hmerge : isMergeAnchor input.header = true)
    (h : acceptAnchor codec verifiers input ctx = .error e after) :
    MergeRefused codec verifiers input ctx after e := by
  rw [acceptAnchor_merge_eq codec verifiers input hmerge, EStateM.bind_eq_error] at h
  rcases h with h | ⟨st, staged, hstage, h⟩
  · exact .stage h
  rw [mergeFinish, EStateM.bind_eq_error] at h
  rcases h with h | ⟨root, related, hsrx, h⟩
  · exact .srx hstage h
  rw [EStateM.bind_eq_error] at h
  rcases h with h | ⟨_, _, hrollup, h⟩
  · obtain ⟨hfailed, rfl⟩ := EStateM.check_eq_error.mp h
    exact .rollup hstage hsrx hfailed
  obtain ⟨hrolled, rfl⟩ := EStateM.check_eq_ok.mp hrollup
  simp only [takeWitness, EStateM.bind_eq_error, EStateM.modifyGet_ne_error,
    EStateM.modifyGet_eq_ok, EStateM.modify_ne_error, EStateM.pure_ne_error, false_or, and_false,
    exists_false, or_false] at h
  obtain ⟨_, _, ⟨-, rfl⟩, hcommit⟩ := h
  exact .commit hstage hsrx hrolled hcommit

end Runs

theorem Stable.mergeStage {P : AcceptanceContext → Prop} (h : Stable P) (codec : AnchorCodec)
    (input : AnchorInput) : Preserves P (mergeStage codec input) := by
  refine .bind (.modify h.start) fun _ => .bind (.check _) fun _ => .bind (.check _) fun _ => ?_
  refine .bind (.check _) fun _ => .bind (h.mergeFs codec _ _) fun _ => ?_
  exact .bind (h.mergeChecks codec _ _ _ _ _) fun _ => .bind (.check _) fun _ => .pure _

theorem acceptAnchor_join_stable {P : AcceptanceContext → Prop} (h : Stable P)
    (hcommit : CommitStable P) (codec : AnchorCodec) (verifiers : AnchorProofs)
    {input : AnchorInput} (hjoin : isMergeAnchor input.header = false) :
    Preserves P (acceptAnchor codec verifiers input) := by
  refine .bind (.modify h.start) fun _ => .bind (.check _) fun now => ?_
  refine .bind_ok (.check _) fun ctx gate _ hctx hrun => ?_
  obtain ⟨hgate, rfl⟩ := EStateM.check_eq_ok.mp hrun
  have hplain : ∀ ctx : AcceptanceContext,
      ctx.applyBarrierAcceptanceCommit input.parts.gid input.header gate.1 = ctx := by
    intro ctx
    simp only [anchorGate, Except.bind_eq_ok, Except.pure_eq_ok] at hgate
    obtain ⟨_, _, _, _, decision, hpassed, _, _, _, _, rfl⟩ := hgate
    have hread := (enforceGate_opened hpassed).1
    unfold AcceptanceContext.applyBarrierAcceptanceCommit
    rw [if_neg]
    intro hsome
    exact absurd (isMergeAnchor_of_update (hread.update.mp hsome)) (by simp [hjoin])
  refine Preserves.bind (P := P) ?_ (fun _ => ?_) ctx hctx
  · unfold acceptAnchorPipeline
    rw [if_neg (by simp [hjoin])]
    refine .bind (h.joinChecks codec verifiers _ _ _ _ _) fun _ => .bind (.check _) fun _ => ?_
    exact hcommit.joinCommit codec _ _ _ _ _
  · exact .bind (.modify fun ctx hctx => (hplain ctx).symm ▸ hctx) fun _ => .pure _

end CityG
