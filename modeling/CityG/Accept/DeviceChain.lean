import CityG.Accept.Rejected

/-!
# The chain of a device

An anchor names the commitment of its device's anchor before it. A merge moves
the chain when nothing can refuse it any more. A join moves it before its head
has found room in the window, so a refused join may leave its commitment behind.
-/

namespace CityG

open EStateM (check Keeps)

@[ext] structure ChainView where
  tip : Bytes → Bytes → Bytes32 × Nat
  checkpointEc : Bytes → Nat
  acceptedEc : Bytes → Nat

namespace ChainView

def link (v : ChainView) (gid devicePk : Bytes) (fs : FsFields) : ChainView :=
  { v with
    tip := Function.update v.tip gid
      (Function.update (v.tip gid) devicePk (fs.fsDevCommit, fs.fsEc)) }

theorem tip_link (v : ChainView) (gid devicePk gid' devicePk' : Bytes) (fs : FsFields) :
    (v.link gid devicePk fs).tip gid' devicePk' =
      if gid' = gid ∧ devicePk' = devicePk then (fs.fsDevCommit, fs.fsEc)
      else v.tip gid' devicePk' := by
  simp only [link, Function.update_apply]
  by_cases hgid : gid' = gid
  · subst hgid
    simp [Function.update_apply]
  · simp [hgid]

def count (v : ChainView) (gid : Bytes) (ec : Nat) : ChainView :=
  { v with acceptedEc := Function.update v.acceptedEc gid (max (v.acceptedEc gid) ec) }

def checkpoint (v : ChainView) (gid : Bytes) (ec : Nat) : ChainView :=
  { v.count gid ec with checkpointEc := Function.update v.checkpointEc gid ec }

def merged (v : ChainView) (gid : Bytes) (fs : MergeFs) : ChainView :=
  ((match fs.popPk with
    | some devicePk => v.link gid devicePk fs.toFsFields
    | none => v).checkpoint gid fs.fsCheckpointEc).count gid fs.fsEc

structure Rises (gid : Bytes) (v v' : ChainView) : Prop where
  checkpoint : v.checkpointEc gid ≤ v'.checkpointEc gid
  accepted : v.acceptedEc gid ≤ v'.acceptedEc gid
  ordered : v.checkpointEc gid ≤ v.acceptedEc gid → v'.checkpointEc gid ≤ v'.acceptedEc gid

theorem Rises.refl (gid : Bytes) (v : ChainView) : Rises gid v v := ⟨le_rfl, le_rfl, id⟩

theorem Rises.trans {gid : Bytes} {v v' v'' : ChainView} (h : Rises gid v v')
    (h' : Rises gid v' v'') : Rises gid v v'' :=
  ⟨h.checkpoint.trans h'.checkpoint, h.accepted.trans h'.accepted, h'.ordered ∘ h.ordered⟩

theorem rises_link (gid gid' devicePk : Bytes) (v : ChainView) (fs : FsFields) :
    Rises gid v (v.link gid' devicePk fs) := ⟨le_rfl, le_rfl, id⟩

theorem rises_count (gid gid' : Bytes) (v : ChainView) (ec : Nat) : Rises gid v (v.count gid' ec) := by
  have haccepted : v.acceptedEc gid ≤ (v.count gid' ec).acceptedEc gid := by
    simp only [count, Function.update_apply]
    split
    · next heq => exact heq ▸ le_max_left _ _
    · exact le_rfl
  exact ⟨le_rfl, haccepted, fun h => h.trans haccepted⟩

theorem rises_checkpoint {gid gid' : Bytes} {v : ChainView} {ec : Nat}
    (h : v.checkpointEc gid' ≤ ec) : Rises gid v (v.checkpoint gid' ec) := by
  have hcount := rises_count gid gid' v ec
  by_cases hgid : gid = gid'
  · subst hgid
    refine ⟨?_, hcount.accepted, fun _ => ?_⟩ <;> simp [checkpoint, count, h]
  · have hsame : (v.checkpoint gid' ec).checkpointEc gid = v.checkpointEc gid :=
      Function.update_of_ne hgid _ _
    exact ⟨hsame.ge, hcount.accepted, fun hle => hsame.trans_le (hcount.ordered hle)⟩

theorem rises_merged {gid gid' : Bytes} {v : ChainView} {fs : MergeFs}
    (h : v.checkpointEc gid' ≤ fs.fsCheckpointEc) : Rises gid v (v.merged gid' fs) := by
  refine Rises.trans ?_ (rises_count gid gid' _ fs.fsEc)
  cases fs.popPk with
  | none => exact rises_checkpoint h
  | some devicePk => exact (rises_link gid gid' devicePk v _).trans (rises_checkpoint h)

end ChainView

namespace AcceptanceContext

def chainTip (ctx : AcceptanceContext) (gid devicePk : Bytes) : Bytes32 × Nat :=
  let state := (ctx.deviceChainGet gid devicePk).getD {}
  (state.lastCommit.getD .zero, state.lastEc)

def chainView (ctx : AcceptanceContext) : ChainView :=
  ⟨ctx.chainTip, ctx.lastCheckpointEc, ctx.lastAcceptedEc⟩

variable (ctx : AcceptanceContext) (gid devicePk : Bytes)

theorem chainTip_modify (f : DeviceChainState → DeviceChainState) (gid' devicePk' : Bytes) :
    (ctx.modifyDeviceChain gid devicePk f).chainTip gid' devicePk' =
      if gid' = gid ∧ devicePk' = devicePk then
        let state := f ((ctx.deviceChainGet gid devicePk).getD {})
        (state.lastCommit.getD .zero, state.lastEc)
      else ctx.chainTip gid' devicePk' := by
  have hchains : (((ctx.deviceChains.get? gid).getD .empty).get? devicePk).getD {} =
      (ctx.deviceChainGet gid devicePk).getD {} := by
    unfold deviceChainGet
    cases ctx.deviceChains.get? gid <;> rfl
  unfold chainTip modifyDeviceChain
  simp only [deviceChainGet, OrdMap.get?_insert, hchains]
  by_cases hgid : gid' = gid
  · subst hgid
    by_cases hpk : devicePk' = devicePk
    · simp [hpk]
    · simp only [if_true, Option.bind_some, OrdMap.get?_insert, hpk, and_false, if_false]
      cases ctx.deviceChains.get? gid' <;> rfl
  · simp [hgid]

theorem chainView_advance (fs : FsFields) :
    (ctx.advanceDeviceChain gid devicePk fs.fsDevCommit fs.fsEc).chainView =
      ctx.chainView.link gid devicePk fs := by
  refine ChainView.ext ?_ rfl rfl
  funext gid' devicePk'
  have htip := ctx.chainTip_modify gid devicePk
    (fun state => { state with lastCommit := some fs.fsDevCommit, lastEc := fs.fsEc }) gid' devicePk'
  rw [ChainView.tip_link]
  exact htip

theorem chainView_refreshed (ec : Option Nat) :
    (ctx.modifyDeviceChain gid devicePk fun state =>
      { state with lastPcsRefreshEc := ec }).chainView = ctx.chainView := by
  refine ChainView.ext ?_ rfl rfl
  funext gid' devicePk'
  change (ctx.modifyDeviceChain gid devicePk _).chainTip gid' devicePk' = _
  rw [chainTip_modify]
  split
  · next heq =>
      obtain ⟨rfl, rfl⟩ := heq
      rfl
  · rfl

theorem chainView_modify (f : BarrierGroupState → BarrierGroupState) :
    (ctx.modifyBarrierGroup gid f).chainView =
      { ctx.chainView with
        checkpointEc := Function.update ctx.lastCheckpointEc gid
          (f (ctx.barrierGroupStateEntry gid)).lastCheckpointEc
        acceptedEc := Function.update ctx.lastAcceptedEc gid
          (f (ctx.barrierGroupStateEntry gid)).lastAcceptedEc } := by
  refine ChainView.ext rfl ?_ ?_ <;>
  · funext gid'
    simp only [chainView, lastCheckpointEc, lastAcceptedEc, barrierGroupStateEntry_modify,
      Function.update_apply]
    split <;> rfl

theorem chainView_modify_same {f : BarrierGroupState → BarrierGroupState}
    (hf : ∀ state, (f state).lastCheckpointEc = state.lastCheckpointEc ∧
      (f state).lastAcceptedEc = state.lastAcceptedEc) :
    (ctx.modifyBarrierGroup gid f).chainView = ctx.chainView := by
  rw [chainView_modify, (hf _).1, (hf _).2]
  exact ChainView.ext rfl (Function.update_eq_self gid _) (Function.update_eq_self gid _)

theorem chainView_count (ec : Nat) :
    (ctx.recordAcceptedEc gid ec).chainView = ctx.chainView.count gid ec := by
  rw [recordAcceptedEc, chainView_modify]
  refine ChainView.ext rfl (Function.update_eq_self gid _) ?_
  exact congrArg (Function.update ctx.lastAcceptedEc gid) (max_def_lt _ _).symm

theorem chainView_checkpoint (ec : Nat) :
    (ctx.setLastCheckpointEc gid ec).chainView = ctx.chainView.checkpoint gid ec := by
  rw [setLastCheckpointEc, chainView_modify]
  refine ChainView.ext rfl rfl ?_
  exact congrArg (Function.update ctx.lastAcceptedEc gid) (max_def_lt _ _).symm

theorem chainView_barrier (header : HeaderMap) (gate : Accept.BarrierGateDecision) :
    (ctx.applyBarrierAcceptanceCommit gid header gate).chainView = ctx.chainView := by
  unfold applyBarrierAcceptanceCommit commitRefresh
  split
  · have hcommit := ctx.chainView_modify_same gid
      (f := commitBarrier gate) fun _ => ⟨rfl, rfl⟩
    split
    · split
      · rw [chainView_refreshed, hcommit]
      · exact hcommit
    · exact hcommit
  · rfl

theorem verifyDeviceChainState_tip {hL : HashL} {v : DeviceChainVerification} {u : Unit}
    (h : ctx.verifyDeviceChainState hL gid v = .ok u) :
    v.fsDevPrevCommit = (ctx.chainTip gid v.popPk).1 ∧ (ctx.chainTip gid v.popPk).2 ≤ v.fsEc := by
  simp only [verifyDeviceChainState, Except.bind_eq_ok, Except.ensure_eq_ok] at h
  obtain ⟨_, -, expected, hexpected, _, hprev, -⟩ := h
  unfold chainTip
  cases hstate : ctx.deviceChainGet gid v.popPk with
  | none =>
    simp only [hstate, expectedPrevCommit, Except.bind_eq_ok, Except.pure_eq_ok] at hexpected
    obtain ⟨_, -, _, -, rfl⟩ := hexpected
    exact ⟨hprev.symm, Nat.zero_le _⟩
  | some state =>
    simp only [hstate, expectedPrevCommit, Except.bind_eq_ok, Except.ensure_eq_ok,
      Except.pure_eq_ok] at hexpected
    obtain ⟨_, hle, _, -, rfl⟩ := hexpected
    exact ⟨hprev.symm, hle⟩

end AcceptanceContext

open AcceptanceContext

theorem chainView_stable (v : ChainView) : StableUnderSrx fun ctx => ctx.chainView = v where
  start _ h := h
  window _ _ h := h
  rhoGuard _ _ h := h
  prune _ _ h := h
  policyVersion _ _ h := h
  baseTs _ _ h := h
  acceptSeq _ h := h
  witness _ h := h
  vckCache _ _ h := h
  srxRoot ctx gid h := by
    have hsame : (ctx.ensureGroupSrxRootSw gid).chainView = ctx.chainView :=
      ctx.chainView_modify_same gid fun _ => ⟨rfl, rfl⟩
    rw [hsame, h]

namespace AnchorInput

def device (input : AnchorInput) : Option Bytes := (input.header.get? HDR_POP_PK).bind Value.asBytes

def fsEc (input : AnchorInput) : Option Nat := (input.header.get? HDR_FS_EC).bind Value.asU64

def fsDevPrevCommit (input : AnchorInput) : Option Bytes32 :=
  (headerBytes32OrFreeze input.header HDR_FS_DEV_PREV_COMMIT freezeFsJoinMissing).toOption

def fsDevCommit (input : AnchorInput) : Option Bytes32 :=
  (headerBytes32OrFreeze input.header HDR_FS_DEV_COMMIT freezeFsJoinMissing).toOption

end AnchorInput

structure Links (input : AnchorInput) (v : ChainView) (devicePk : Bytes) (fs : FsFields) : Prop where
  device : input.device = some devicePk
  ec : input.fsEc = some fs.fsEc
  prev : input.fsDevPrevCommit = some (v.tip input.parts.gid devicePk).1
  commit : input.fsDevCommit = some fs.fsDevCommit
  le : (v.tip input.parts.gid devicePk).2 ≤ fs.fsEc

section Pipelines
variable {codec : AnchorCodec} {verifiers : AnchorProofs} {input : AnchorInput}
  {ctx after : AcceptanceContext} {outcome : AcceptanceOutcome} {e : AcceptanceError}

structure StagedJoin where
  gate : Accept.BarrierGateDecision
  mhNote : Option String
  now : Nat
  checked : JoinChecked

def joinStage (codec : AnchorCodec) (verifiers : AnchorProofs) (input : AnchorInput) :
    AcceptM StagedJoin := do
  modify (·.startAnchor)
  let now ← check fun ctx => pure ctx.clock.last
  let gate ← check (anchorGate codec input)
  let c ← joinChecks codec verifiers input.parts input.header input.weEpochIdClaim
    gate.1.barrierUpdateDigest now
  check fun ctx => ctx.verifyDeviceChainState codec.hL input.parts.gid
    (c.fs.verification c.seed.popPk gate.1.barrierUpdateDigest)
  pure ⟨gate.1, gate.2, now, c⟩

def joinFinish (codec : AnchorCodec) (input : AnchorInput) (st : StagedJoin) :
    AcceptM AcceptanceOutcome := do
  let outcome ← joinCommit codec input.parts input.header st.mhNote st.now st.checked
  modify (·.applyBarrierAcceptanceCommit input.parts.gid input.header st.gate)
  pure outcome

theorem acceptAnchor_join_eq (hjoin : isMergeAnchor input.header = false) :
    acceptAnchor codec verifiers input =
      joinStage codec verifiers input >>= joinFinish codec input := by
  simp only [acceptAnchor, acceptAnchorPipeline, hjoin, Bool.false_eq_true, if_false,
    acceptAnchorJoin, joinStage, joinFinish, bind_assoc, pure_bind]

def FindsRoom (codec : AnchorCodec) (verifiers : AnchorProofs) (input : AnchorInput)
    (ctx : AcceptanceContext) : Prop :=
  match joinStage codec verifiers input ctx with
  | .ok st staged =>
    let wid := st.checked.ids.wid.val
    (staged.mhWindow.prune wid st.now).activeHeads wid < staged.mhWindow.hMax
  | .error _ _ => True

instance : Decidable (FindsRoom codec verifiers input ctx) := by
  unfold FindsRoom
  split <;> infer_instance

theorem joinStage_keeps : Keeps chainView (joinStage codec verifiers input) := by
  refine EStateM.keeps_iff_preserves.mpr fun v => ?_
  have h := chainView_stable v
  refine .bind (.modify h.start) fun _ => .bind (.check _) fun _ => .bind (.check _) fun _ => ?_
  exact .bind (h.joinChecks codec verifiers _ _ _ _ _) fun _ => .bind (.check _) fun _ => .pure _

structure JoinRead (codec : AnchorCodec) (header : HeaderMap) (c : JoinChecked) : Prop where
  popPk : (header.get? HDR_POP_PK).bind Value.asBytes = some c.seed.popPk
  ec : headerU64OrFreeze header HDR_FS_EC freezeFsJoinMissing = .ok c.fs.fsEc
  prev : headerBytes32OrFreeze header HDR_FS_DEV_PREV_COMMIT freezeFsJoinMissing =
    .ok c.fs.fsDevPrevCommit
  commit : headerBytes32OrFreeze header HDR_FS_DEV_COMMIT freezeFsJoinMissing = .ok c.fs.fsDevCommit
  crsId : ∃ crsId, (header.get? HDR_CRS_ID).bind codec.textOf = some crsId
  paramsId : ∃ paramsId, (header.get? HDR_PARAMS_ID).bind codec.textOf = some paramsId

theorem joinChecks_read {parts : AnchorInstanceParts} {header : HeaderMap} {claim digest : Bytes32}
    {now : Nat} {c : JoinChecked}
    (h : joinChecks codec verifiers parts header claim digest now ctx = .ok c after) :
    JoinRead codec header c := by
  simp only [joinChecks, EStateM.bind_eq_ok, EStateM.check_eq_ok, EStateM.pure_eq_ok] at h
  obtain ⟨_, _, -, _, _, -, seed, _, ⟨hseed, -⟩, fs, _, hfs, _, _, -, _, _, -, _, _, -, _, _, -, _, _,
    -, _, _, -, _, _, -, _, _, -, _, _, ⟨hproofs, -⟩, rfl, -⟩ := h
  simp only [joinSeed, headerBytesOrFreeze, headerBytesOr, Except.bind_eq_ok, Except.ofOption_eq_ok,
    Except.pure_eq_ok] at hseed
  obtain ⟨_, -, _, -, _, -, _, -, _, -, popPk, hpopPk, rfl⟩ := hseed
  simp only [joinFs, EStateM.bind_eq_ok, EStateM.check_eq_ok, EStateM.pure_eq_ok] at hfs
  obtain ⟨_, _, -, _, _, -, _, _, ⟨hec, -⟩, _, _, -, _, _, -, _, _, ⟨hprev, -⟩, _, _, ⟨hcommit, -⟩,
    _, _, -, _, _, -, rfl, -⟩ := hfs
  simp only [joinProofs, AnchorCodec.headerStringOrFreeze, Except.bind_eq_ok,
    Except.ofOption_eq_ok] at hproofs
  obtain ⟨crsId, hcrs, paramsId, hparams, -⟩ := hproofs
  exact ⟨hpopPk, hec, hprev, hcommit, ⟨crsId, hcrs⟩, paramsId, hparams⟩

theorem joinStage_read {st : StagedJoin} (h : joinStage codec verifiers input ctx = .ok st after) :
    JoinRead codec input.header st.checked ∧
      Links input ctx.chainView st.checked.seed.popPk st.checked.fs := by
  have hview : after.chainView = ctx.chainView := joinStage_keeps.of_ok h
  simp only [joinStage, EStateM.modify_bind_eq_ok, EStateM.check_bind_eq_ok] at h
  obtain ⟨_, -, gate, -, h⟩ := h
  simp only [EStateM.bind_eq_ok, EStateM.check_eq_ok, EStateM.pure_eq_ok] at h
  obtain ⟨c, _, hchecks, _, _, ⟨hverify, rfl⟩, rfl, rfl⟩ := h
  obtain ⟨hprev, hle⟩ := verifyDeviceChainState_tip _ _ hverify
  have hread := joinChecks_read hchecks
  rw [← hview]
  refine ⟨hread, hread.popPk, Except.ofOption_eq_ok.mp hread.ec, ?_, ?_, hle⟩
  · rw [AnchorInput.fsDevPrevCommit, hread.prev]
    exact congrArg some hprev
  · rw [AnchorInput.fsDevCommit, hread.commit]
    rfl

theorem joinFinish_view (st : StagedJoin) (staged : AcceptanceContext) :
    ((joinFinish codec input st).final staged).chainView =
      (staged.chainView.link input.parts.gid st.checked.seed.popPk st.checked.fs).count
        input.parts.gid st.checked.fs.fsEc := by
  have hbarrier : Keeps chainView (modify (·.applyBarrierAcceptanceCommit input.parts.gid input.header
      st.gate) : AcceptM Unit) := .modify fun ctx => ctx.chainView_barrier _ _ _
  have hwindow : ∀ record, Keeps chainView (onWindow (MultiHeadWindow.acceptHead
      st.checked.ids.wid.val record st.now)) := fun _ => .zoom fun _ _ => rfl
  simp only [joinFinish, joinCommit, bind_assoc]
  rw [EStateM.final_modify_bind, EStateM.final_modify_bind, ← chainView_advance, ← chainView_count]
  refine Keeps.bind (hwindow _) (fun _ => ?_) _
  refine .bind (.check _) fun _ => .bind (.check _) fun _ => .bind (.modify fun _ => rfl) fun _ => ?_
  exact .bind (.pure _) fun _ => .bind hbarrier fun _ => .pure _

theorem joinFinish_error {st : StagedJoin} {staged : AcceptanceContext}
    (hstage : joinStage codec verifiers input ctx = .ok st staged)
    (h : joinFinish codec input st staged = .error e after) :
    ¬ FindsRoom codec verifiers input ctx := by
  obtain ⟨hread, -⟩ := joinStage_read hstage
  obtain ⟨⟨_, hcrs⟩, _, hparams⟩ := And.intro hread.crsId hread.paramsId
  obtain ⟨crsId, hcrs⟩ := headerValueBytes_of_textOf freezeMsphfCrsInvalid hcrs
  obtain ⟨paramsId, hparams⟩ := headerValueBytes_of_textOf freezeParamsIdInvalid hparams
  intro hroom
  rw [FindsRoom, hstage] at hroom
  simp only [joinFinish, joinCommit, onWindow, EStateM.bind_eq_error, EStateM.modify_ne_error,
    EStateM.modify_eq_ok, EStateM.pure_ne_error, EStateM.check_eq_error, EStateM.check_eq_ok,
    EStateM.zoom_eq_error, hcrs, hparams, reduceCtorEq, false_and, false_or, and_false, exists_false,
    or_false] at h
  obtain ⟨_, _, rfl, _, _, rfl, _, _, hfull, -⟩ := h
  have hpushed : ∀ record, MultiHeadWindow.acceptHead st.checked.ids.wid.val record st.now
      staged.mhWindow = .ok () _ := fun _ => if_neg (Nat.not_le.mpr hroom)
  cases (hpushed _).symm.trans hfull

def mergeSeat (codec : AnchorCodec) (input : AnchorInput) (st : StagedMerge)
    (srxRootSwBefore : Bytes32) : AcceptM Unit := do
  let c := st.checked
  acceptMergeHead c.pivot.widOld c.ids.wid.val st.heads (c.headRecord input.header st.fs st.now) st.now
  modify fun ctx =>
    ctx.setPivotStore (ctx.pivotStore.retire input.parts.gid c.roots.parentRoot st.heads)
  let crsId ← check fun _ => codec.headerValueBytes input.header HDR_CRS_ID freezeMsphfCrsInvalid
  let paramsId ← check fun _ =>
    codec.headerValueBytes input.header HDR_PARAMS_ID freezeParamsIdInvalid
  let srx ← check (mergeSrxFields input.parts input.header (st.required input.header) srxRootSwBefore)
  modify (commitSrxRoot input.parts (st.required input.header) srx.srxRootSw)
  modify fun ctx => ctx.setPivotStore (ctx.pivotStore.insert
    (c.parity codec input.parts input.header st.fs crsId paramsId srx) st.now)

theorem stagedCommit_eq (st : StagedMerge) (root : Bytes32) :
    stagedCommit codec input st root = (do
      mergeSeat codec input st root
      modify (commitMergeDevice input.parts st.fs)
      modify (·.setLastCheckpointEc input.parts.gid st.fs.fsCheckpointEc)
      modify (·.recordAcceptedEc input.parts.gid st.fs.fsEc)
      pure (st.checked.outcome input.header st.fs st.heads st.mhNote st.now)) := by
  simp only [stagedCommit, mergeCommit, mergeSeat, bind_assoc]

theorem mergeSeat_keeps (st : StagedMerge) (root : Bytes32) :
    Keeps chainView (mergeSeat codec input st root) := by
  have hroot : ∀ required root (ctx : AcceptanceContext),
      (commitSrxRoot input.parts required root ctx).chainView = ctx.chainView := by
    intro required root ctx
    unfold commitSrxRoot
    split
    · exact ctx.chainView_modify_same input.parts.gid fun _ => ⟨rfl, rfl⟩
    · rfl
  have hwindow : ∀ x, Keeps chainView (onWindow x) := fun _ => .zoom fun _ _ => rfl
  refine .bind (.bind (.check _) fun _ => hwindow _) fun _ => .bind (.modify fun _ => rfl) fun _ => ?_
  refine .bind (.check _) fun _ => .bind (.check _) fun _ => .bind (.check _) fun _ => ?_
  exact .bind (.modify (hroot _ _)) fun _ => .modify fun _ => rfl

theorem stagedCommit_error_view {st : StagedMerge} {root : Bytes32} {related : AcceptanceContext}
    (h : stagedCommit codec input st root related = .error e after) :
    after.chainView = related.chainView := by
  rw [stagedCommit_eq] at h
  simp only [EStateM.bind_eq_error, EStateM.modify_ne_error, EStateM.pure_ne_error, and_false,
    exists_false, or_false] at h
  exact EStateM.KeepsAt.of_error (mergeSeat_keeps st root related) h

theorem commitMergeDevice_view (fs : MergeFs) (ctx : AcceptanceContext) :
    (commitMergeDevice input.parts fs ctx).chainView =
      match fs.popPk with
      | some devicePk => ctx.chainView.link input.parts.gid devicePk fs.toFsFields
      | none => ctx.chainView := by
  unfold commitMergeDevice
  cases fs.popPk with
  | none => rfl
  | some devicePk => exact ctx.chainView_advance input.parts.gid devicePk fs.toFsFields

theorem stagedCommit_view {st : StagedMerge} {root : Bytes32} {related : AcceptanceContext}
    (h : stagedCommit codec input st root related = .ok outcome after) :
    after.chainView = related.chainView.merged input.parts.gid st.fs := by
  rw [stagedCommit_eq] at h
  simp only [EStateM.bind_eq_ok, EStateM.modify_eq_ok, EStateM.pure_eq_ok] at h
  obtain ⟨_, seated, hseat, _, _, rfl, _, _, rfl, _, _, rfl, -, rfl⟩ := h
  have hkeep : seated.chainView = related.chainView := (mergeSeat_keeps st root).of_ok hseat
  rw [chainView_count, chainView_checkpoint, commitMergeDevice_view, hkeep]
  rfl

theorem mergeFs_links {fs : MergeFs}
    (h : mergeFs codec input.parts input.header ctx = .ok fs after) :
    fs.popPk = input.device ∧
      ∀ devicePk ∈ fs.popPk, Links input ctx.chainView devicePk fs.toFsFields := by
  have hview : after.chainView = ctx.chainView :=
    ((chainView_stable ctx.chainView).mergeFs codec _ _).of_ok rfl h
  rw [← hview]
  simp only [mergeFs, EStateM.bind_eq_ok, EStateM.check_eq_ok, EStateM.pure_eq_ok] at h
  obtain ⟨_, _, -, _, _, -, _, _, -, read, _, ⟨hread, rfl⟩, _, _, ⟨hverify, rfl⟩, rfl, rfl⟩ := h
  simp only [readMergeFs, Except.bind_eq_ok, Except.pure_eq_ok] at hread
  obtain ⟨_, -, _, hec, _, -, _, -, _, -, _, hprevRead, _, hcommitRead, _, -, _, -, rfl⟩ := hread
  refine ⟨rfl, fun devicePk hdevice => ?_⟩
  rw [verifyMergeDevice, show _ = some devicePk from hdevice] at hverify
  obtain ⟨hprev, hle⟩ := verifyDeviceChainState_tip _ _ hverify
  refine ⟨hdevice, Except.ofOption_eq_ok.mp hec, ?_, ?_, hle⟩
  · rw [AnchorInput.fsDevPrevCommit, hprevRead]
    exact congrArg some hprev
  · rw [AnchorInput.fsDevCommit, hcommitRead]
    rfl

theorem mergeStage_links {st : StagedMerge} (h : mergeStage codec input ctx = .ok st after) :
    after.chainView = ctx.chainView ∧ st.fs.popPk = input.device ∧
      (∀ devicePk ∈ st.fs.popPk, Links input ctx.chainView devicePk st.fs.toFsFields) ∧
      ctx.lastCheckpointEc input.parts.gid ≤ st.fs.fsCheckpointEc := by
  have hview : after.chainView = ctx.chainView :=
    ((chainView_stable ctx.chainView).mergeStage codec input).of_ok rfl h
  have hstaged := mergeStage_staged h
  obtain ⟨_, hfs, -⟩ := hstaged.checks
  obtain ⟨hdevice, hlinks⟩ := mergeFs_links hfs
  have hcheckpoint := hstaged.checkpoint
  simp only [checkCheckpoint, Except.bind_eq_ok, Except.ensure_eq_ok] at hcheckpoint
  obtain ⟨_, -, _, -, _, -, _, hle, -⟩ := hcheckpoint
  have hec : after.lastCheckpointEc input.parts.gid = ctx.lastCheckpointEc input.parts.gid :=
    congrFun (congrArg ChainView.checkpointEc hview) input.parts.gid
  exact ⟨hview, hdevice, hlinks, hec ▸ hle⟩

end Pipelines

inductive ChainMove (codec : AnchorCodec) (verifiers : AnchorProofs) (c : AnchorCall) : Prop
  | none (refused : ¬ c.Accepted) (kept : c.after.chainView = c.before.chainView)
  | join (devicePk : Bytes) (fs : FsFields) (links : Links c.input c.before.chainView devicePk fs)
      (moved : c.after.chainView = (c.before.chainView.link c.input.parts.gid devicePk fs).count
        c.input.parts.gid fs.fsEc)
      (refused : ¬ c.Accepted → ¬ FindsRoom codec verifiers c.input c.before)
  | merge (fs : MergeFs) (accepted : c.Accepted) (device : fs.popPk = c.input.device)
      (links : ∀ devicePk ∈ fs.popPk,
        Links c.input c.before.chainView devicePk fs.toFsFields)
      (moved : c.after.chainView = c.before.chainView.merged c.input.parts.gid fs)
      (checkpoint : c.before.lastCheckpointEc c.input.parts.gid ≤ fs.fsCheckpointEc)

section Calls
variable {codec : AnchorCodec} {verifiers : AnchorProofs}

theorem callAnchor_join_move {ctx : AcceptanceContext} {input : AnchorInput}
    (hjoin : isMergeAnchor input.header = false) :
    ChainMove codec verifiers (callAnchor codec verifiers ctx input) := by
  have hkeep := @joinStage_keeps codec verifiers input
  cases hstage : joinStage codec verifiers input ctx with
  | error e after =>
    have hrun : acceptAnchor codec verifiers input ctx = .error e after := by
      rw [acceptAnchor_join_eq hjoin, EStateM.bind_of_error hstage]
    have hview : after.chainView = ctx.chainView := EStateM.KeepsAt.of_error (hkeep ctx) hstage
    refine .none ?_ ?_
    · simp [AnchorCall.Accepted, callAnchor, EStateM.value, hrun, Except.isOk, Except.toBool]
    · rw [callAnchor, EStateM.final_of_error hrun]
      exact hview
  | ok st staged =>
    obtain ⟨-, hlinks⟩ := joinStage_read hstage
    have hview : staged.chainView = ctx.chainView := hkeep.of_ok hstage
    have hfinal : (acceptAnchor codec verifiers input).final ctx =
        (joinFinish codec input st).final staged := by
      rw [acceptAnchor_join_eq hjoin, EStateM.final_bind_of_ok hstage]
    refine .join st.checked.seed.popPk st.checked.fs hlinks ?_ fun hrefused => ?_
    · change ((acceptAnchor codec verifiers input).final ctx).chainView = _
      rw [hfinal, joinFinish_view, hview]
      rfl
    · obtain ⟨e, hrun⟩ := callAnchor_error hrefused
      rw [acceptAnchor_join_eq hjoin, EStateM.bind_of_ok hstage] at hrun
      exact joinFinish_error hstage hrun

theorem callAnchor_merge_move {ctx : AcceptanceContext} {input : AnchorInput}
    (hmerge : isMergeAnchor input.header = true) :
    ChainMove codec verifiers (callAnchor codec verifiers ctx input) := by
  have hsrxView : ∀ st, Keeps chainView (stagedSrx codec verifiers input st) := fun st =>
    EStateM.keeps_iff_preserves.mpr fun v => (chainView_stable v).mergeSrx codec verifiers _ _ _ _ _ _ _
  obtain ⟨outcome, hrun, haccepted⟩ | ⟨e, hrun, hrefused⟩ := @callAnchor_run codec verifiers ctx input
  · obtain ⟨st, staged, related, committed, root, hdone⟩ := acceptAnchor_merge_done hmerge hrun
    obtain ⟨hview, hdevice, hlinks, hcheckpoint⟩ := mergeStage_links hdone.stage
    refine .merge st.fs haccepted hdevice hlinks ?_ hcheckpoint
    have hrelated : related.chainView = staged.chainView := (hsrxView st).of_ok hdone.srx
    have hcommitted := stagedCommit_view hdone.commit
    rw [← hdone.barrier, chainView_barrier, hcommitted]
    exact congrArg (ChainView.merged · input.parts.gid st.fs) (hrelated.trans hview)
  · refine .none hrefused ?_
    cases acceptAnchor_merge_refused hmerge hrun with
    | stage failed => exact ((chainView_stable ctx.chainView).mergeStage codec input).of_error rfl failed
    | srx stage failed =>
      obtain ⟨hview, -⟩ := mergeStage_links stage
      exact (EStateM.KeepsAt.of_error (hsrxView _ _) failed).trans hview
    | rollup stage srx failed =>
      obtain ⟨hview, -⟩ := mergeStage_links stage
      exact ((hsrxView _).of_ok srx).trans hview
    | commit stage srx rolled failed =>
      obtain ⟨hview, -⟩ := mergeStage_links stage
      exact (stagedCommit_error_view failed).trans (((hsrxView _).of_ok srx).trans hview)

theorem callAnchor_move (ctx : AcceptanceContext) (input : AnchorInput) :
    ChainMove codec verifiers (callAnchor codec verifiers ctx input) := by
  cases hmerge : isMergeAnchor input.header with
  | false => exact callAnchor_join_move hmerge
  | true => exact callAnchor_merge_move hmerge

end Calls

structure AnchorCall.AcceptedFrom (c : AnchorCall) (gid devicePk : Bytes) : Prop where
  accepted : c.Accepted
  group : c.input.parts.gid = gid
  device : c.input.device = some devicePk

instance (c : AnchorCall) (gid devicePk : Bytes) : Decidable (c.AcceptedFrom gid devicePk) :=
  decidable_of_iff (c.Accepted ∧ c.input.parts.gid = gid ∧ c.input.device = some devicePk)
    ⟨fun ⟨ha, hg, hd⟩ => ⟨ha, hg, hd⟩, fun h => ⟨h.accepted, h.group, h.device⟩⟩

def lastAccepted (gid devicePk : Bytes) (done : List AnchorCall) : Option AnchorInput :=
  ((done.filter fun c => c.AcceptedFrom gid devicePk).getLast?).map (·.input)

def TipOf : Option AnchorInput → Bytes32 × Nat → Prop
  | none, tip => tip = (.zero, 0)
  | some input, tip => input.fsDevCommit = some tip.1 ∧ input.fsEc = some tip.2

structure DeviceChained (gid devicePk : Bytes) (done : List AnchorCall) (c : AnchorCall) : Prop where
  first : c.AcceptedFrom gid devicePk → lastAccepted gid devicePk done = none →
    c.input.fsDevPrevCommit = some .zero
  next : ∀ prev ∈ lastAccepted gid devicePk done, c.AcceptedFrom gid devicePk →
    prev.fsDevCommit.isSome = true ∧ c.input.fsDevPrevCommit = prev.fsDevCommit ∧
      ∃ ec ec', prev.fsEc = some ec ∧ c.input.fsEc = some ec' ∧ ec ≤ ec'

def AnchorCall.JoinsWithRoom (codec : AnchorCodec) (verifiers : AnchorProofs) (gid devicePk : Bytes)
    (c : AnchorCall) : Prop :=
  c.input.parts.gid = gid → c.input.device = some devicePk →
    FindsRoom codec verifiers c.input c.before

instance (codec : AnchorCodec) (verifiers : AnchorProofs) (gid devicePk : Bytes) (c : AnchorCall) :
    Decidable (c.JoinsWithRoom codec verifiers gid devicePk) :=
  inferInstanceAs (Decidable (_ → _ → _))

section Runs
variable {codec : AnchorCodec} {verifiers : AnchorProofs} {gid devicePk : Bytes} {c : AnchorCall}

theorem merged_tip {v : ChainView} {gid' : Bytes} {fs : MergeFs} :
    (v.merged gid' fs).tip gid devicePk =
      if gid = gid' ∧ fs.popPk = some devicePk then (fs.fsDevCommit, fs.fsEc)
      else v.tip gid devicePk := by
  unfold ChainView.merged
  cases fs.popPk with
  | none => simp [ChainView.count, ChainView.checkpoint]
  | some pk =>
    change (v.link gid' pk fs.toFsFields).tip gid devicePk = _
    rw [ChainView.tip_link]
    simp [eq_comm]

theorem ChainMove.tip_accepted (h : ChainMove codec verifiers c)
    (haccepted : c.AcceptedFrom gid devicePk) :
    ∃ fs, Links c.input c.before.chainView devicePk fs ∧
      c.after.chainTip gid devicePk = (fs.fsDevCommit, fs.fsEc) := by
  obtain ⟨haccepted, rfl, hdevice⟩ := haccepted
  cases h with
  | none refused => exact absurd haccepted refused
  | join pk fs links moved =>
    obtain rfl := Option.some.inj (links.device.symm.trans hdevice)
    have htip := congrFun (congrFun (congrArg ChainView.tip moved) c.input.parts.gid) pk
    exact ⟨fs, links, htip.trans ((ChainView.tip_link _ _ _ _ _ _).trans (if_pos ⟨rfl, rfl⟩))⟩
  | merge fs _ device links moved =>
    have hpk := device.trans hdevice
    have htip := congrFun (congrFun (congrArg ChainView.tip moved) c.input.parts.gid) devicePk
    exact ⟨fs.toFsFields, links devicePk hpk, htip.trans (merged_tip.trans (if_pos ⟨rfl, hpk⟩))⟩

theorem ChainMove.tip_kept (h : ChainMove codec verifiers c) (hnot : ¬ c.AcceptedFrom gid devicePk)
    (hroom : c.JoinsWithRoom codec verifiers gid devicePk) :
    c.after.chainTip gid devicePk = c.before.chainTip gid devicePk := by
  cases h with
  | none _ kept => exact congrFun (congrFun (congrArg ChainView.tip kept) gid) devicePk
  | join pk fs links moved refused =>
    have htip := congrFun (congrFun (congrArg ChainView.tip moved) gid) devicePk
    refine htip.trans ((ChainView.tip_link _ _ _ _ _ _).trans (if_neg ?_))
    rintro ⟨rfl, rfl⟩
    -- a join of the device that is not accepted was refused by the window
    exact refused (fun haccepted => hnot ⟨haccepted, rfl, links.device⟩) (hroom rfl links.device)
  | merge fs accepted device links moved =>
    have htip := congrFun (congrFun (congrArg ChainView.tip moved) gid) devicePk
    refine htip.trans (merged_tip.trans (if_neg ?_))
    rintro ⟨rfl, hpk⟩
    exact hnot ⟨accepted, rfl, device.symm.trans hpk⟩

theorem ChainMove.rises (h : ChainMove codec verifiers c) (gid : Bytes) :
    ChainView.Rises gid c.before.chainView c.after.chainView := by
  cases h with
  | none _ kept => exact kept ▸ .refl gid _
  | join pk fs links moved =>
    rw [moved]
    exact (ChainView.rises_link _ _ _ _ _).trans (ChainView.rises_count _ _ _ _)
  | merge fs accepted device links moved checkpoint =>
    rw [moved]
    exact ChainView.rises_merged checkpoint

theorem lastAccepted_append (done : List AnchorCall) (c : AnchorCall) :
    lastAccepted gid devicePk (done ++ [c]) =
      if c.AcceptedFrom gid devicePk then some c.input else lastAccepted gid devicePk done := by
  unfold lastAccepted
  rw [List.filter_append]
  split
  · next h => simp [h]
  · next h => simp [h]

/-- As long as the joins of the device find room, the tip of its chain is the
last anchor of it that was accepted. -/
theorem tipOf_step {done : List AnchorCall} {ctx : AcceptanceContext} (input : AnchorInput)
    (h : TipOf (lastAccepted gid devicePk done) (ctx.chainTip gid devicePk))
    (hroom : (callAnchor codec verifiers ctx input).JoinsWithRoom codec verifiers gid devicePk) :
    TipOf (lastAccepted gid devicePk (done ++ [callAnchor codec verifiers ctx input]))
      ((callAnchor codec verifiers ctx input).after.chainTip gid devicePk) := by
  have hmove := @callAnchor_move codec verifiers ctx input
  rw [lastAccepted_append]
  split
  · next haccepted =>
      obtain ⟨fs, hlinks, htip⟩ := hmove.tip_accepted haccepted
      rw [htip]
      exact ⟨hlinks.commit, hlinks.ec⟩
  · next hnot =>
      rw [hmove.tip_kept hnot hroom]
      exact h

theorem deviceChained_of_tip {done : List AnchorCall} {ctx : AcceptanceContext} (input : AnchorInput)
    (h : TipOf (lastAccepted gid devicePk done) (ctx.chainTip gid devicePk)) :
    DeviceChained gid devicePk done (callAnchor codec verifiers ctx input) := by
  have hmove := @callAnchor_move codec verifiers ctx input
  constructor
  · intro haccepted hnone
    obtain ⟨fs, hlinks, -⟩ := hmove.tip_accepted haccepted
    obtain ⟨-, rfl, -⟩ := haccepted
    rw [hnone] at h
    exact hlinks.prev.trans (congrArg (some ·.1) h)
  · intro prev hprev haccepted
    obtain ⟨fs, hlinks, -⟩ := hmove.tip_accepted haccepted
    obtain ⟨-, rfl, -⟩ := haccepted
    rw [show lastAccepted _ devicePk done = some prev from hprev] at h
    obtain ⟨hcommit, hec⟩ := h
    refine ⟨by rw [hcommit]; rfl, hlinks.prev.trans hcommit.symm, ?_⟩
    exact ⟨_, fs.fsEc, hec, hlinks.ec, hlinks.le⟩

end Runs

section Narrow

def devicePk (device : Byte) : Bytes := List.replicate 2592 device

def firstCommit (device : Byte) : Bytes32 :=
  AcceptanceContext.fsDevChain sumHash ⟨devicePk device, 5, .zero, .zero, 0, .zero⟩

def continuedJoin (device : Byte) : AnchorInput :=
  { twin.join device with
    header := ((twin.join device).header.insert HDR_FS_DEV_PREV_COMMIT
      (.bytes (firstCommit device).val)).insert HDR_FS_DEV_COMMIT
        (.bytes (AcceptanceContext.fsDevChain sumHash
          ⟨devicePk device, 7, firstCommit device, .zero, 0, .zero⟩).val) }

def rivalJoin : AnchorInput :=
  let sig := List.replicate 4627 1
  let rho := sampleCodec.deriveRhoCommitFromPop sig
    (sampleCodec.xkHash ⟨headA.parts, headA.weid, headA.seedCtx, none⟩)
  { headA.join 11 with
    header := (((headA.join 11).header.insert HDR_POP_SIG (.bytes sig)).insert HDR_RHO_COMMIT
      (.bytes rho.val)).insert HDR_SEED_BUNDLE_COMMIT
        (.bytes (sampleCodec.computeSeedBundleCommit headA.seedCtx rho [1] [] .zero).val) }

def onePlace : AcceptanceContext := (sampleContext 0).setMhWindow (.new 1 120)

def firstCall : AnchorCall := callAnchor sampleCodec sampleProofs onePlace (headA.join 10)

def secondCall : AnchorCall := callAnchor sampleCodec sampleProofs firstCall.after (continuedJoin 10)

def rivalCall : AnchorCall := callAnchor sampleCodec sampleProofs firstCall.after rivalJoin

def continuedCall : AnchorCall := callAnchor sampleCodec sampleProofs rivalCall.after (continuedJoin 11)

end Narrow

end CityG
