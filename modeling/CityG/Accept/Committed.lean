import CityG.Accept.Frames

/-!
# What an accepted anchor leaves of the barrier

Only the barrier commit writes the fields that the gate reads, so an accepted
anchor without update leaves them as they were. In a group with a barrier the
updates are carried by merges, and every merge carries one.
-/

namespace CityG

open Accept (BarrierGateDecision)

def BarrierGroupState.gateFields (state : BarrierGroupState) : BarrierGroupState :=
  { state with lastCheckpointEc := 0, lastAcceptedEc := 0, srxRootSw := none }

def gateView (gid : Bytes) (ctx : AcceptanceContext) : BarrierGroupState :=
  (ctx.barrierGroupStateEntry gid).gateFields

namespace AcceptanceContext

theorem barrierGroupStateEntry_modify (ctx : AcceptanceContext) (gid gid' : Bytes)
    (f : BarrierGroupState → BarrierGroupState) :
    (ctx.modifyBarrierGroup gid f).barrierGroupStateEntry gid' =
      if gid' = gid then f (ctx.barrierGroupStateEntry gid) else ctx.barrierGroupStateEntry gid' := by
  unfold modifyBarrierGroup
  simp only [barrierGroupStateEntry, barrierGroupState, OrdMap.get?_insert]
  split <;> simp_all

theorem gateView_modify (ctx : AcceptanceContext) (gid gid' : Bytes)
    {f : BarrierGroupState → BarrierGroupState}
    (hf : ∀ state, (f state).gateFields = state.gateFields) :
    gateView gid' (ctx.modifyBarrierGroup gid f) = gateView gid' ctx := by
  simp only [gateView, barrierGroupStateEntry_modify]
  split
  · next heq =>
      subst heq
      exact hf _
  · rfl

end AcceptanceContext

theorem gateView_blind (gid : Bytes) : BlindToCommits (gateView gid) where
  start _ := rfl
  window _ _ := rfl
  rhoGuard _ _ := rfl
  vckCache _ _ := rfl
  pivotStore _ _ := rfl
  policyVersion _ _ := rfl
  baseTs _ _ := rfl
  acceptSeq _ := rfl
  witness _ := rfl
  deviceChain _ _ _ _ := rfl
  srxRoot ctx gid' := ctx.gateView_modify gid' gid fun _ => rfl
  acceptedEc ctx gid' _ := ctx.gateView_modify gid' gid fun _ => rfl
  checkpointEc ctx gid' _ := ctx.gateView_modify gid' gid fun _ => rfl
  srxRootSet ctx gid' _ := ctx.gateView_modify gid' gid fun _ => rfl

def Accept.BarrierGateDecision.commit (gate : BarrierGateDecision) (state : BarrierGroupState) :
    BarrierGroupState :=
  if gate.barrierUpdateReason.isSome then AcceptanceContext.commitBarrier gate state else state

theorem gateView_applyBarrierAcceptanceCommit (ctx : AcceptanceContext) (gid gid' : Bytes)
    (header : HeaderMap) (gate : BarrierGateDecision) :
    gateView gid' (ctx.applyBarrierAcceptanceCommit gid header gate) =
      if gid' = gid then (gate.commit (ctx.barrierGroupStateEntry gid)).gateFields
      else gateView gid' ctx := by
  unfold AcceptanceContext.applyBarrierAcceptanceCommit BarrierGateDecision.commit
  split
  · rw [(gateView_blind gid').commitRefresh, gateView,
      AcceptanceContext.barrierGroupStateEntry_modify]
    split <;> rfl
  · split
    · next heq => rw [heq, gateView]
    · rfl

theorem commit_gateFields (gate : BarrierGateDecision) {state state' : BarrierGroupState}
    (h : state.gateFields = state'.gateFields) :
    (gate.commit state).gateFields = (gate.commit state').gateFields := by
  unfold BarrierGateDecision.commit
  split
  · simp only [BarrierGroupState.gateFields, BarrierGroupState.mk.injEq] at h
    simp only [AcceptanceContext.commitBarrier, BarrierGroupState.gateFields, h]
  · exact h

structure JoinHeader (header : HeaderMap) : Prop where
  not_merge : isMergeAnchor header = false
  leafPk : ∃ ek, (header.get? HDR_BARRIER_LEAF_PK).bind Value.asBytes = some ek ∧ ek.length = 1184
  no_srx : HDR_SRX_PAYLOAD ∉ header

structure MergeHeader (header : HeaderMap) : Prop where
  merge : isMergeAnchor header = true
  reason : HDR_BARRIER_UPDATE_REASON ∈ header
  no_leafPk : HDR_BARRIER_LEAF_PK ∉ header

variable {codec : AnchorCodec} {parts : AnchorInstanceParts} {header : HeaderMap}
  {ctx after : AcceptanceContext} {verifiers : AnchorProofs} {mhNote : Option String} {now : Nat}
  {outcome : AcceptanceOutcome}

theorem joinPrelude_header {roots : AnchorRoots} (hmerge : isMergeAnchor header = false)
    (h : joinPrelude codec parts header ctx = .ok roots) : JoinHeader header := by
  simp only [joinPrelude, ensureJoinSrxKeysAbsent, headerBytesOr, Except.bind_eq_ok,
    Except.ensure_eq_ok, Except.ofOption_eq_ok] at h
  obtain ⟨_, _, _, hsrx, ek, hek, _, hlen, _⟩ := h
  exact ⟨hmerge, ⟨ek, hek, hlen⟩, hsrx _ (by decide)⟩

theorem acceptAnchorJoin_header {claim digest : Bytes32} (hmerge : isMergeAnchor header = false)
    (h : acceptAnchorJoin codec verifiers parts claim header mhNote digest now ctx =
      .ok outcome after) : JoinHeader header := by
  simp only [acceptAnchorJoin, joinChecks, EStateM.bind_eq_ok, EStateM.check_eq_ok] at h
  obtain ⟨_, _, ⟨_, _, ⟨hprelude, _⟩, _⟩, _⟩ := h
  exact joinPrelude_header hmerge hprelude

theorem mem_of_headerU64 {key : Nat} {freeze : FreezeError} {n : Nat}
    (h : headerU64OrFreeze header key freeze = .ok n) : key ∈ header := by
  simp only [headerU64OrFreeze, Except.ofOption_eq_ok, Option.bind_eq_some_iff] at h
  obtain ⟨value, hvalue, _⟩ := h
  exact OrdMap.mem_iff.mpr ⟨value, hvalue⟩

theorem acceptAnchorMerge_header {claim : Bytes32} {mhHeads : List Bytes32}
    (hmerge : isMergeAnchor header = true)
    (h : acceptAnchorMerge codec verifiers parts header claim mhHeads mhNote now ctx =
      .ok outcome after) : MergeHeader header := by
  simp only [acceptAnchorMerge, mergeFs, EStateM.bind_eq_ok, EStateM.check_eq_ok,
    mergePrelude, ensureMergeJoinKeysAbsent, readMergeFs, Except.bind_eq_ok,
    Except.ensure_eq_ok] at h
  obtain ⟨_, _, ⟨_, _, ⟨⟨_, _, _, habsent, _⟩, _⟩, _, _, _, _, _, _, _, _,
    ⟨⟨_, _, _, _, _, hreason, _⟩, _⟩, _⟩, _⟩ := h
  exact ⟨hmerge, mem_of_headerU64 hreason, habsent _ (by simp)⟩

theorem acceptAnchorPipeline_header {input : AnchorInput} {digest : Bytes32}
    (h : acceptAnchorPipeline codec verifiers input mhNote digest now ctx = .ok outcome after) :
    JoinHeader input.header ∨ MergeHeader input.header := by
  unfold acceptAnchorPipeline at h
  split at h
  · next hmerge =>
      simp only [EStateM.bind_eq_ok, EStateM.check_eq_ok] at h
      obtain ⟨_, _, ⟨_, rfl⟩, h⟩ := h
      exact .inr (acceptAnchorMerge_header hmerge h)
  · next hmerge => exact .inl (acceptAnchorJoin_header (by simpa using hmerge) h)

structure GatePassed (codec : AnchorCodec) (gid : Bytes) (header : HeaderMap)
    (before after : AcceptanceContext) (gate : BarrierGateDecision) : Prop where
  passed : before.enforceBarrierAcceptanceGating codec gid header (classifyAnchorType header) =
    .ok gate
  kind : JoinHeader header ∨ MergeHeader header
  group : gateView gid after = (gate.commit (before.barrierGroupStateEntry gid)).gateFields
  others : ∀ gid', gid' ≠ gid → gateView gid' after = gateView gid' before

theorem acceptAnchor_gate {input : AnchorInput}
    (h : acceptAnchor codec verifiers input ctx = .ok outcome after) :
    ∃ gate, GatePassed codec input.parts.gid input.header ctx after gate := by
  simp only [acceptAnchor, anchorGate, EStateM.bind_eq_ok, EStateM.modify_eq_ok,
    EStateM.check_eq_ok, EStateM.pure_eq_ok, Except.bind_eq_ok, Except.pure_eq_ok] at h
  obtain ⟨_, _, rfl, now, _, ⟨_, rfl⟩, _, _,
    ⟨⟨_, _, _, _, gate, hgate, _, _, mhNote, _, rfl⟩, rfl⟩, _, done, hpipeline, _, _, rfl, rfl, rfl⟩ :=
    h
  have hkeep := fun gid' =>
    ((gateView_blind gid').acceptAnchorPipeline codec verifiers input mhNote _ now).of_ok hpipeline
  refine ⟨gate, hgate, acceptAnchorPipeline_header hpipeline, ?_, ?_⟩
  · rw [gateView_applyBarrierAcceptanceCommit, if_pos rfl]
    exact commit_gateFields gate (hkeep input.parts.gid)
  · intro gid' hne
    rw [gateView_applyBarrierAcceptanceCommit, if_neg hne]
    exact hkeep gid'

theorem processAnchorOr_gate {anchor : AnchorInstance} {hpProof witness : Bytes}
    {binding : HpBindingInputs} {result : AnchorAcceptanceResult}
    (h : processAnchorOr codec verifiers anchor header hpProof binding witness ctx =
      .ok result after) :
    ∃ gate, GatePassed codec anchor.gid header ctx after gate := by
  simp only [processAnchorOr, acceptAnchorOr, EStateM.bind_eq_ok, EStateM.check_eq_ok,
    EStateM.pure_eq_ok] at h
  obtain ⟨outcome, _, ⟨_, _, ⟨_, rfl⟩, _, accepted, haccept, _, _, ⟨_, rfl⟩, _, _, ⟨_, rfl⟩, rfl,
    rfl⟩, _, _, ⟨_, rfl⟩, _, _, hbinding, _, rfl⟩ := h
  obtain ⟨gate, hpassed, hkind, hgroup, hothers⟩ := acceptAnchor_gate haccept
  have hkeep := fun gid' => ((gateView_blind gid').verifyBinding codec verifiers header anchor _ _ _
    _).of_ok hbinding
  exact ⟨gate, hpassed, hkind, (hkeep _).trans hgroup,
    fun gid' hne => (hkeep gid').trans (hothers gid' hne)⟩

end CityG
