import CityG.Accept.SrxKeys

/-!
# Shadow roots and the verification cache

Between two accepted merges of a group its shadow root stays, and what a call
adds to the cache it has verified from that root.
-/

namespace CityG

open EStateM (Preserves)

namespace AcceptanceContext

def shadowRoot (ctx : AcceptanceContext) (gid : Bytes) : Bytes32 :=
  (ctx.barrierGroupStateEntry gid).srxRootSw.getD ctx.srxFallbackRoot

theorem shadowRoot_modify (ctx : AcceptanceContext) (gid gid' : Bytes)
    (f : BarrierGroupState → BarrierGroupState) :
    (ctx.modifyBarrierGroup gid' f).shadowRoot gid =
      if gid = gid' then (f (ctx.barrierGroupStateEntry gid')).srxRootSw.getD ctx.srxFallbackRoot
      else ctx.shadowRoot gid := by
  unfold shadowRoot
  rw [barrierGroupStateEntry_modify]
  split <;> rfl

theorem shadowRoot_modify_of_eq {ctx : AcceptanceContext} (gid gid' : Bytes)
    {f : BarrierGroupState → BarrierGroupState}
    (hf : ∀ state, (f state).srxRootSw.getD ctx.srxFallbackRoot =
      state.srxRootSw.getD ctx.srxFallbackRoot) :
    (ctx.modifyBarrierGroup gid' f).shadowRoot gid = ctx.shadowRoot gid := by
  rw [shadowRoot_modify]
  split
  · next heq => rw [hf, heq, shadowRoot]
  · rfl

@[simp] theorem shadowRoot_recordAcceptedEc (ctx : AcceptanceContext) (gid gid' : Bytes) (ec : Nat) :
    (ctx.recordAcceptedEc gid' ec).shadowRoot gid = ctx.shadowRoot gid :=
  shadowRoot_modify_of_eq gid gid' fun _ => rfl

@[simp] theorem shadowRoot_setLastCheckpointEc (ctx : AcceptanceContext) (gid gid' : Bytes)
    (ec : Nat) : (ctx.setLastCheckpointEc gid' ec).shadowRoot gid = ctx.shadowRoot gid :=
  shadowRoot_modify_of_eq gid gid' fun _ => rfl

end AcceptanceContext

section Shadow
variable (gid : Bytes)

theorem shadowRoot_blind : Blind fun ctx => ctx.shadowRoot gid where
  start _ := rfl
  window _ _ := rfl
  rhoGuard _ _ := rfl
  vckCache _ _ := rfl
  pivotStore _ _ := rfl
  policyVersion _ _ := rfl
  baseTs _ _ := rfl
  acceptSeq _ := rfl
  witness _ := rfl
  deviceChain _ _ _ _ := rfl
  srxRoot _ gid' := AcceptanceContext.shadowRoot_modify_of_eq gid gid' fun _ => rfl

theorem shadowRoot_commitStable (root : Bytes32) :
    CommitStable fun ctx => ctx.shadowRoot gid = root where
  window _ _ h := h
  pivotStore _ _ h := h
  deviceChain _ _ _ _ h := h
  acceptedEc _ _ _ := (AcceptanceContext.shadowRoot_recordAcceptedEc _ _ _ _).trans

theorem shadowRoot_applyBarrierAcceptanceCommit (ctx : AcceptanceContext) (gid' : Bytes)
    (header : HeaderMap) (gate : Accept.BarrierGateDecision) :
    (ctx.applyBarrierAcceptanceCommit gid' header gate).shadowRoot gid = ctx.shadowRoot gid := by
  unfold AcceptanceContext.applyBarrierAcceptanceCommit
  split
  · rw [(shadowRoot_blind gid).commitRefresh]
    exact AcceptanceContext.shadowRoot_modify_of_eq gid gid' fun _ => rfl
  · rfl

variable {gid} {codec : AnchorCodec} {parts : AnchorInstanceParts} {header : HeaderMap}
  {mhHeads : List Bytes32} {mhNote : Option String} {now : Nat} {fs : MergeFs} {m : MergeChecked}
  {required : Bool} {root : Bytes32} {ctx after : AcceptanceContext}

theorem mergeCommit_refused {e : AcceptanceError}
    (h : mergeCommit codec parts header mhHeads mhNote now fs m required root ctx =
      .error e after) : after.shadowRoot gid = ctx.shadowRoot gid := by
  have hview := shadowRoot_blind gid
  have hwindow : EStateM.Keeps (fun ctx => ctx.shadowRoot gid) (acceptMergeHead m.pivot.widOld
      m.ids.wid.val mhHeads (m.headRecord header fs now) now) :=
    .bind (.check _) fun _ => hview.onWindow _
  rw [mergeCommit, EStateM.bind_eq_error] at h
  rcases h with h | ⟨_, accepted, hhead, h⟩
  · exact (hwindow ctx).of_error h
  have haccepted : accepted.shadowRoot gid = ctx.shadowRoot gid := hwindow.of_ok hhead
  simp only [EStateM.bind_eq_error, EStateM.modify_ne_error, EStateM.modify_eq_ok,
    EStateM.check_eq_error, EStateM.check_eq_ok, EStateM.pure_ne_error, false_or, and_false,
    exists_false, or_false] at h
  obtain ⟨_, _, rfl, ⟨_, rfl⟩ | ⟨_, _, ⟨_, rfl⟩, ⟨_, rfl⟩ | ⟨_, _, ⟨_, rfl⟩, _, rfl⟩⟩⟩ := h
  · exact haccepted
  · exact haccepted
  · exact haccepted

theorem mergeCommit_accepted {outcome : AcceptanceOutcome}
    (h : mergeCommit codec parts header mhHeads mhNote now fs m required root ctx =
      .ok outcome after) :
    (required = true → ∃ rootSw, headerBytes32OrFreeze header HDR_SRX_ROOT_SW freezeSrxInvalid =
        .ok rootSw ∧ after.shadowRoot parts.gid = rootSw) ∧
      ∀ gid, required = false ∨ gid ≠ parts.gid → after.shadowRoot gid = ctx.shadowRoot gid := by
  simp only [mergeCommit, acceptMergeHead, bind_assoc, EStateM.check_bind_eq_ok] at h
  obtain ⟨_, _, h⟩ := h
  rw [EStateM.bind_eq_ok] at h
  obtain ⟨_, accepted, hhead, h⟩ := h
  simp only [EStateM.check_bind_eq_ok, EStateM.modify_bind_eq_ok, EStateM.pure_eq_ok] at h
  obtain ⟨_, _, _, _, srx, hsrx, _, rfl⟩ := h
  have hcounters : ∀ (gid' : Bytes) (ctx : AcceptanceContext) (ec ec' : Nat),
      (((commitMergeDevice parts fs ctx).setLastCheckpointEc parts.gid ec).recordAcceptedEc parts.gid
        ec').shadowRoot gid' = ctx.shadowRoot gid' := by
    intro gid' ctx ec ec'
    rw [AcceptanceContext.shadowRoot_recordAcceptedEc,
      AcceptanceContext.shadowRoot_setLastCheckpointEc]
    unfold commitMergeDevice
    split <;> rfl
  refine ⟨?_, ?_⟩
  · rintro rfl
    simp only [mergeSrxFields, if_true, Except.bind_eq_ok, Except.pure_eq_ok] at hsrx
    obtain ⟨_, _, rootSw, hrootSw, _, _, rfl⟩ := hsrx
    refine ⟨rootSw, hrootSw, (hcounters _ _ _ _).trans ?_⟩
    change (AcceptanceContext.setGroupSrxRootSw parts.gid _ _).shadowRoot parts.gid = rootSw
    rw [AcceptanceContext.setGroupSrxRootSw, AcceptanceContext.shadowRoot_modify, if_pos rfl]
    rfl
  · intro gid hother
    refine (hcounters _ _ _ _).trans ((?_ : _ = accepted.shadowRoot gid).trans
      (((shadowRoot_blind gid).onWindow _).of_ok hhead))
    change (commitSrxRoot parts required srx.srxRootSw _).shadowRoot gid = _
    unfold commitSrxRoot
    split
    · next hrequired =>
        rcases hother with hnot | hne
        · exact absurd hrequired (by simp [hnot])
        · rw [AcceptanceContext.setGroupSrxRootSw, AcceptanceContext.shadowRoot_modify, if_neg hne]
          rfl
    · rfl

end Shadow

namespace VckCache

def HoldsSrx (cache : VckCache) (key : Bytes32) : Prop :=
  ((cache.entries.get? key).bind (·.srx)).isSome = true

instance (cache : VckCache) (key : Bytes32) : Decidable (cache.HoldsSrx key) :=
  inferInstanceAs (Decidable (_ = true))

theorem HoldsSrx.of_prune {cache : VckCache} {now : Nat} {key : Bytes32}
    (h : (cache.prune now).HoldsSrx key) : cache.HoldsSrx key := by
  unfold HoldsSrx prune at *
  rw [OrdMap.get?_filter] at h
  cases hget : cache.entries.get? key with
  | none => simp [hget] at h
  | some entry =>
    rw [hget, Option.filter_some] at h
    split at h
    · exact h
    · simp at h

theorem HoldsSrx.of_recordSrx {cache : VckCache} {key key' : Bytes32} {srx : VckSrxState} {now : Nat}
    (h : (cache.recordSrx key' srx now).HoldsSrx key) : key = key' ∨ cache.HoldsSrx key := by
  by_cases heq : key = key'
  · exact .inl heq
  · have hget : (cache.recordSrx key' srx now).entries.get? key =
        (cache.prune now).entries.get? key := by
      rw [recordSrx, OrdMap.get?_insert, if_neg heq]
    rw [HoldsSrx, hget] at h
    exact .inr (HoldsSrx.of_prune h)

theorem trySkipSrx_true {cache : VckCache} {key : Bytes32} {joins since anchors bytes len : Nat}
    (h : cache.trySkipSrx key joins since anchors bytes len = .ok true) : cache.HoldsSrx key := by
  unfold trySkipSrx at h
  unfold HoldsSrx
  split at h
  · cases h
  · next hsome => rw [hsome, Option.isSome_some]

end VckCache

section Cache
variable {codec : AnchorCodec} {verifiers : AnchorProofs} {header : HeaderMap} {maxBytes now : Nat}
  {m : MergeChecked} {root : Bytes32}

def VerifiedUnder (codec : AnchorCodec) (verifiers : AnchorProofs) (header : HeaderMap)
    (m : MergeChecked) (root key : Bytes32) : Prop :=
  ∃ read, SrxReadFrom codec verifiers header m.srxBinding read ∧ read.cacheKey = key ∧
    SrxVerified codec verifiers m read root

/-- What the cache remembers it remembered before, or it was verified now. -/
def OnlyVerified (codec : AnchorCodec) (verifiers : AnchorProofs) (header : HeaderMap)
    (m : MergeChecked) (root : Bytes32) (cache after : VckCache) : Prop :=
  ∀ key, after.HoldsSrx key → cache.HoldsSrx key ∨ VerifiedUnder codec verifiers header m root key

theorem ensureSrxRelations_cache (cache : VckCache) :
    OnlyVerified codec verifiers header m root cache
      ((ensureSrxRelations codec verifiers m.roots header maxBytes m.srxBinding now m.artifacts
        root).final cache) := by
  have hkeeps : Preserves (OnlyVerified codec verifiers header m root cache)
      (ensureSrxRelations codec verifiers m.roots header maxBytes m.srxBinding now m.artifacts
        root) := by
    refine .bind_ok (.ofExcept _) fun c read _ hc hrun => ?_
    obtain ⟨hread, rfl⟩ := EStateM.ofExcept_eq_ok.mp hrun
    refine Preserves.bind (P := OnlyVerified codec verifiers header m root cache)
      (.modify fun _ hc key hpruned => hc key hpruned.of_prune) (fun _ => ?_) c hc
    refine .bind .get fun _ => .bind (.ofExcept _) fun skip => ?_
    split
    · exact .pure _
    refine .bind_ok (.ofExcept _) fun c₁ _ _ hc₁ hrun => ?_
    obtain ⟨hsets, rfl⟩ := EStateM.ofExcept_eq_ok.mp hrun
    refine Preserves.bind_ok (P := OnlyVerified codec verifiers header m root cache) (.ofExcept _)
      (fun c₂ _ _ hc₂ hrun => ?_) c₁ hc₁
    obtain ⟨hproof, rfl⟩ := EStateM.ofExcept_eq_ok.mp hrun
    intro key hrecorded
    rcases VckCache.HoldsSrx.of_recordSrx hrecorded with rfl | hold
    · exact .inr ⟨read, readSrx_from hread, rfl, hsets, hproof⟩
    · exact hc₂ key hold
  exact hkeeps cache fun _ => .inl

theorem ensureSrxRelations_passed {cache after : VckCache} {u : Unit}
    (h : ensureSrxRelations codec verifiers m.roots header maxBytes m.srxBinding now m.artifacts root
      cache = .ok u after) :
    ∃ read, SrxReadFrom codec verifiers header m.srxBinding read ∧
      (cache.HoldsSrx read.cacheKey ∨ SrxVerified codec verifiers m read root) := by
  simp only [ensureSrxRelations, EStateM.bind_eq_ok, EStateM.ofExcept_eq_ok, EStateM.modify_eq_ok,
    EStateM.get_eq_ok] at h
  obtain ⟨read, _, ⟨hread, rfl⟩, _, _, rfl, _, _, ⟨rfl, rfl⟩, skip, _, ⟨hskip, rfl⟩, h⟩ := h
  refine ⟨read, readSrx_from hread, ?_⟩
  cases skip with
  | true => exact .inl (VckCache.trySkipSrx_true hskip).of_prune
  | false =>
    simp only [Bool.false_eq_true, if_false, EStateM.bind_eq_ok, EStateM.ofExcept_eq_ok] at h
    obtain ⟨_, _, ⟨hsets, -⟩, _, _, ⟨hproof, -⟩, -⟩ := h
    exact .inr ⟨hsets, hproof⟩

variable {parts : AnchorInstanceParts} {required : Bool} {ctx after : AcceptanceContext}

theorem groupSrxRootSw_ensure (ctx : AcceptanceContext) (gid : Bytes) :
    (ctx.ensureGroupSrxRootSw gid).groupSrxRootSw gid = ctx.shadowRoot gid := by
  simp [AcceptanceContext.ensureGroupSrxRootSw, AcceptanceContext.modifyBarrierGroup,
    AcceptanceContext.groupSrxRootSw, AcceptanceContext.barrierGroupState,
    AcceptanceContext.shadowRoot]

theorem mergeSrx_cache (ctx : AcceptanceContext) :
    OnlyVerified codec verifiers header m (ctx.shadowRoot parts.gid) ctx.vckCache
      ((mergeSrx codec verifiers parts header required m.roots m.srxBinding now m.artifacts).final
        ctx).vckCache := by
  have hsame : OnlyVerified codec verifiers header m (ctx.shadowRoot parts.gid) ctx.vckCache
      ctx.vckCache := fun _ => .inl
  unfold mergeSrx
  cases ensureMergeSrxKeys header required with
  | error e =>
    rw [EStateM.final_check_bind_error (f := fun _ => .error e) rfl]
    exact hsame
  | ok u =>
    rw [EStateM.final_check_bind (f := fun _ => .ok u) rfl, EStateM.final_modify_bind,
      EStateM.final_read_bind, EStateM.final_read_bind, groupSrxRootSw_ensure]
    split
    · rw [EStateM.final_bind_pure, onVckCache, EStateM.final_zoom]
      exact ensureSrxRelations_cache _
    · exact hsame

theorem mergeSrx_passed
    (h : mergeSrx codec verifiers parts header required m.roots m.srxBinding now m.artifacts ctx =
      .ok root after) :
    required = true → ∃ read, SrxReadFrom codec verifiers header m.srxBinding read ∧
      (ctx.vckCache.HoldsSrx read.cacheKey ∨
        SrxVerified codec verifiers m read (ctx.shadowRoot parts.gid)) := by
  rintro rfl
  simp only [mergeSrx, if_true, EStateM.check_bind_eq_ok, EStateM.modify_bind_eq_ok,
    Except.pure_eq_ok] at h
  obtain ⟨_, _, _, rfl, _, rfl, h⟩ := h
  simp only [onVckCache, EStateM.bind_eq_ok, EStateM.zoom_eq_ok] at h
  obtain ⟨_, _, ⟨cache, hrun, -⟩, -⟩ := h
  rw [groupSrxRootSw_ensure] at hrun
  exact ensureSrxRelations_passed hrun

end Cache

section Call
variable {codec : AnchorCodec} {verifiers : AnchorProofs} {ctx : AcceptanceContext}
  {input : AnchorInput}

theorem callAnchor_shadowRoot (gid : Bytes)
    (h : ¬ ((callAnchor codec verifiers ctx input).Accepted ∧ isMergeAnchor input.header = true ∧
      gid = input.parts.gid)) :
    (callAnchor codec verifiers ctx input).after.shadowRoot gid = ctx.shadowRoot gid := by
  have hview := shadowRoot_blind gid
  cases hmerge : isMergeAnchor input.header with
  | false =>
    exact acceptAnchor_join_stable (hview.stable _).toStable (shadowRoot_commitStable gid _) codec
      verifiers hmerge ctx rfl
  | true =>
    have hstage : ∀ {st : StagedMerge} {staged : AcceptanceContext},
        mergeStage codec input ctx = .ok st staged → staged.shadowRoot gid = ctx.shadowRoot gid :=
      fun hrun => ((hview.stable _).toStable.mergeStage codec input).of_ok rfl hrun
    have hsrx : ∀ st, EStateM.Keeps (fun ctx => ctx.shadowRoot gid)
        (stagedSrx codec verifiers input st) := fun _ => hview.mergeSrx codec verifiers _ _ _ _ _ _ _
    obtain ⟨outcome, hrun, haccepted⟩ | ⟨e, hrun, -⟩ := @callAnchor_run codec verifiers ctx input
    · obtain ⟨st, staged, related, committed, root, hdone⟩ := acceptAnchor_merge_done hmerge hrun
      have hne : gid ≠ input.parts.gid := fun heq => h ⟨haccepted, hmerge, heq⟩
      rw [← hdone.barrier, shadowRoot_applyBarrierAcceptanceCommit,
        (mergeCommit_accepted hdone.commit).2 gid (.inr hne)]
      exact ((hsrx st).of_ok hdone.srx).trans (hstage hdone.stage)
    · cases acceptAnchor_merge_refused hmerge hrun with
      | stage hfailed =>
        exact ((hview.stable _).toStable.mergeStage codec input).of_error rfl hfailed
      | srx hstaged hfailed => exact ((hsrx _ _).of_error hfailed).trans (hstage hstaged)
      | rollup hstaged hpassed => exact ((hsrx _).of_ok hpassed).trans (hstage hstaged)
      | commit hstaged hpassed _ hfailed =>
        exact (mergeCommit_refused hfailed).trans (((hsrx _).of_ok hpassed).trans (hstage hstaged))

theorem vckCache_mergeCommitStable (P : VckCache → Prop) :
    MergeCommitStable fun ctx => P ctx.vckCache where
  window _ _ h := h
  pivotStore _ _ h := h
  deviceChain _ _ _ _ h := h
  acceptedEc _ _ _ h := h
  checkpointEc _ _ _ h := h
  srxRootSet _ _ _ h := h

theorem vckCache_stable (P : VckCache → Prop) : Stable fun ctx => P ctx.vckCache where
  start _ h := h
  window _ _ h := h
  rhoGuard _ _ h := h
  prune _ _ h := h
  policyVersion _ _ h := h
  baseTs _ _ h := h
  acceptSeq _ h := h
  witness _ h := h

theorem vckCache_applyBarrierAcceptanceCommit (ctx : AcceptanceContext) (gid : Bytes)
    (header : HeaderMap) (gate : Accept.BarrierGateDecision) :
    (ctx.applyBarrierAcceptanceCommit gid header gate).vckCache = ctx.vckCache := by
  unfold AcceptanceContext.applyBarrierAcceptanceCommit AcceptanceContext.commitRefresh
  split
  · split
    · split <;> rfl
    · rfl
  · rfl

theorem callAnchor_cache {key : Bytes32}
    (h : (callAnchor codec verifiers ctx input).after.vckCache.HoldsSrx key) :
    ctx.vckCache.HoldsSrx key ∨ ∃ m, (callAnchor codec verifiers ctx input).checked codec = some m ∧
      VerifiedUnder codec verifiers input.header m (ctx.shadowRoot input.parts.gid) key := by
  have hstable := vckCache_stable fun cache => cache.HoldsSrx key → ctx.vckCache.HoldsSrx key
  have hcommits := vckCache_mergeCommitStable fun cache =>
    cache.HoldsSrx key → ctx.vckCache.HoldsSrx key
  cases hmerge : isMergeAnchor input.header with
  | false =>
    exact .inl (acceptAnchor_join_stable hstable hcommits.toCommitStable codec verifiers hmerge ctx
      id h)
  | true =>
    -- Past the relations, the cache holds what they left.
    have hrelated : ∀ {st : StagedMerge} {staged : AcceptanceContext},
        mergeStage codec input ctx = .ok st staged →
        ((stagedSrx codec verifiers input st).final staged).vckCache.HoldsSrx key →
        ctx.vckCache.HoldsSrx key ∨
          ∃ m, (callAnchor codec verifiers ctx input).checked codec = some m ∧
            VerifiedUnder codec verifiers input.header m (ctx.shadowRoot input.parts.gid) key := by
      intro st staged hstaged hholds
      have hroot : staged.shadowRoot input.parts.gid = ctx.shadowRoot input.parts.gid :=
        (((shadowRoot_blind _).stable _).toStable.mergeStage codec input).of_ok rfl hstaged
      rcases mergeSrx_cache staged key hholds with hold | hverified
      · exact .inl ((hstable.mergeStage codec input).of_ok id hstaged hold)
      · exact .inr ⟨st.checked, AnchorCall.checked_eq_some.mpr ⟨st, staged, hstaged, rfl⟩,
          hroot ▸ hverified⟩
    obtain ⟨outcome, hrun, -⟩ | ⟨e, hrun, -⟩ := @callAnchor_run codec verifiers ctx input
    · obtain ⟨st, staged, related, committed, root, hdone⟩ := acceptAnchor_merge_done hmerge hrun
      have htaken : related.takePendingCapssWitness.vckCache = related.vckCache := rfl
      have hcache : committed.vckCache = related.vckCache :=
        ((vckCache_mergeCommitStable (· = related.vckCache)).mergeCommit codec _ _ _ _ _ _ _ _
          _).of_ok htaken hdone.commit
      rw [← hdone.barrier, vckCache_applyBarrierAcceptanceCommit, hcache,
        ← EStateM.final_of_ok hdone.srx] at h
      exact hrelated hdone.stage h
    · cases acceptAnchor_merge_refused hmerge hrun with
      | stage hfailed => exact .inl ((hstable.mergeStage codec input).of_error id hfailed h)
      | srx hstaged hfailed =>
        rw [← EStateM.final_of_error hfailed] at h
        exact hrelated hstaged h
      | rollup hstaged hpassed =>
        rw [← EStateM.final_of_ok hpassed] at h
        exact hrelated hstaged h
      | @commit st staged related root hstaged hpassed _ hfailed =>
        have htaken : related.takePendingCapssWitness.vckCache = related.vckCache := rfl
        have hcache : (callAnchor codec verifiers ctx input).after.vckCache =
            related.vckCache :=
          ((vckCache_mergeCommitStable (· = related.vckCache)).mergeCommit codec _ _ _ _ _ _ _ _
            _).of_error htaken hfailed
        rw [hcache, ← EStateM.final_of_ok hpassed] at h
        exact hrelated hstaged h

end Call

end CityG
