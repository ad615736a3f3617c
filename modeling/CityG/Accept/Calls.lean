import CityG.Accept.Committed

/-!
# Runs of `accept_anchor`

A run is a list of anchors handed to one context, accepted or rejected; a
rejected anchor may still have changed the context. Acceptance does not gate a
group it does not know, but stores nothing of a group without knowing it.
-/

namespace CityG

open EStateM (Preserves)

structure AnchorCall where
  input : AnchorInput
  before : AcceptanceContext
  result : Except AcceptanceError AcceptanceOutcome
  after : AcceptanceContext

section Calls
variable (codec : AnchorCodec) (verifiers : AnchorProofs)

def callAnchor (ctx : AcceptanceContext) (input : AnchorInput) : AnchorCall :=
  ⟨input, ctx, (acceptAnchor codec verifiers input).value ctx,
    (acceptAnchor codec verifiers input).final ctx⟩

def anchorCalls : AcceptanceContext → List AnchorInput → List AnchorCall
  | _, [] => []
  | ctx, input :: rest =>
    callAnchor codec verifiers ctx input ::
      anchorCalls (callAnchor codec verifiers ctx input).after rest

end Calls

def AnchorCall.Accepted (c : AnchorCall) : Prop := c.result.isOk = true

instance (c : AnchorCall) : Decidable c.Accepted := inferInstanceAs (Decidable (_ = true))

variable {codec : AnchorCodec} {verifiers : AnchorProofs}

theorem callAnchor_run (ctx : AcceptanceContext) (input : AnchorInput) :
    (∃ outcome, acceptAnchor codec verifiers input ctx =
        .ok outcome (callAnchor codec verifiers ctx input).after ∧
      (callAnchor codec verifiers ctx input).Accepted) ∨
    ∃ e, acceptAnchor codec verifiers input ctx =
        .error e (callAnchor codec verifiers ctx input).after ∧
      ¬ (callAnchor codec verifiers ctx input).Accepted := by
  simp only [AnchorCall.Accepted, callAnchor, EStateM.value, EStateM.final]
  cases acceptAnchor codec verifiers input ctx with
  | ok outcome after => exact .inl ⟨outcome, rfl, rfl⟩
  | error e after => exact .inr ⟨e, rfl, by simp [Except.isOk, Except.toBool]⟩

variable {ctx after : AcceptanceContext} {input : AnchorInput}

theorem callAnchor_ok (h : (callAnchor codec verifiers ctx input).Accepted) :
    ∃ outcome, acceptAnchor codec verifiers input ctx =
      .ok outcome (callAnchor codec verifiers ctx input).after := by
  obtain ⟨outcome, hrun, -⟩ | ⟨e, -, hnot⟩ := @callAnchor_run codec verifiers ctx input
  · exact ⟨outcome, hrun⟩
  · exact absurd h hnot

theorem callAnchor_error (h : ¬ (callAnchor codec verifiers ctx input).Accepted) :
    ∃ e, acceptAnchor codec verifiers input ctx =
      .error e (callAnchor codec verifiers ctx input).after := by
  obtain ⟨outcome, -, hok⟩ | ⟨e, hrun, -⟩ := @callAnchor_run codec verifiers ctx input
  · exact absurd hok h
  · exact ⟨e, hrun⟩

/-- A relation between the calls made so far and the context they leave, kept
by every call, holds wherever a run is cut. -/
theorem anchorCalls_invariant {R : List AnchorCall → AcceptanceContext → Prop}
    (hstep : ∀ done ctx input, R done ctx →
      R (done ++ [callAnchor codec verifiers ctx input])
        (callAnchor codec verifiers ctx input).after) (hstart : R [] ctx)
    {inputs : List AnchorInput} {done later : List AnchorCall} {c : AnchorCall}
    (hcut : anchorCalls codec verifiers ctx inputs = done ++ c :: later) :
    R done c.before ∧ c = callAnchor codec verifiers c.before c.input := by
  have hgen : ∀ (inputs : List AnchorInput) (ctx : AcceptanceContext) (past done : List AnchorCall),
      R past ctx → anchorCalls codec verifiers ctx inputs = done ++ c :: later →
      R (past ++ done) c.before ∧ c = callAnchor codec verifiers c.before c.input := by
    intro inputs
    induction inputs with
    | nil => simp [anchorCalls]
    | cons input rest ih =>
      intro ctx past done hR hcut
      rw [anchorCalls] at hcut
      cases done with
      | nil =>
        obtain ⟨rfl, -⟩ := List.cons.inj hcut
        exact ⟨(List.append_nil past).symm ▸ hR, rfl⟩
      | cons first done =>
        obtain rfl := (List.cons.inj hcut).1
        simpa using ih _ _ done (hstep past ctx input hR) (List.cons.inj hcut).2
  simpa using hgen inputs ctx [] done hstart hcut

namespace AcceptanceContext

def Knows (ctx : AcceptanceContext) (gid : Bytes) : Prop := (ctx.barrierGroupState gid).isSome = true

def KnowsStored (ctx : AcceptanceContext) (gid : Bytes) : Prop :=
  ∀ root, ctx.pivotStore.entriesAt gid root ≠ [] → ctx.Knows gid

theorem knows_modify {ctx : AcceptanceContext} {gid gid' : Bytes}
    {f : BarrierGroupState → BarrierGroupState} :
    (ctx.modifyBarrierGroup gid' f).Knows gid ↔ gid = gid' ∨ ctx.Knows gid := by
  unfold Knows modifyBarrierGroup barrierGroupState
  rw [OrdMap.get?_insert]
  split <;> simp_all

theorem KnowsStored.modify {ctx : AcceptanceContext} {gid : Bytes} (h : ctx.KnowsStored gid)
    (gid' : Bytes) (f : BarrierGroupState → BarrierGroupState) :
    (ctx.modifyBarrierGroup gid' f).KnowsStored gid :=
  fun root hroot => knows_modify.mpr (.inr (h root hroot))

end AcceptanceContext

namespace PivotParityStore

theorem entriesAt_prune (store : PivotParityStore) (now : Nat) (gid : Bytes) (root : Bytes32) :
    (store.prune now).entriesAt gid root =
      (store.entriesAt gid root).filter fun entry => decide (now - entry.acceptTime ≤ store.ttl) := by
  unfold prune entriesAt
  rw [OrdMap.get?_filterMap]
  cases store.entries.get? (toLex (gid, root)) with
  | none => rfl
  | some list =>
    simp only [Option.bind_some, Option.getD_some]
    split
    · next hempty => exact (List.isEmpty_iff.mp hempty).symm
    · rfl

theorem entriesAt_insert_ne (store : PivotParityStore) (parity : PivotParity) (now : Nat)
    {gid : Bytes} (hne : gid ≠ parity.gid) (root : Bytes32) :
    (store.insert parity now).entriesAt gid root = store.entriesAt gid root := by
  unfold insert entriesAt
  rw [OrdMap.get?_insert, if_neg]
  intro heq
  exact hne (congrArg Prod.fst (toLex.injective heq))

theorem entriesAt_retire_ne (store : PivotParityStore) {gid gid' : Bytes} (hne : gid ≠ gid')
    (root root' : Bytes32) (weids : List Bytes32) :
    (store.retire gid' root' weids).entriesAt gid root = store.entriesAt gid root := by
  have hkey : toLex (gid, root) ≠ toLex (gid', root') :=
    fun heq => hne (congrArg Prod.fst (toLex.injective heq))
  unfold retire entriesAt
  dsimp only
  split
  · rw [OrdMap.get?_erase, if_neg hkey]
  · rw [OrdMap.get?_insert, if_neg hkey]

end PivotParityStore

section Stored
variable (gid : Bytes)

theorem knowsStored_stable : StableUnderSrx fun ctx => ctx.KnowsStored gid where
  start _ h := h
  window _ _ h := h
  rhoGuard _ _ h := h
  prune ctx now h root hroot := by
    refine h root fun hnil => hroot ?_
    change (ctx.pivotStore.prune now).entriesAt gid root = []
    rw [PivotParityStore.entriesAt_prune, hnil, List.filter_nil]
  policyVersion _ _ h := h
  baseTs _ _ h := h
  acceptSeq _ h := h
  witness _ h := h
  vckCache _ _ h := h
  srxRoot _ gid' h := h.modify gid' _

variable (gid' : Bytes)

def CommitKnown (ctx : AcceptanceContext) : Prop := ctx.KnowsStored gid ∧ ctx.Knows gid'

variable {gid gid'}

theorem CommitKnown.modify {ctx : AcceptanceContext} (h : CommitKnown gid gid' ctx) (other : Bytes)
    (f : BarrierGroupState → BarrierGroupState) :
    CommitKnown gid gid' (ctx.modifyBarrierGroup other f) :=
  ⟨h.1.modify other f, AcceptanceContext.knows_modify.mpr (.inr h.2)⟩

theorem CommitKnown.setPivotStore {ctx : AcceptanceContext} (h : CommitKnown gid gid' ctx)
    {store : PivotParityStore}
    (hstore : gid ≠ gid' → ∀ root, store.entriesAt gid root = ctx.pivotStore.entriesAt gid root) :
    CommitKnown gid gid' (ctx.setPivotStore store) := by
  refine ⟨?_, h.2⟩
  by_cases heq : gid = gid'
  · subst heq
    exact fun _ _ => h.2
  · intro root hroot
    exact h.1 root fun hnil => hroot ((hstore heq root).trans hnil)

end Stored

section Pipelines
variable (gid : Bytes) (parts : AnchorInstanceParts) (header : HeaderMap)

theorem commitKnown_stable : Stable (CommitKnown gid parts.gid) where
  start _ h := h
  window _ _ h := h
  rhoGuard _ _ h := h
  prune _ now h := ⟨(knowsStored_stable gid).prune _ now h.1, h.2⟩
  policyVersion _ _ h := h
  baseTs _ _ h := h
  acceptSeq _ h := h
  witness _ h := h

theorem joinCommit_knowsStored (mhNote : Option String) (now : Nat) (c : JoinChecked) :
    Preserves (fun ctx => ctx.KnowsStored gid) (joinCommit codec parts header mhNote now c) := by
  refine .bind (.modify fun _ h => h) fun _ => ?_
  refine .bind_stronger (Q := CommitKnown gid parts.gid) (.modify fun _ h => h.modify _ _) ?_ ?_
    fun _ h => h.1
  · intro ctx _ after h hrecord
    rw [← EStateM.modify_eq_ok.mp hrecord]
    exact ⟨h.modify _ _, AcceptanceContext.knows_modify.mpr (.inl rfl)⟩
  · intro _
    refine .bind ((commitKnown_stable gid parts).onWindow _) fun _ => ?_
    refine .bind (.check _) fun _ => .bind (.check _) fun _ => ?_
    refine .bind (.modify fun ctx h => h.setPivotStore fun hne root => ?_) fun _ => .pure _
    exact ctx.pivotStore.entriesAt_insert_ne _ _ hne root

theorem mergeCommit_commitKnown (mhHeads : List Bytes32) (mhNote : Option String) (now : Nat)
    (fs : MergeFs) (c : MergeChecked) (required : Bool) (root : Bytes32) :
    Preserves (CommitKnown gid parts.gid)
      (mergeCommit codec parts header mhHeads mhNote now fs c required root) := by
  refine .bind (.bind (.check _) fun _ => (commitKnown_stable gid parts).onWindow _) fun _ => ?_
  refine .bind (.modify fun ctx h => h.setPivotStore fun hne root' => ?_) fun _ => ?_
  · exact ctx.pivotStore.entriesAt_retire_ne hne root' _ _
  refine .bind (.check _) fun _ => .bind (.check _) fun _ => .bind (.check _) fun _ => ?_
  refine .bind (.modify fun ctx h => ?_) fun _ => ?_
  · unfold commitSrxRoot
    split
    · exact h.modify _ _
    · exact h
  refine .bind (.modify fun ctx h => h.setPivotStore fun hne root' => ?_) fun _ => ?_
  · exact ctx.pivotStore.entriesAt_insert_ne _ _ hne root'
  refine .bind (.modify fun ctx h => ?_) fun _ => ?_
  · unfold commitMergeDevice
    split <;> exact h
  refine .bind (.modify fun ctx h => h.modify _ _) fun _ => ?_
  exact .bind (.modify fun ctx h => h.modify _ _) fun _ => .pure _

theorem mergeSrx_knows {required : Bool} {roots : AnchorRoots} {binding : SrxBinding} {now : Nat}
    {artifacts : ProofArtifacts} {ctx after : AcceptanceContext} {root : Bytes32}
    (h : mergeSrx codec verifiers parts header required roots binding now artifacts ctx =
      .ok root after) : after.Knows parts.gid := by
  have hgiven : (ctx.ensureGroupSrxRootSw parts.gid).Knows parts.gid :=
    AcceptanceContext.knows_modify.mpr (.inl rfl)
  simp only [mergeSrx, EStateM.bind_eq_ok, EStateM.check_eq_ok, EStateM.modify_eq_ok] at h
  obtain ⟨_, _, ⟨_, rfl⟩, _, _, rfl, _, _, ⟨_, rfl⟩, _, _, ⟨_, rfl⟩, h⟩ := h
  split at h
  · simp only [onVckCache, EStateM.bind_eq_ok, EStateM.zoom_eq_ok, EStateM.pure_eq_ok] at h
    obtain ⟨_, _, ⟨_, _, rfl⟩, _, rfl⟩ := h
    exact hgiven
  · exact (EStateM.pure_eq_ok.mp h).2 ▸ hgiven

end Pipelines

theorem acceptAnchorPipeline_knowsStored (gid : Bytes) (input : AnchorInput)
    (mhNote : Option String) (digest : Bytes32) (now : Nat) :
    Preserves (fun ctx => ctx.KnowsStored gid)
      (acceptAnchorPipeline codec verifiers input mhNote digest now) := by
  have h := knowsStored_stable gid
  unfold acceptAnchorPipeline
  split
  · refine .bind (.check _) fun _ => .bind (h.mergeFs codec _ _) fun _ => ?_
    refine .bind (h.mergeChecks codec _ _ _ _ _) fun _ => .bind (.check _) fun _ => ?_
    have hsrx := fun required roots binding artifacts =>
      h.mergeSrx codec verifiers input.parts input.header required roots binding now artifacts
    refine .bind_stronger (Q := CommitKnown gid input.parts.gid) (hsrx _ _ _ _) ?_ ?_ fun _ h => h.1
    · intro ctx _ after hctx hrun
      exact ⟨(hsrx _ _ _ _).of_ok hctx hrun, mergeSrx_knows _ _ hrun⟩
    · intro _
      refine .bind (.check _) fun _ => .bind (commitKnown_stable gid _).takeWitness fun _ => ?_
      exact mergeCommit_commitKnown gid _ _ _ _ _ _ _ _ _
  · refine .bind (h.joinChecks codec verifiers _ _ _ _ _) fun _ => .bind (.check _) fun _ => ?_
    exact joinCommit_knowsStored gid _ _ _ _ _

theorem acceptAnchor_knowsStored (gid : Bytes) (input : AnchorInput) :
    Preserves (fun ctx => ctx.KnowsStored gid) (acceptAnchor codec verifiers input) := by
  refine .bind (.modify (knowsStored_stable gid).start) fun _ => .bind (.check _) fun _ => ?_
  refine .bind (.check _) fun _ => .bind (acceptAnchorPipeline_knowsStored gid _ _ _ _) fun _ => ?_
  refine .bind (.modify fun ctx h => ?_) fun _ => .pure _
  unfold AcceptanceContext.applyBarrierAcceptanceCommit AcceptanceContext.commitRefresh
  split
  · split
    · split <;> exact h.modify _ _
    · exact h.modify _ _
  · exact h

structure MergeSteps (codec : AnchorCodec) (parts : AnchorInstanceParts) (header : HeaderMap)
    (claim : Bytes32) (mhHeads : List Bytes32) (now : Nat) (ctx after : AcceptanceContext)
    (m : MergeChecked) : Prop where
  purge : ensurePurge header = .ok ()
  roots : ensureRoots parts header = .ok m.roots
  seed : mergeSeed codec header = .ok m.seed
  pivot : findPivot header mhHeads ctx.mhWindow = .ok m.pivot
  pivotSeed : checkPivotSeed codec parts m.roots.parentRoot m.seed m.pivot = .ok ()
  ids : deriveAnchorIds codec parts claim m.roots.parentRoot m.seed.seedCtx none = .ok m.ids
  acceptSeq : m.acceptSeq = ctx.nextAcceptSeq
  artifacts : mergeArtifacts codec header ctx.bumpAcceptSeq = .ok m.artifacts
  parities : m.parities = OrdMap.ofList
    (((ctx.pivotStore.prune now).list parts.gid m.roots.parentRoot).map fun p => (p.weEpochId, p))
  pivotParity : parityOf m.parities m.pivot.pivotWeid = .ok m.pivotParity
  after : after = ctx.bumpAcceptSeq.setPivotStore (ctx.pivotStore.prune now)

theorem mergeChecks_steps {parts : AnchorInstanceParts} {header : HeaderMap} {claim : Bytes32}
    {mhHeads : List Bytes32} {now : Nat} {m : MergeChecked}
    (h : mergeChecks codec parts header claim mhHeads now ctx = .ok m after) :
    MergeSteps codec parts header claim mhHeads now ctx after m := by
  simp only [mergeChecks, takeAcceptSeq, EStateM.check_bind_eq_ok, EStateM.modifyGet_bind_eq_ok] at h
  obtain ⟨_, hpurge, roots, hroots, seed, hseed, pivot, hpivot, _, hpivotSeed, ids, hids, artifacts,
    hartifacts, h⟩ := h
  simp only [takeParities, EStateM.bind_eq_ok, EStateM.modify_eq_ok, EStateM.check_eq_ok,
    EStateM.pure_eq_ok, Except.pure_eq_ok] at h
  obtain ⟨parities, _, ⟨_, _, rfl, rfl, rfl⟩, parity, _, ⟨hparity, rfl⟩, _, _, ⟨_, rfl⟩, _, _, ⟨_, rfl⟩,
    _, _, ⟨_, rfl⟩, rfl, rfl⟩ := h
  exact ⟨hpurge, hroots, hseed, hpivot, hpivotSeed, hids, rfl, hartifacts, rfl, hparity, rfl⟩

theorem MergeSteps.stored {parts : AnchorInstanceParts} {header : HeaderMap} {claim : Bytes32}
    {mhHeads : List Bytes32} {now : Nat} {m : MergeChecked}
    (h : MergeSteps codec parts header claim mhHeads now ctx after m) :
    ctx.pivotStore.entriesAt parts.gid m.roots.parentRoot ≠ [] := by
  have hparity := h.pivotParity
  rw [parityOf, Except.ofOption_eq_ok, h.parities] at hparity
  intro hnil
  have hmem := OrdMap.mem_of_get?_ofList hparity
  simp only [PivotParityStore.list, PivotParityStore.entriesAt_prune, hnil] at hmem
  simp at hmem

theorem unknown_stable (gid : Bytes) : Stable fun ctx => ¬ ctx.Knows gid where
  start _ h := h
  window _ _ h := h
  rhoGuard _ _ h := h
  prune _ _ h := h
  policyVersion _ _ h := h
  baseTs _ _ h := h
  acceptSeq _ h := h
  witness _ h := h

theorem mergeFs_known {fs : MergeFs}
    (hfs : mergeFs codec input.parts input.header ctx.startAnchor = .ok fs after)
    (hstored : ctx.KnowsStored input.parts.gid)
    (hroot : after.pivotStore.entriesAt input.parts.gid root ≠ []) : ctx.Knows input.parts.gid := by
  by_contra hunknown
  have hkept := ((knowsStored_stable _).mergeFs codec input.parts input.header).of_ok
    ((knowsStored_stable input.parts.gid).start ctx hstored) hfs
  have hstill := ((unknown_stable _).mergeFs codec input.parts input.header).of_ok
    ((unknown_stable input.parts.gid).start ctx hunknown) hfs
  exact hstill (hkept _ hroot)

theorem acceptAnchor_merge_known {outcome : AcceptanceOutcome}
    (hmerge : isMergeAnchor input.header = true) (hstored : ctx.KnowsStored input.parts.gid)
    (h : acceptAnchor codec verifiers input ctx = .ok outcome after) :
    ctx.Knows input.parts.gid := by
  simp only [acceptAnchor, acceptAnchorPipeline, hmerge, if_true, acceptAnchorMerge,
    EStateM.bind_eq_ok, EStateM.modify_eq_ok, EStateM.check_eq_ok] at h
  obtain ⟨_, _, rfl, now, _, ⟨_, rfl⟩, _, _, ⟨_, rfl⟩, _, _,
    ⟨_, _, ⟨_, rfl⟩, _, checked, hfs, _, _, hchecks, _⟩, _⟩ := h
  exact mergeFs_known hfs hstored (mergeChecks_steps hchecks).stored

end CityG
