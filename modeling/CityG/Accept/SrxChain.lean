import CityG.Accept.ShadowRoot

/-!
# The chain of shadow roots

A merge that requires SRX is verified from the shadow root of its group, unless
the cache remembers a verification under its key. The key does not cover the
shadow root, but it covers the barrier version, and every accepted merge moves
the barrier version of its group.
-/

namespace CityG

/-- How far the barrier of a group has come: zero without barrier, one more
than its version with it. -/
def AcceptanceContext.barrierPosition (ctx : AcceptanceContext) (gid : Bytes) : Nat :=
  if (ctx.barrierGroupStateEntry gid).barrierInitialized then
    (ctx.barrierGroupStateEntry gid).barrierVersion + 1
  else 0

theorem barrierPosition_of_gateView {ctx ctx' : AcceptanceContext} {gid : Bytes}
    (h : gateView gid ctx = gateView gid ctx') :
    ctx.barrierPosition gid = ctx'.barrierPosition gid := by
  simp only [gateView, BarrierGroupState.gateFields, BarrierGroupState.mk.injEq] at h
  obtain ⟨hinit, hversion, -⟩ := h
  simp only [AcceptanceContext.barrierPosition, hinit, hversion]

section Position
variable {codec : AnchorCodec} {verifiers : AnchorProofs} {ctx : AcceptanceContext}
  {input : AnchorInput}

theorem GateOpened.version_eq {header : HeaderMap} {gid : Bytes}
    {gate : Accept.BarrierGateDecision}
    (h : GateOpened (classifyAnchorType header) (ctx.barrierGroupStateEntry gid) gate)
    (hupdate : gate.barrierUpdateReason.isSome = true) :
    gate.barrierVersion = min (ctx.barrierPosition gid) U64_MAX := by
  unfold AcceptanceContext.barrierPosition
  cases h with
  | genesis huninit _ _ hversion => simp [huninit, hversion]
  | revocation hinit _ _ hversion | proactive hinit _ _ _ hversion =>
    rw [hversion, if_pos hinit, saturatingAdd]
  | plain _ hnone => simp [hnone] at hupdate

theorem MergeStaged.names_version {staged : AcceptanceContext} {st : StagedMerge}
    (h : MergeStaged codec input ctx staged st) (hstored : ctx.KnowsStored input.parts.gid) :
    headerBarrierVersion input.header =
      some (min (ctx.barrierPosition input.parts.gid) U64_MAX) := by
  obtain ⟨after, hfs, hsteps⟩ := h.checks
  have hknown := mergeFs_known hfs hstored hsteps.stored
  have hpassed := h.passed
  simp only [anchorGate, Except.bind_eq_ok, Except.pure_eq_ok, Prod.mk.injEq] at hpassed
  obtain ⟨_, _, _, _, _, hgate, _, _, _, _, rfl, _⟩ := hpassed
  obtain ⟨hread, hopened⟩ := enforceGate_opened hgate
  have hupdate := hread.update.mpr (hread.reasoned (mergeFs_reason hfs))
  rw [hread.version, (hopened hknown).version_eq hupdate]
  rfl

theorem callAnchor_position (gid : Bytes) (hstored : ctx.KnowsStored gid) :
    ((callAnchor codec verifiers ctx input).after.barrierPosition gid = ctx.barrierPosition gid ∧
      (callAnchor codec verifiers ctx input).after.shadowRoot gid = ctx.shadowRoot gid) ∨
    (callAnchor codec verifiers ctx input).after.barrierPosition gid =
      min (ctx.barrierPosition gid) U64_MAX + 1 := by
  by_cases hmoves : (callAnchor codec verifiers ctx input).Accepted ∧
      isMergeAnchor input.header = true ∧ gid = input.parts.gid
  · obtain ⟨haccepted, hmerge, rfl⟩ := hmoves
    obtain ⟨outcome, hrun⟩ := callAnchor_ok haccepted
    obtain ⟨gate, hgate⟩ := acceptAnchor_gate hrun
    obtain ⟨st, staged, related, committed, root, hdone⟩ := acceptAnchor_merge_done hmerge hrun
    have hstaged := mergeStage_staged hdone.stage
    obtain ⟨_, hfs, -⟩ := hstaged.checks
    have hread := (enforceGate_opened hgate.passed).1
    obtain ⟨hinit, hversion, -⟩ := hgate.after_eq.1 (hread.reasoned (mergeFs_reason hfs))
    have hnamed := hread.version.symm.trans (hstaged.names_version hstored)
    right
    rw [AcceptanceContext.barrierPosition, if_pos hinit, hversion, Option.some.inj hnamed]
  · refine .inl ⟨?_, callAnchor_shadowRoot gid hmoves⟩
    apply barrierPosition_of_gateView
    by_cases haccepted : (callAnchor codec verifiers ctx input).Accepted
    · obtain ⟨outcome, hrun⟩ := callAnchor_ok haccepted
      obtain ⟨gate, hgate⟩ := acceptAnchor_gate hrun
      by_cases hgid : gid = input.parts.gid
      · subst hgid
        exact hgate.after_eq.2 fun hupdate =>
          hmoves ⟨haccepted, isMergeAnchor_of_update hupdate, rfl⟩
      · exact hgate.others gid hgid
    · exact callAnchor_rejected gid haccepted

end Position

namespace AnchorCall

structure Verifies (codec : AnchorCodec) (verifiers : AnchorProofs) (c : AnchorCall)
    (key : Bytes32) : Prop where
  relations : ∃ m, c.checked codec = some m ∧ VerifiedUnder codec verifiers c.input.header m
    (c.before.shadowRoot c.input.parts.gid) key
  version : headerBarrierVersion c.input.header =
    some (min (c.before.barrierPosition c.input.parts.gid) U64_MAX)

def Settled (c : AnchorCall) (ctx : AcceptanceContext) : Prop :=
  c.before.barrierPosition c.input.parts.gid < ctx.barrierPosition c.input.parts.gid ∨
    (c.before.barrierPosition c.input.parts.gid = ctx.barrierPosition c.input.parts.gid ∧
      ctx.shadowRoot c.input.parts.gid = c.before.shadowRoot c.input.parts.gid) ∨
    U64_MAX < ctx.barrierPosition c.input.parts.gid

theorem settled_refl (c : AnchorCall) : c.Settled c.before := .inr (.inl ⟨rfl, rfl⟩)

end AnchorCall

section Run
variable {codec : AnchorCodec} {verifiers : AnchorProofs}

theorem AnchorCall.Settled.step {d : AnchorCall} {ctx : AcceptanceContext} (h : d.Settled ctx)
    (hstored : ctx.KnowsStored d.input.parts.gid) (input : AnchorInput) :
    d.Settled (callAnchor codec verifiers ctx input).after := by
  unfold AnchorCall.Settled at h ⊢
  obtain ⟨hposition, hshadow⟩ | hposition :=
    @callAnchor_position codec verifiers ctx input d.input.parts.gid hstored
  · rw [hposition, hshadow]
    exact h
  · rw [hposition]
    omega

/-- What the cache remembers was verified by a call that is settled. -/
structure CacheSettled (codec : AnchorCodec) (verifiers : AnchorProofs) (done : List AnchorCall)
    (ctx : AcceptanceContext) : Prop where
  stored : ∀ gid, ctx.KnowsStored gid
  origin : ∀ key, ctx.vckCache.HoldsSrx key →
    ∃ d ∈ done, d.Verifies codec verifiers key ∧ d.Settled ctx

theorem CacheSettled.step {done : List AnchorCall} {ctx : AcceptanceContext}
    (h : CacheSettled codec verifiers done ctx) (input : AnchorInput) :
    CacheSettled codec verifiers (done ++ [callAnchor codec verifiers ctx input])
      (callAnchor codec verifiers ctx input).after := by
  refine ⟨fun gid => acceptAnchor_knowsStored gid input ctx (h.stored gid), ?_⟩
  intro key hholds
  rcases callAnchor_cache hholds with hold | ⟨m, hm, hverified⟩
  · obtain ⟨d, hd, hverifies, hsettled⟩ := h.origin key hold
    exact ⟨d, List.mem_append_left _ hd, hverifies, hsettled.step (h.stored _) input⟩
  · obtain ⟨st, staged, hstage, -⟩ := AnchorCall.checked_eq_some.mp hm
    have hsettled : (callAnchor codec verifiers ctx input).Settled ctx := AnchorCall.settled_refl _
    exact ⟨callAnchor codec verifiers ctx input, by simp,
      ⟨⟨m, hm, hverified⟩, (mergeStage_staged hstage).names_version (h.stored _)⟩, hsettled.step (h.stored _) input⟩

def MergeChecked.KeepsPivotRoots (m : MergeChecked) : Prop :=
  m.roots.revokedSinceRoot = m.pivot.pivotRecord.revokedSinceRoot ∧
    m.roots.revokedRoot = m.pivot.pivotRecord.revokedRoot

instance (m : MergeChecked) : Decidable m.KeepsPivotRoots := inferInstanceAs (Decidable (_ ∧ _))

namespace AnchorCall

def ChangesCommitted (codec : AnchorCodec) (c : AnchorCall) (m : MergeChecked) : Prop :=
  (c.before.barrierGroupStateEntry c.input.parts.gid).barrierInitialized = true ∧
    computeRevocationRootsHash codec.hL m.roots.revokedSinceRoot m.roots.revokedRoot ≠
      (c.before.barrierGroupStateEntry c.input.parts.gid).barrierRootsHash

instance (codec : AnchorCodec) (c : AnchorCall) (m : MergeChecked) :
    Decidable (c.ChangesCommitted codec m) := inferInstanceAs (Decidable (_ ∧ _))

/-- The merge changes the revocation roots: those of its pivot or those of its
group. -/
def ChangesRoots (codec : AnchorCodec) (c : AnchorCall) (m : MergeChecked) : Prop :=
  ¬ m.KeepsPivotRoots ∨ c.ChangesCommitted codec m

/-- The merge does not bring back the roots of a pivot that its group has left,
and where the versions of its group have run out its relations are not cached. -/
structure SrxGuard (codec : AnchorCodec) (c : AnchorCall) (m : MergeChecked) : Prop where
  pivot : m.KeepsPivotRoots → ¬ c.ChangesCommitted codec m
  version : c.before.barrierPosition c.input.parts.gid ≤ U64_MAX ∨
    ∀ value, vckRecord codec m.srxBinding c.input.header = .ok value →
      ¬ c.before.vckCache.HoldsSrx (codec.hL "msphf/vck" value)

/-- The merge carries a payload that verifies from the shadow root its group
had, and leaves the shadow root the payload was verified to. -/
def SrxLink (codec : AnchorCodec) (verifiers : AnchorProofs) (c : AnchorCall) (m : MergeChecked) :
    Prop :=
  ∃ read, SrxReadFrom codec verifiers c.input.header m.srxBinding read ∧
    SrxVerified codec verifiers m read (c.before.shadowRoot c.input.parts.gid) ∧
    ∃ rootSw proof, m.artifacts.srx = some (rootSw, proof) ∧
      c.after.shadowRoot c.input.parts.gid = rootSw

end AnchorCall

theorem cached_verified {calls done : List AnchorCall} {c : AnchorCall} {m : MergeChecked}
    {read : SrxRead} (hkeys : SrxKeysInjective codec calls)
    (hdone : ∀ d ∈ done, d ∈ calls) (hc : c ∈ calls)
    (hsettled : CacheSettled codec verifiers done c.before) (hm : c.checked codec = some m)
    (hread : SrxReadFrom codec verifiers c.input.header m.srxBinding read)
    (hversion : c.before.barrierPosition c.input.parts.gid ≤ U64_MAX)
    (hheld : c.before.vckCache.HoldsSrx read.cacheKey) :
    SrxVerified codec verifiers m read (c.before.shadowRoot c.input.parts.gid) := by
  obtain ⟨d, hd, hverifies, hsettled'⟩ := hsettled.origin _ hheld
  obtain ⟨m', hm', read', hread', hkey, hverified⟩ := hverifies.relations
  obtain ⟨hgid, hnamed, hsame⟩ := hkeys.same_relations hc (hdone d hd) hm hm' hread hread' hkey.symm
  obtain ⟨st, staged, hstage, -⟩ := AnchorCall.checked_eq_some.mp hm
  rw [(mergeStage_staged hstage).names_version (hsettled.stored _), hverifies.version, hgid] at hnamed
  have hpositions := Option.some.inj hnamed
  rw [hgid] at hversion ⊢
  unfold AnchorCall.Settled at hsettled'
  -- Both name the same version, so the group has not moved on.
  rcases hsettled' with hmoved | ⟨-, hshadow⟩ | hlast
  · omega
  · rw [hshadow]
    exact hsame _ hverified
  · omega

structure SrxChain (codec : AnchorCodec) (verifiers : AnchorProofs) (c : AnchorCall) : Prop where
  changes : c.Accepted → isMergeAnchor c.input.header = true →
    ∃ m, c.checked codec = some m ∧ (isReclaimJoinFinalize c.input.header = false →
      c.ChangesRoots codec m → c.SrxLink codec verifiers m)
  moves : ∀ gid, c.after.shadowRoot gid ≠ c.before.shadowRoot gid →
    c.Accepted ∧ c.input.parts.gid = gid ∧
      ∃ m, c.checked codec = some m ∧ c.SrxLink codec verifiers m

theorem srxRequired_iff {header : HeaderMap} {m : MergeChecked} :
    srxRequired header m.roots m.pivot.pivotRecord = true ↔
      ¬ m.KeepsPivotRoots ∧ isReclaimJoinFinalize header = false := by
  unfold srxRequired MergeChecked.KeepsPivotRoots
  rw [decide_eq_true_iff]
  tauto

/-- An accepted merge that required SRX is a link of the chain, if what was
cached for it was verified from its own shadow root. -/
theorem MergeDone.link {input : AnchorInput} {ctx after staged related committed : AcceptanceContext}
    {outcome : AcceptanceOutcome} {st : StagedMerge} {root : Bytes32}
    (h : MergeDone codec verifiers input ctx after outcome st staged related committed root)
    (hrequired : st.required input.header = true)
    (hcached : ∀ read, SrxReadFrom codec verifiers input.header st.checked.srxBinding read →
      ctx.vckCache.HoldsSrx read.cacheKey →
      SrxVerified codec verifiers st.checked read (ctx.shadowRoot input.parts.gid)) :
    ∃ read, SrxReadFrom codec verifiers input.header st.checked.srxBinding read ∧
      SrxVerified codec verifiers st.checked read (ctx.shadowRoot input.parts.gid) ∧
      ∃ rootSw proof, st.checked.artifacts.srx = some (rootSw, proof) ∧
        after.shadowRoot input.parts.gid = rootSw := by
  have hroot : staged.shadowRoot input.parts.gid = ctx.shadowRoot input.parts.gid :=
    (((shadowRoot_blind _).stable _).toStable.mergeStage codec input).of_ok rfl h.stage
  have hcache : staged.vckCache = ctx.vckCache :=
    ((vckCache_stable (· = ctx.vckCache)).mergeStage codec input).of_ok rfl h.stage
  obtain ⟨read, hread, hpassed⟩ := mergeSrx_passed h.srx hrequired
  rw [hcache, hroot] at hpassed
  obtain ⟨rootSw, hrootSw, hafter⟩ := (mergeCommit_accepted h.commit).1 hrequired
  obtain ⟨_, _, hsteps⟩ := (mergeStage_staged h.stage).checks
  have hsrx := hsteps.read.srx
  simp only [readSrxProof, hread.keys HDR_SRX_ROOT_SW (by decide), if_true, Except.bind_eq_ok,
    Except.pure_eq_ok] at hsrx
  obtain ⟨_, _, rootSw', hrootSw', proof, _, _, _, hsrx⟩ := hsrx
  have hsame : rootSw' = rootSw := by
    unfold headerBytes32OrFreeze at hrootSw hrootSw'
    cases hget : input.header.get? HDR_SRX_ROOT_SW with
    | none => simp [hget, freezeWith] at hrootSw
    | some value =>
      rw [hget] at hrootSw hrootSw'
      exact valueBytes32_unique hrootSw' hrootSw
  refine ⟨read, hread, hpassed.elim (hcached read hread) id, rootSw', proof, hsrx.symm, ?_⟩
  rw [← h.barrier, shadowRoot_applyBarrierAcceptanceCommit, hafter, hsame]

/-- In every run of `accept_anchor` from a context with nothing cached: an
accepted merge that changes the revocation roots outside the reclaim path
carries a payload verified from the shadow root of its group, and every move of
a shadow root is such a merge. Left out are the merges that the guard names. -/
theorem srx_shadow_roots_form_chain {ctx : AcceptanceContext} {inputs : List AnchorInput}
    {done later : List AnchorCall} {c : AnchorCall}
    (hfresh : ∀ key, ¬ ctx.vckCache.HoldsSrx key) (hstored : ∀ gid, ctx.KnowsStored gid)
    (hkeys : SrxKeysInjective codec (anchorCalls codec verifiers ctx inputs))
    (hcut : anchorCalls codec verifiers ctx inputs = done ++ c :: later)
    (hguard : ∀ m, c.checked codec = some m → c.SrxGuard codec m) :
    SrxChain codec verifiers c := by
  obtain ⟨hsettled, hc⟩ := anchorCalls_invariant (R := CacheSettled codec verifiers)
    (fun done ctx input h => h.step input) ⟨hstored, fun key h => absurd h (hfresh key)⟩ hcut
  have hmem : c ∈ anchorCalls codec verifiers ctx inputs := by simp [hcut]
  have hdone : ∀ d ∈ done, d ∈ anchorCalls codec verifiers ctx inputs := by
    intro d hd
    simp [hcut, hd]
  -- An accepted merge of the run, with the shadow root it leaves.
  have hmerge : c.Accepted → isMergeAnchor c.input.header = true → ∃ m,
      c.checked codec = some m ∧
      (srxRequired c.input.header m.roots m.pivot.pivotRecord = true →
        c.SrxLink codec verifiers m) ∧
      (srxRequired c.input.header m.roots m.pivot.pivotRecord = false →
        c.after.shadowRoot c.input.parts.gid = c.before.shadowRoot c.input.parts.gid) := by
    intro haccepted hmerge
    obtain ⟨outcome, hrun⟩ := callAnchor_ok (hc ▸ haccepted)
    rw [← hc] at hrun
    obtain ⟨st, staged, related, committed, root, hmergeDone⟩ := acceptAnchor_merge_done hmerge hrun
    have hm : c.checked codec = some st.checked :=
      AnchorCall.checked_eq_some.mpr ⟨st, staged, hmergeDone.stage, rfl⟩
    refine ⟨st.checked, hm, ?_, ?_⟩
    · intro hrequired
      refine hmergeDone.link hrequired fun read hread hheld => ?_
      rcases (hguard _ hm).version with hversion | hnone
      · exact cached_verified hkeys hdone hmem hsettled hm hread hversion hheld
      · obtain ⟨value, hvalue, hkey⟩ := hread.record
        exact absurd (hkey ▸ hheld) (hnone value hvalue)
    · intro hforbidden
      have hblind := shadowRoot_blind c.input.parts.gid
      rw [← hmergeDone.barrier, shadowRoot_applyBarrierAcceptanceCommit,
        (mergeCommit_accepted hmergeDone.commit).2 _ (.inl hforbidden)]
      exact ((hblind.mergeSrx codec verifiers _ _ _ _ _ _ _).of_ok hmergeDone.srx).trans
        (((hblind.stable _).toStable.mergeStage codec c.input).of_ok rfl hmergeDone.stage)
  constructor
  · intro haccepted hmergeAnchor
    obtain ⟨m, hm, hlink, -⟩ := hmerge haccepted hmergeAnchor
    refine ⟨m, hm, fun hreclaim hchanges => hlink (srxRequired_iff.mpr ⟨?_, hreclaim⟩)⟩
    intro hkeeps
    exact hchanges.elim (absurd hkeeps) ((hguard m hm).pivot hkeeps)
  · intro gid hmoved
    have hmoves : c.Accepted ∧ isMergeAnchor c.input.header = true ∧ gid = c.input.parts.gid := by
      by_contra hnot
      rw [hc] at hnot hmoved
      exact hmoved (callAnchor_shadowRoot gid hnot)
    obtain ⟨haccepted, hmergeAnchor, rfl⟩ := hmoves
    obtain ⟨m, hm, hlink, hkept⟩ := hmerge haccepted hmergeAnchor
    refine ⟨haccepted, rfl, m, hm, hlink ?_⟩
    by_contra hforbidden
    exact hmoved (hkept (by simpa using hforbidden))

end Run

section Sample
open Bytes32 (fill)

def weigh : Value → Nat
  | .bytes b => (b.headD 0).val
  | .integer i => i.toNat
  | _ => 0

def sumHash : HashL := fun _ value =>
  fill (Fin.ofNat 256 (match value with
    | .array values => (values.map weigh).sum + 1
    | .map entries => (entries.map fun e => weigh e.2).sum + 1
    | value => weigh value + 1))

def counterCbor : Value → Bytes
  | .map entries => (entries.filter fun e => weigh e.1 = HDR_FS_EC).map fun e =>
    Fin.ofNat 256 (weigh e.2)
  | _ => [0]

def sampleReader : Bytes → Option Value
  | [0] => some (hpEnvelope BARRIER_HP_CONTEXT_AUTHOR_LOCAL)
  | [leaf] => some (.bytes (fill leaf).val)
  | _ => none

def sampleVersion (b : Byte) : Nat := if b = 255 then U64_MAX else b.val

def sampleWire : WireDecoder where
  barrierUpdate
    | version :: prev :: nMax :: roots :: before :: after :: payload =>
      some ⟨"barrier-v1", sampleVersion version, sampleVersion prev, nMax.val, (fill roots).val,
        (fill before).val, (fill after).val, payload⟩
    | _ => none
  coverPayload _ := some ⟨0, 0, [0], none, [], []⟩
  historyCommitment _ := none

def sampleCodec : AnchorCodec where
  hL := sumHash
  toCbor := counterCbor
  fromReader := sampleReader
  fromUtf8 _ := none
  asBytes _ := []
  wire := sampleWire

def sampleProofs : AnchorProofs :=
  { lenientProofs with
    parseSrxPayload := fun value =>
      match value with
      | .bytes leaf =>
        match toBytes32 leaf with
        | some l => .ok ⟨[], [], [⟨leaf, leaf, []⟩], [], none, [l], none, []⟩
        | none => freezeWith freezeSrxInvalid
      | _ => freezeWith freezeSrxInvalid
    smallwoodVerify := fun inputs proof =>
      Except.ensure (inputs.shadowRootBefore.val.headD 0 = proof.headD 0)
        (.freeze freezeSrxSmallwoodInvalid) }

structure SampleAnchor where
  fsEc : Nat
  version : Nat
  revoked : Bytes32
  srx : Option (Bytes32 × Bytes) := none

namespace SampleAnchor

section
variable (a : SampleAnchor)

def seedCtx : Bytes := [Fin.ofNat 256 a.fsEc]

def weid : Bytes32 :=
  sampleCodec.deriveWeEpochId [1] Bytes32.zero.val (sampleCodec.computeSeedCtxHash a.seedCtx)

def parts : AnchorInstanceParts :=
  ⟨[1], [], (sampleCodec.tsweSaltHash [1] Bytes32.zero.val).val, Bytes32.zero.val, Bytes32.zero.val,
    a.revoked.val, a.revoked.val, none⟩

def rho : Bytes32 :=
  sampleCodec.deriveRhoCommitFromPop (List.replicate 4627 0)
    (sampleCodec.xkHash ⟨a.parts, a.weid, a.seedCtx, none⟩)

def fields (rho : Bytes32) (envelopeContext : String) : List (Nat × Value) :=
  commonFields a.fsEc a.version envelopeContext ++
    [(HDR_SEED_CTX_HASH, .bytes (sampleCodec.computeSeedCtxHash a.seedCtx).val),
      (HDR_RHO_COMMIT, .bytes rho.val),
      (HDR_SEED_BUNDLE_COMMIT,
        .bytes (sampleCodec.computeSeedBundleCommit a.seedCtx rho [1] [] .zero).val),
      (HDR_REVOKED_SINCE_ROOT, .bytes a.revoked.val), (HDR_REVOKED_ROOT, .bytes a.revoked.val),
      (HDR_PROOFS_COMMIT, .bytes (sampleCodec.computeProofsCommitBytes [1] [1] a.srx).val)]

def join (device : Byte) : AnchorInput :=
  ⟨a.parts, a.weid, OrdMap.ofList (a.fields a.rho BARRIER_HP_CONTEXT_AUTHOR_LOCAL ++
    [(HDR_POP_ALG, .text "ML-DSA-65"), (HDR_POP_PK, .bytes (List.replicate 2592 device)),
      (HDR_POP_SIG, .bytes (List.replicate 4627 0)),
      (HDR_FS_DEV_COMMIT, .bytes (AcceptanceContext.fsDevChain sumHash
        ⟨List.replicate 2592 device, a.fsEc, .zero, .zero, a.version, .zero⟩).val),
      (HDR_BARRIER_LEAF_PK, .bytes (List.replicate 1184 0))])⟩

def srxFields : List (Nat × Value) :=
  match a.srx with
  | none => []
  | some (rootSw, proof) =>
    [(HDR_SRX_COMMIT, .bytes (sumHash "srx/commit" (.bytes [a.revoked.val.headD 0])).val),
      (HDR_SRX_PAYLOAD, .bytes [a.revoked.val.headD 0]), (HDR_SRX_ROOT_SW, .bytes rootSw.val),
      (HDR_SRX_SMALLWOOD, .bytes proof)]

def rootsByte : Byte := (computeRevocationRootsHash sumHash a.revoked a.revoked).val.headD 0

def merge (pivot : SampleAnchor) (version prev : Byte) (extra : List (Nat × Value)) : AnchorInput :=
  ⟨a.parts, a.weid, OrdMap.ofList (a.fields pivot.rho BARRIER_HP_CONTEXT_BARRIER_RECOVERY ++
    [(HDR_MH_HEADS, .array [.bytes pivot.weid.val]), (HDR_ROLLUP_PIVOT_WEID, .bytes pivot.weid.val),
      (HDR_ROLLUP_FS_MODE, .text "fs-purge"), (HDR_FS_EVOLUTION_BOUNDARY, .bool true),
      (HDR_FS_CHECKPOINT_EC, .ofNat pivot.fsEc),
      (HDR_BARRIER_UPDATE, .bytes [version, prev, 1, a.rootsByte, 0, 0]),
      (HDR_BARRIER_UPDATE_REASON, .ofNat 0)] ++ a.srxFields ++ extra)⟩

end

end SampleAnchor

def sampleContext (version : Nat) : AcceptanceContext :=
  jumpContext.modifyBarrierGroup [1] fun state =>
    { state with
      barrierVersion := version
      barrierRootsHash := computeRevocationRootsHash sumHash .zero .zero }

def headA : SampleAnchor := { fsEc := 5, version := 0, revoked := .zero }
def headB : SampleAnchor := { fsEc := 6, version := 0, revoked := .zero }

def revoking : SampleAnchor :=
  { fsEc := 7, version := 1, revoked := fill 40, srx := some (fill 9, [0]) }

def rollingBack : SampleAnchor := { fsEc := 8, version := 2, revoked := .zero }

def headContext : AcceptanceContext :=
  (acceptAnchor sampleCodec sampleProofs (headA.join 10)).final (sampleContext 0)

theorem headContext_stored (gid : Bytes) : headContext.KnowsStored gid :=
  acceptAnchor_knowsStored gid (headA.join 10) (sampleContext 0)
    fun root hroot => absurd (by rfl) hroot

def revocation : AnchorCall :=
  callAnchor sampleCodec sampleProofs headContext (revoking.merge headA 1 0 [])

theorem srx_shadow_roots_form_chain_revoking :
    revocation.Accepted ∧ SrxChain sampleCodec sampleProofs revocation := by
  have hfresh : ∀ key, ¬ headContext.vckCache.HoldsSrx key := by
    have hempty : headContext.vckCache.entries = .empty := by decide +kernel
    intro key
    rw [VckCache.HoldsSrx, hempty]
    exact Bool.false_ne_true
  have hkeys : SrxKeysInjective sampleCodec (anchorCalls sampleCodec sampleProofs headContext
      [revoking.merge headA 1 0 []]) := srxKeysInjective_singleton _ revocation
  have hcut : anchorCalls sampleCodec sampleProofs headContext [revoking.merge headA 1 0 []] =
      [] ++ revocation :: [] := rfl
  have hroots : ∀ m ∈ revocation.checked sampleCodec, ¬ m.KeepsPivotRoots := by decide +kernel
  have hversion : revocation.before.barrierPosition revocation.input.parts.gid ≤ U64_MAX := by
    decide +kernel
  refine ⟨by decide +kernel, srx_shadow_roots_form_chain hfresh headContext_stored hkeys hcut ?_⟩
  intro m hm
  exact ⟨fun hkeeps => absurd hkeeps (hroots m (Option.mem_def.mpr hm)), .inl hversion⟩

def lastHeadA : SampleAnchor := { headA with version := U64_MAX }
def lastHeadB : SampleAnchor := { headB with version := U64_MAX }
def lastFirst : SampleAnchor := { revoking with version := U64_MAX }
def lastSecond : SampleAnchor :=
  { fsEc := 8, version := U64_MAX, revoked := fill 41, srx := some (fill 10, [0]) }

/-- A merge on a head from before the revocation takes the committed roots back
without a payload. At the last version a merge that was refused after its
relations had been verified is accepted once another one has moved the shadow
root, although its proof does not verify from there. -/
theorem srx_chain_broken :
    (∃ c ∈ anchorCalls sampleCodec sampleProofs (sampleContext 0) [headA.join 10, headB.join 11,
        revoking.merge headA 1 0 [], rollingBack.merge headB 2 1 []],
      c.Accepted ∧ isMergeAnchor c.input.header = true ∧
        isReclaimJoinFinalize c.input.header = false ∧ HDR_SRX_PAYLOAD ∉ c.input.header ∧
        ∃ m ∈ c.checked sampleCodec, c.ChangesCommitted sampleCodec m) ∧
    ∃ c ∈ anchorCalls sampleCodec sampleProofs (sampleContext U64_MAX) [lastHeadA.join 10,
        lastHeadB.join 11, lastFirst.merge lastHeadB 255 255 [(HDR_ROLLUP_PROVENANCE_COMMIT, zeroValue)],
        lastSecond.merge lastHeadA 255 255 [], lastFirst.merge lastHeadB 255 255 []],
      c.Accepted ∧ isMergeAnchor c.input.header = true ∧
        isReclaimJoinFinalize c.input.header = false ∧ c.before.shadowRoot [1] = fill 10 ∧
        c.after.shadowRoot [1] = fill 9 ∧ ∃ m ∈ c.checked sampleCodec, ¬ m.KeepsPivotRoots ∧
          ∃ read ∈ (readSrx sampleCodec sampleProofs c.input.header c.before.srxMaxBytes
              m.srxBinding).toOption,
            (verifySrxProof sampleCodec sampleProofs m.roots m.artifacts (c.before.shadowRoot [1])
              read.commit read.payload).isOk = false := by
  constructor <;> decide +kernel

end Sample

end CityG
