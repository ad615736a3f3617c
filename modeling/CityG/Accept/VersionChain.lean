import CityG.Accept.Calls
import CityG.Accept.ForwardJump

/-!
# The barrier versions of a group

The gate lets a group without barrier be initialised by a genesis merge only.
From then on every accepted update moves the version by one, the revocation
roots move with revocation merges only, and an anchor without update repeats
what is committed.
-/

namespace CityG

open Accept (BarrierGateDecision)

/-- The ways through `enforce_barrier_acceptance_gating` in a known group. -/
inductive GateOpened (anchorType : AnchorType) (state : BarrierGroupState)
    (gate : BarrierGateDecision) : Prop
  | genesis (uninitialized : state.barrierInitialized = false) (merge : anchorType = .merge)
      (reason : gate.barrierUpdateReason = some 0) (version : gate.barrierVersion = 0)
  | revocation (initialized : state.barrierInitialized = true) (merge : anchorType = .merge)
      (reason : gate.barrierUpdateReason = some 0)
      (version : gate.barrierVersion = saturatingAdd state.barrierVersion 1)
  | proactive (initialized : state.barrierInitialized = true) (merge : anchorType = .merge)
      (reason : gate.barrierUpdateReason = some 1 ∨ gate.barrierUpdateReason = some 2)
      (roots : gate.revocationRootsHash = state.barrierRootsHash)
      (version : gate.barrierVersion = saturatingAdd state.barrierVersion 1)
  | plain (initialized : state.barrierInitialized = true) (reason : gate.barrierUpdateReason = none)
      (roots : gate.revocationRootsHash = state.barrierRootsHash)
      (version : gate.barrierVersion = state.barrierVersion)

variable {gate : BarrierGateDecision} {header : HeaderMap} {ctx : AcceptanceContext} {gid : Bytes}

theorem checkBarrierGate_opened {anchorType : AnchorType} {state : BarrierGroupState}
    {device : Option DeviceChainState} {u : Unit}
    (h : Accept.checkBarrierGate anchorType state gate device = .ok u) :
    GateOpened anchorType state gate := by
  unfold Accept.checkBarrierGate at h
  split_ifs at h with hec hinit hroots hreason
  · cases h
  · unfold Accept.checkGenesisMerge at h
    split at h
    · obtain ⟨hmerge, hreason, hversion, -⟩ := Except.ensure_eq_ok.mp h
      exact .genesis hinit hmerge hreason hversion
    · split at h <;> cases h
  · unfold Accept.checkRevocationMerge at h
    split_ifs at h
    · cases h
    · split at h
      · obtain ⟨hmerge, hreason, hnext⟩ := Except.ensure_eq_ok.mp h
        exact .revocation (by simpa using hinit) hmerge hreason hnext.1
      · cases h
  · unfold Accept.checkProactiveMerge at h
    split at h
    · cases h
    · simp only [Except.bind_eq_ok, Except.ensure_eq_ok] at h
      obtain ⟨_, ⟨hmerge, hreason, hnext⟩, _⟩ := h
      exact .proactive (by simpa using hinit) hmerge hreason (by simpa using hroots) hnext.1
  · exact .plain (by simpa using hinit) (by simpa using hreason) (by simpa using hroots)
      (Except.ensure_eq_ok.mp h)

def headerBarrierVersion (header : HeaderMap) : Option Nat :=
  (header.get? HDR_BARRIER_VERSION).bind Value.asU64

def headerUpdateReason (header : HeaderMap) : Option Nat :=
  (header.get? HDR_BARRIER_UPDATE_REASON).bind Value.asU64

structure GateRead (codec : AnchorCodec) (header : HeaderMap) (gate : BarrierGateDecision) :
    Prop where
  version : headerBarrierVersion header = some gate.barrierVersion
  update : gate.barrierUpdateReason.isSome = true ↔ HDR_BARRIER_UPDATE ∈ header
  reasoned : HDR_BARRIER_UPDATE_REASON ∈ header → HDR_BARRIER_UPDATE ∈ header
  reason : ∀ reason ∈ gate.barrierUpdateReason, headerUpdateReason header = some reason
  roots : Accept.headerRevocationRootsHash codec.hL header = .ok gate.revocationRootsHash

theorem readBarrierGate_read {state : BarrierGroupState} {codec : AnchorCodec}
    (h : Accept.readBarrierGate codec header state = .ok gate) : GateRead codec header gate := by
  simp only [Accept.readBarrierGate, Except.bind_eq_ok, Except.pure_eq_ok] at h
  obtain ⟨version, hversion, _, _, reason, hreason, _, _, roots, hroots, _, _, _, _, rfl⟩ := h
  have hupdate : (reason.isSome = true ↔ HDR_BARRIER_UPDATE ∈ header) ∧
      (HDR_BARRIER_UPDATE_REASON ∈ header → HDR_BARRIER_UPDATE ∈ header) ∧
      ∀ r ∈ reason, headerUpdateReason header = some r := by
    unfold Accept.parseBarrierUpdateReason at hreason
    split_ifs at hreason with hmem hreasonMem
    · simp only [headerU64OrFreeze, Except.bind_eq_ok, Except.ofOption_eq_ok,
        Except.pure_eq_ok] at hreason
      obtain ⟨r, hr, _, _, rfl⟩ := hreason
      exact ⟨by simp [hmem], fun _ => hmem, by simpa [headerUpdateReason] using hr⟩
    · cases hreason
    · cases Except.pure_eq_ok.mp hreason
      exact ⟨by simp [hmem], fun h => absurd h hreasonMem, by simp⟩
  exact ⟨Except.ofOption_eq_ok.mp hversion, hupdate.1, hupdate.2.1, hupdate.2.2, hroots⟩

variable {codec : AnchorCodec} {verifiers : AnchorProofs}

theorem callAnchor_rejected {input : AnchorInput} (gid : Bytes)
    (h : ¬ (callAnchor codec verifiers ctx input).Accepted) :
    gateView gid (callAnchor codec verifiers ctx input).after = gateView gid ctx := by
  obtain ⟨_, -, haccepted⟩ | ⟨e, hrun, -⟩ := @callAnchor_run codec verifiers ctx input
  · exact absurd haccepted h
  simp only [acceptAnchor, EStateM.bind_eq_error, EStateM.modify_ne_error, false_or,
    EStateM.modify_eq_ok, EStateM.check_eq_error, EStateM.check_eq_ok, EStateM.pure_ne_error,
    and_false, exists_false, or_false, Except.pure_eq_ok] at hrun
  obtain ⟨_, _, rfl, ⟨hclock, _⟩ | ⟨now, _, ⟨_, rfl⟩, ⟨_, hafter⟩ | ⟨gate, _, ⟨_, rfl⟩, hpipeline⟩⟩⟩ :=
    hrun
  · cases hclock
  · rw [← hafter]
    rfl
  · have hafter := ((gateView_blind gid).acceptAnchorPipeline codec verifiers input gate.2
      gate.1.barrierUpdateDigest now ctx.startAnchor).of_error hpipeline
    exact hafter

theorem enforceGate_opened
    (h : ctx.enforceBarrierAcceptanceGating codec gid header (classifyAnchorType header) = .ok gate) :
    GateRead codec header gate ∧ (ctx.Knows gid →
      GateOpened (classifyAnchorType header) (ctx.barrierGroupStateEntry gid) gate) := by
  simp only [AcceptanceContext.enforceBarrierAcceptanceGating, Except.bind_eq_ok,
    Except.pure_eq_ok] at h
  obtain ⟨_, hread, _, hgate, rfl⟩ := h
  refine ⟨readBarrierGate_read hread, ?_⟩
  intro hknown
  obtain ⟨state, hstate⟩ := Option.isSome_iff_exists.mp hknown
  simp only [AcceptanceContext.checkGroupGate, hstate] at hgate
  simpa [AcceptanceContext.barrierGroupStateEntry, hstate] using checkBarrierGate_opened hgate

structure AnchorCall.Updates (gid : Bytes) (c : AnchorCall) : Prop where
  accepted : c.Accepted
  group : c.input.parts.gid = gid
  update : HDR_BARRIER_UPDATE ∈ c.input.header

theorem GatePassed.after_eq {before after : AcceptanceContext}
    (h : GatePassed codec gid header before after gate) :
    (HDR_BARRIER_UPDATE ∈ header →
      (after.barrierGroupStateEntry gid).barrierInitialized = true ∧
      (after.barrierGroupStateEntry gid).barrierVersion = gate.barrierVersion ∧
      (after.barrierGroupStateEntry gid).barrierRootsHash = gate.revocationRootsHash) ∧
    (HDR_BARRIER_UPDATE ∉ header → gateView gid after = gateView gid before) := by
  have hgroup := h.group
  unfold BarrierGateDecision.commit at hgroup
  constructor
  · intro hupdate
    rw [if_pos ((enforceGate_opened h.passed).1.update.mpr hupdate)] at hgroup
    simp only [gateView, BarrierGroupState.gateFields, BarrierGroupState.mk.injEq] at hgroup
    obtain ⟨hinit, hversion, hroots, -⟩ := hgroup
    exact ⟨hinit, hversion, hroots⟩
  · intro hplain
    rw [if_neg (fun hsome => hplain ((enforceGate_opened h.passed).1.update.mp hsome))] at hgroup
    exact hgroup

theorem GatePassed.initialized {before after : AcceptanceContext}
    (h : GatePassed codec gid header before after gate) (hknown : before.Knows gid) :
    (after.barrierGroupStateEntry gid).barrierInitialized = true := by
  obtain ⟨hread, hopened⟩ := enforceGate_opened h.passed
  by_cases hupdate : HDR_BARRIER_UPDATE ∈ header
  · exact (h.after_eq.1 hupdate).1
  · have hinit := congrArg BarrierGroupState.barrierInitialized (h.after_eq.2 hupdate)
    change (after.barrierGroupStateEntry gid).barrierInitialized =
      (before.barrierGroupStateEntry gid).barrierInitialized at hinit
    rw [hinit]
    -- Without update only a plain anchor is let through.
    cases hopened hknown with
    | genesis _ _ hreason => exact absurd (hread.update.mp (by simp [hreason])) hupdate
    | revocation hinitialized => exact hinitialized
    | proactive hinitialized => exact hinitialized
    | plain hinitialized => exact hinitialized

theorem initialized_iff_updated {done : List AnchorCall} (input : AnchorInput)
    (h : (ctx.barrierGroupStateEntry gid).barrierInitialized = true ↔ ∃ u ∈ done, u.Updates gid) :
    ((callAnchor codec verifiers ctx input).after.barrierGroupStateEntry gid).barrierInitialized =
        true ↔
      ∃ u ∈ done ++ [callAnchor codec verifiers ctx input], u.Updates gid := by
  set c := callAnchor codec verifiers ctx input with hc
  -- Unless the call updates the group, its barrier and the updates so far stay.
  have hother : gateView gid c.after = gateView gid ctx → ¬ c.Updates gid →
      ((c.after.barrierGroupStateEntry gid).barrierInitialized = true ↔
        ∃ u ∈ done ++ [c], u.Updates gid) := by
    intro hview hnot
    have hinit := congrArg BarrierGroupState.barrierInitialized hview
    change (c.after.barrierGroupStateEntry gid).barrierInitialized =
      (ctx.barrierGroupStateEntry gid).barrierInitialized at hinit
    rw [hinit, h]
    simp [hnot]
  by_cases haccepted : c.Accepted
  · obtain ⟨outcome, hok⟩ := callAnchor_ok haccepted
    obtain ⟨gate, hgate⟩ := acceptAnchor_gate hok
    by_cases hgid : gid = input.parts.gid
    · subst hgid
      by_cases hupdate : HDR_BARRIER_UPDATE ∈ input.header
      · exact iff_of_true (hgate.after_eq.1 hupdate).1 ⟨c, by simp, haccepted, rfl, hupdate⟩
      · exact hother (hgate.after_eq.2 hupdate) fun hu => hupdate hu.update
    · exact hother (hgate.others gid hgid) fun hu => hgid hu.group.symm
  · exact hother (callAnchor_rejected gid haccepted) fun hu => haccepted hu.accepted

structure BarrierChain (codec : AnchorCodec) (gid : Bytes) (done : List AnchorCall)
    (c : AnchorCall) : Prop where
  first : c.Updates gid → (∀ u ∈ done, ¬ u.Updates gid) →
    isMergeAnchor c.input.header = true ∧ headerUpdateReason c.input.header = some 0 ∧
      headerBarrierVersion c.input.header = some 0 ∧
      (c.after.barrierGroupStateEntry gid).barrierVersion = 0
  next : c.Updates gid → (∃ u ∈ done, u.Updates gid) →
    (c.before.barrierGroupStateEntry gid).barrierVersion < U64_MAX →
    (c.after.barrierGroupStateEntry gid).barrierVersion =
      (c.before.barrierGroupStateEntry gid).barrierVersion + 1
  roots : (c.after.barrierGroupStateEntry gid).barrierRootsHash ≠
      (c.before.barrierGroupStateEntry gid).barrierRootsHash →
    c.Accepted ∧ c.input.parts.gid = gid ∧ isMergeAnchor c.input.header = true ∧
      headerUpdateReason c.input.header = some 0
  plain : c.Accepted → c.input.parts.gid = gid → HDR_BARRIER_UPDATE ∉ c.input.header →
    (c.before.barrierGroupStateEntry gid).barrierInitialized = true →
    headerBarrierVersion c.input.header =
        some (c.before.barrierGroupStateEntry gid).barrierVersion ∧
      Accept.headerRevocationRootsHash codec.hL c.input.header =
        .ok (c.before.barrierGroupStateEntry gid).barrierRootsHash

theorem isMergeAnchor_of_update (h : HDR_BARRIER_UPDATE ∈ header) :
    isMergeAnchor header = true := by
  simp [isMergeAnchor, classifyAnchorType, h]

theorem knows_of_initialized (h : (ctx.barrierGroupStateEntry gid).barrierInitialized = true) :
    ctx.Knows gid := by
  unfold AcceptanceContext.Knows
  unfold AcceptanceContext.barrierGroupStateEntry at h
  cases hstate : ctx.barrierGroupState gid with
  | none => simp [hstate] at h
  | some state => rfl

theorem callAnchor_chain {done : List AnchorCall} (input : AnchorInput)
    (hstored : ctx.KnowsStored gid)
    (hinit : (ctx.barrierGroupStateEntry gid).barrierInitialized = true ↔ ∃ u ∈ done, u.Updates gid) :
    BarrierChain codec gid done (callAnchor codec verifiers ctx input) := by
  set c := callAnchor codec verifiers ctx input with hc
  have hroots : gateView gid c.after = gateView gid ctx →
      (c.after.barrierGroupStateEntry gid).barrierRootsHash =
        (ctx.barrierGroupStateEntry gid).barrierRootsHash := by
    intro hview
    have hroots := congrArg BarrierGroupState.barrierRootsHash hview
    exact hroots
  by_cases haccepted : c.Accepted
  swap
  · exact ⟨fun h => absurd h.accepted haccepted, fun h => absurd h.accepted haccepted,
      fun h => absurd (hroots (callAnchor_rejected gid haccepted)) h,
      fun h => absurd h haccepted⟩
  obtain ⟨outcome, hok⟩ := callAnchor_ok haccepted
  obtain ⟨gate, hgate⟩ := acceptAnchor_gate hok
  by_cases hgid : gid = input.parts.gid
  swap
  · exact ⟨fun h => absurd h.group.symm hgid, fun h => absurd h.group.symm hgid,
      fun h => absurd (hroots (hgate.others gid hgid)) h, fun _ h => absurd h.symm hgid⟩
  subst hgid
  obtain ⟨hread, hopened⟩ := enforceGate_opened hgate.passed
  obtain ⟨hupdated, hkept⟩ := hgate.after_eq
  have hknown : HDR_BARRIER_UPDATE ∈ input.header → ctx.Knows input.parts.gid := fun hupdate =>
    acceptAnchor_merge_known (isMergeAnchor_of_update hupdate) hstored hok
  refine ⟨?_, ?_, ?_, ?_⟩
  · intro hu hfirst
    have huninit : (ctx.barrierGroupStateEntry input.parts.gid).barrierInitialized ≠ true := by
      rw [Ne, hinit]
      simpa using hfirst
    cases hopened (hknown hu.update) with
    | genesis _ hmerge hreason hversion =>
      exact ⟨isMergeAnchor_of_update hu.update, hread.reason 0 hreason, hversion ▸ hread.version,
        (hupdated hu.update).2.1.trans hversion⟩
    | revocation h | proactive h | plain h => exact absurd h huninit
  · intro hu hlater hbound
    have hversion : gate.barrierVersion =
        saturatingAdd (ctx.barrierGroupStateEntry input.parts.gid).barrierVersion 1 := by
      cases hopened (hknown hu.update) with
      | genesis h => exact absurd (hinit.mpr hlater) (by simp [h])
      | revocation _ _ _ h | proactive _ _ _ _ h => exact h
      | plain _ h => exact absurd (hread.update.mpr hu.update) (by simp [h])
    rw [(hupdated hu.update).2.1, hversion]
    exact min_eq_left hbound
  · intro hchanged
    have hupdate : HDR_BARRIER_UPDATE ∈ input.header :=
      by_contra fun hplain => hchanged (hroots (hkept hplain))
    refine ⟨haccepted, rfl, isMergeAnchor_of_update hupdate, ?_⟩
    cases hopened (hknown hupdate) with
    | genesis _ _ h | revocation _ _ h => exact hread.reason 0 h
    | proactive _ _ _ h => exact absurd ((hupdated hupdate).2.2.trans h) hchanged
    | plain _ h => exact absurd (hread.update.mpr hupdate) (by simp [h])
  · intro _ _ hplain hinitialized
    have hnone : gate.barrierUpdateReason.isSome ≠ true := fun h => hplain (hread.update.mp h)
    cases hopened (knows_of_initialized hinitialized) with
    | genesis h => exact absurd (h.symm.trans hinitialized) Bool.false_ne_true
    | revocation _ _ h => simp [h] at hnone
    | proactive _ _ h => rcases h with h | h <;> simp [h] at hnone
    | plain _ _ hr hv => exact ⟨hv ▸ hread.version, hr ▸ hread.roots⟩

/-- In every run of `accept_anchor` on a group that starts without barrier,
wherever the run is cut: the first accepted update is a genesis merge, every
later one raises the version by one, the roots move with revocation merges
only, and an anchor without update repeats what is committed. -/
theorem barrier_versions_form_chain {gid : Bytes} {ctx : AcceptanceContext}
    {inputs : List AnchorInput} {done later : List AnchorCall} {c : AnchorCall}
    (hstart : (ctx.barrierGroupStateEntry gid).barrierInitialized = false)
    (hstored : ctx.KnowsStored gid)
    (hcut : anchorCalls codec verifiers ctx inputs = done ++ c :: later) :
    BarrierChain codec gid done c := by
  obtain ⟨⟨hknows, hinit⟩, hc⟩ := anchorCalls_invariant
    (R := fun done ctx => ctx.KnowsStored gid ∧
      ((ctx.barrierGroupStateEntry gid).barrierInitialized = true ↔ ∃ u ∈ done, u.Updates gid))
    (fun done ctx input h => ⟨acceptAnchor_knowsStored gid input ctx h.1,
      initialized_iff_updated input h.2⟩)
    ⟨hstored, by simp [hstart]⟩ hcut
  rw [hc]
  exact callAnchor_chain c.input hknows hinit

def genesisCodec : AnchorCodec :=
  { zeroCodec with
    wire :=
      { zeroCodec.wire with
        barrierUpdate := fun _ => some ⟨"barrier-v1", 0, 0, 1, Bytes32.zero.val, Bytes32.zero.val,
          Bytes32.zero.val, []⟩ } }

def genesisContext : AcceptanceContext :=
  ((acceptAnchor genesisCodec lenientProofs jumpJoin).final jumpContext).modifyBarrierGroup [1]
    fun _ => { nMax := 1, lastAcceptedEc := 5 }

def genesisMerge : AnchorInput :=
  ⟨jumpParts, .zero, OrdMap.ofList (commonFields 6 0 BARRIER_HP_CONTEXT_BARRIER_RECOVERY ++
    [(HDR_MH_HEADS, .array [zeroValue]), (HDR_ROLLUP_PIVOT_WEID, zeroValue),
      (HDR_ROLLUP_FS_MODE, .text "fs-purge"), (HDR_FS_EVOLUTION_BOUNDARY, .bool true),
      (HDR_FS_CHECKPOINT_EC, .ofNat 5), (HDR_BARRIER_UPDATE, .bytes []),
      (HDR_BARRIER_UPDATE_REASON, .ofNat 0)])⟩

theorem barrier_versions_form_chain_genesis :
    (callAnchor genesisCodec lenientProofs genesisContext genesisMerge).Updates [1] ∧
      BarrierChain genesisCodec [1] []
        (callAnchor genesisCodec lenientProofs genesisContext genesisMerge) := by
  have hknown : genesisContext.Knows [1] := AcceptanceContext.knows_modify.mpr (.inl rfl)
  have hcut : anchorCalls genesisCodec lenientProofs genesisContext [genesisMerge] =
      [] ++ callAnchor genesisCodec lenientProofs genesisContext genesisMerge :: [] := rfl
  exact ⟨⟨by decide +kernel, rfl, by decide⟩,
    barrier_versions_form_chain (by decide +kernel) (fun _ _ => hknown) hcut⟩

end CityG
