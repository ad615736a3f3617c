import CityG.BarrierStored
import CityG.Server.Epoch
import CityG.Server.Run

/-!
# The tree of a group and its hash, on the server

The hash of a group's tree stands in the roster and in the acceptance context,
the tree and the cache of its hashes in the roster only. Requests leave them
alone or start from a blank tree, a join writes back what the context holds, and
an update brings a tree together with its hash and cache.
-/

namespace CityG

open EStateM (check Keeps Preserves)

namespace GroupState

def treeFields (state : GroupState) :
    Bool × Bytes32 × Nat × PkEntries × Option BarrierHashCache :=
  (state.barrierInitialized, state.kemTreeHashAfter, state.treeNMax, state.barrierPkEntries,
    state.barrierHashCache)

variable {hL : HashL} {state state' : GroupState}

theorem StoredTree.congr (h : state'.treeFields = state.treeFields) (hs : state.StoredTree hL) :
    state'.StoredTree hL := by
  simp only [treeFields, Prod.mk.injEq] at h
  obtain ⟨hinit, hhash, hnMax, hentries, hcache⟩ := h
  refine ⟨fun hi => ?_, fun hsize cache hc => ?_, fun hi => ?_⟩
  · rw [hnMax, hentries, hhash]
    exact hs.hashed (hinit ▸ hi)
  · rw [hnMax, hentries]
    exact hs.cached (hnMax ▸ hsize) cache (hcache ▸ hc)
  · rw [hcache]
    exact hs.uncached (hinit ▸ hi)

theorem Adjusts.treeFields (h : state.Adjusts state') : state'.treeFields = state.treeFields := by
  induction h with
  | refl => rfl
  | trans _ _ ih ih' => exact ih'.trans ih
  | history h =>
    have hfields := congrArg GroupState.treeFields h
    exact hfields
  | joinHistory h =>
    obtain ⟨_, rfl⟩ := pruneJoinHistory_ok h
    rfl
  | kbroad | maxBytes | slots | nextIndex | pending | admins => rfl

end GroupState

def BarrierGroupState.treeFields (barrier : BarrierGroupState) : Bool × Bytes32 × Nat :=
  (barrier.barrierInitialized, barrier.kemTreeHashAfter, barrier.nMax)

/-- What holds between the barrier fields of the context and the group of the roster. The tree is
taken over into the context only once it is there; `size` says which tree sizes the group may
have. -/
structure TreeKept (hL : HashL) (size : Nat → Prop) (barrier : BarrierGroupState)
    (state : GroupState) : Prop where
  stored : state.StoredTree hL
  sized : size state.treeNMax
  contextSized : size (max barrier.nMax 1)
  uncached : barrier.barrierInitialized = false → state.barrierHashCache = none
  mirrored : barrier.barrierInitialized = true → state.barrierInitialized = true ∧
    state.kemTreeHashAfter = barrier.kemTreeHashAfter ∧ state.treeNMax = max barrier.nMax 1

namespace TreeKept
variable {hL : HashL} {size : Nat → Prop} {barrier barrier' : BarrierGroupState}
  {state state' : GroupState}

theorem congr (h : TreeKept hL size barrier state) (hb : barrier'.treeFields = barrier.treeFields)
    (hs : state'.treeFields = state.treeFields) : TreeKept hL size barrier' state' := by
  have hstored := h.stored.congr hs
  simp only [GroupState.treeFields, Prod.mk.injEq] at hs
  obtain ⟨hinit, hhash, hnMax, -, hcache⟩ := hs
  simp only [BarrierGroupState.treeFields, Prod.mk.injEq] at hb
  obtain ⟨hbinit, hbhash, hbnMax⟩ := hb
  refine ⟨hstored, hnMax ▸ h.sized, hbnMax ▸ h.contextSized, fun hb => ?_, fun hb => ?_⟩
  · exact hcache.trans (h.uncached (hbinit ▸ hb))
  · obtain ⟨hi, hk, hn⟩ := h.mirrored (hbinit ▸ hb)
    exact ⟨hinit.trans hi, hhash.trans (hk.trans hbhash.symm), hnMax.trans (hn.trans (hbnMax ▸ rfl))⟩

theorem context_uninitialized (h : TreeKept hL size barrier state)
    (hinit : state.barrierInitialized = false) : barrier.barrierInitialized = false := by
  by_contra hne
  have hset := (h.mirrored (Bool.not_eq_false _ ▸ hne)).1
  rw [hinit] at hset
  cases hset

theorem mirror (h : TreeKept hL size barrier state) :
    TreeKept hL size state.barrierState state := by
  have hmax : max state.barrierState.nMax 1 = state.treeNMax := max_eq_left (le_max_right _ _)
  exact ⟨h.stored, h.sized, hmax ▸ h.sized, h.stored.uncached, fun hi => ⟨hi, rfl, hmax.symm⟩⟩

theorem initializes {env : ServerEnv} (hi : state.Initializes env state')
    (h : TreeKept env.hL size barrier state) : TreeKept env.hL size barrier state' := by
  induction hi with
  | trans _ _ ih ih' => exact ih' (ih h)
  | adjusts hadjusts => exact h.congr rfl hadjusts.treeFields
  | @bootstrap state blank kemTreeHash hfresh huninitialized hblank hhash =>
    have hnone := h.stored.uncached huninitialized
    have hmax : max state.treeNMax 1 = state.treeNMax := max_eq_left (le_max_right _ _)
    refine ⟨⟨fun _ => ?_, fun _ cache hcache => ?_, nofun⟩, ?_, h.contextSized, fun _ => hnone,
      fun hb => ?_⟩
    · exact (congrArg (computeBarrierTreeHash env.hL · blank) hmax).trans hhash
    · rw [show (state.bootstrapped _ kemTreeHash blank).barrierHashCache =
        state.barrierHashCache from rfl, hnone] at hcache
      cases hcache
    · exact (congrArg size hmax).mpr h.sized
    · rw [h.context_uninitialized huninitialized] at hb
      cases hb

end TreeKept

def TreesKept (hL : HashL) (size : Bytes → Nat → Prop) (ctx : AcceptanceContext)
    (roster : GroupRoster) : Prop :=
  ∀ gid, TreeKept hL (size gid) (gateView gid ctx) (roster.group gid)

section Requests
variable {env : ServerEnv} {size : Bytes → Nat → Prop} {server server' : CityGServer}

theorem gateView_insertBarrierGroupState (ctx : AcceptanceContext) (gid gid' : Bytes)
    (barrier : BarrierGroupState) :
    gateView gid' (ctx.insertBarrierGroupState gid barrier) =
      if gid' = gid then barrier.gateFields else gateView gid' ctx := by
  unfold gateView AcceptanceContext.barrierGroupStateEntry AcceptanceContext.barrierGroupState
    AcceptanceContext.insertBarrierGroupState
  rw [OrdMap.get?_insert]
  split <;> rfl

theorem TreesKept.putGroup {ctx : AcceptanceContext} {roster : GroupRoster} {gid : Bytes}
    {state : GroupState} (h : TreesKept env.hL size ctx roster)
    (hgid : TreeKept env.hL (size gid) (gateView gid ctx) state) :
    TreesKept env.hL size ctx (roster.insert gid state) := by
  intro gid'
  rw [GroupRoster.group_insert]
  split
  · next heq => exact heq ▸ hgid
  · exact h gid'

theorem TreesKept.mirrorGroup (h : TreesKept env.hL size server.ctx server.roster) (gid : Bytes) :
    TreesKept env.hL size (server.mirrorGroup gid).ctx (server.mirrorGroup gid).roster := by
  intro gid'
  rw [show (server.mirrorGroup gid).ctx = server.ctx.insertBarrierGroupState gid
    (server.roster.group gid).barrierState from rfl, gateView_insertBarrierGroupState]
  split
  · next heq =>
      subst heq
      exact (h gid').mirror.congr rfl rfl
  · exact h gid'

theorem TreesKept.adjusts (hadjusts : server.Adjusts server')
    (h : TreesKept env.hL size server.ctx server.roster) :
    TreesKept env.hL size server'.ctx server'.roster := by
  induction hadjusts with
  | refl => exact h
  | trans _ _ ih ih' => exact ih' (ih h)
  | group hgroup => exact h.putGroup ((h _).congr rfl hgroup.treeFields)
  | kbroad | pivots => exact h

theorem TreesKept.manages (hmanages : server.Manages env server')
    (h : TreesKept env.hL size server.ctx server.roster) :
    TreesKept env.hL size server'.ctx server'.roster := by
  induction hmanages with
  | trans _ _ ih ih' => exact ih' (ih h)
  | adjusts hadjusts => exact h.adjusts hadjusts
  | initializes hinit => exact h.putGroup (.initializes hinit (h _))
  | mirror server gid => exact h.mirrorGroup gid

end Requests

namespace GroupState

theorem applyDelta_treeFields {H : MerkleHash} {state state' : GroupState} {baseRoot root : Bytes32}
    {delta : MembershipDelta} (h : state.applyDelta H baseRoot delta = (state', .ok root)) :
    state'.treeFields = state.treeFields := by
  obtain ⟨_, _, _, _, rfl⟩ := applyDelta_edits h
  rfl

theorem recordCurrentUpdate_treeFields (header : HeaderMap) (before state : GroupState)
    (validation : Option BarrierUpdateValidationOutcome) :
    (recordCurrentUpdate header before validation state).treeFields = state.treeFields := by
  unfold recordCurrentUpdate
  split <;> rfl

theorem treeFields_of_withoutLeaves {state state' : GroupState}
    (h : state'.withoutLeaves = state.withoutLeaves) : state'.treeFields = state.treeFields := by
  have hfields := congrArg treeFields h
  exact hfields

theorem treeFields_of_withoutHistory {state state' : GroupState}
    (h : state'.withoutHistory = state.withoutHistory) : state'.treeFields = state.treeFields := by
  have hfields := congrArg treeFields h
  exact hfields

end GroupState

theorem KeepsCore.treeFields {α : Type} {x : EStateM CityGError GroupState α} {a : α}
    {state state' : GroupState} (h : KeepsCore x) (hok : x state = .ok a state') :
    state'.treeFields = state.treeFields :=
  GroupState.treeFields_of_withoutHistory (Keeps.of_ok h hok)

section Epoch
variable {env : ServerEnv} {bundle : ClientEpochBundle} {prepared : Prepared}
  {barrier : BarrierGroupState} {start done activated member changed : GroupState}
  {newRoot : Bytes32} {fields : MemberFields} {token : Option Bytes32}

theorem CommitSteps.treeFields_changed (h : CommitSteps env bundle prepared barrier start done newRoot
    activated member changed fields token) :
    (GroupState.finalizeJoin token fields.popPk changed).treeFields =
      (barrier.barrierInitialized, barrier.kemTreeHashAfter, max barrier.nMax 1,
        start.barrierPkEntries, start.barrierHashCache) := by
  obtain ⟨record, -, happlied⟩ := h.record
  have hactivated := GroupState.treeFields_of_withoutLeaves
    ((GroupState.KeepsOffLeaves.activateSlotLeases _).of_ok h.activate)
  simp only [GroupState.treeFields, Prod.mk.injEq] at hactivated
  obtain ⟨-, -, -, hentries, hcache⟩ := hactivated
  have hmax : max (max barrier.nMax 1) 1 = max barrier.nMax 1 := max_eq_left (le_max_right _ _)
  calc (GroupState.finalizeJoin token fields.popPk changed).treeFields
      = changed.treeFields := GroupState.treeFields_of_withoutLeaves
        (GroupState.finalizeJoin_withoutLeaves _ _ _)
    _ = member.treeFields := GroupState.treeFields_of_withoutLeaves
        ((GroupState.KeepsOffLeaves.changeMembers _ _).of_ok h.change)
    _ = ((record.map (activated.withBarrierState barrier).putMergeRecord).getD
          (activated.withBarrierState barrier)).treeFields :=
        (GroupState.applyDelta_treeFields happlied).trans
          (GroupState.recordCurrentUpdate_treeFields _ _ _ _)
    _ = (activated.withBarrierState barrier).treeFields := by cases record <;> rfl
    _ = _ := by
        rw [← hentries, ← hcache, ← hmax]
        rfl

theorem CommitSteps.treeFields_join (h : CommitSteps env bundle prepared barrier start done newRoot
    activated member changed fields token) (hnone : prepared.validation = none) :
    done.treeFields = (barrier.barrierInitialized, barrier.kemTreeHashAfter, max barrier.nMax 1,
      start.barrierPkEntries, start.barrierHashCache) := by
  have htree := h.tree
  rw [hnone, commitTree, EStateM.pure_eq_ok] at htree
  exact htree.2 ▸ h.treeFields_changed

theorem CommitSteps.treeFields_merge (h : CommitSteps env bundle prepared barrier start done newRoot
    activated member changed fields token) {validation : BarrierUpdateValidationOutcome}
    (hsome : prepared.validation = some validation) :
    done.treeFields = (barrier.barrierInitialized, validation.parsed.kemTreeHashAfter,
      max validation.parsed.treeSize 1, validation.snapshotPost, validation.hashCachePost) := by
  have hchanged := h.treeFields_changed
  have htree := h.tree
  simp only [hsome, commitTree, EStateM.check_bind_eq_ok, EStateM.modify_bind_eq_ok] at htree
  obtain ⟨_, -, _, -, htree⟩ := htree
  simp only [EStateM.bind_eq_ok, EStateM.check_eq_ok] at htree
  obtain ⟨_, _, hensured, _, _, ⟨-, rfl⟩, _, _, hrecorded, hdone⟩ := htree
  have hkept : done.treeFields = ((GroupState.finalizeJoin token fields.popPk changed).putTreeState
      validation).treeFields :=
    ((KeepsCore.record _ _ _).treeFields hdone).trans
      (((KeepsCore.recordWithMetadata _ _ _ _).treeFields hrecorded).trans
        ((KeepsCore.ensureCurrent _ _ _).treeFields hensured))
  have hmax : max (max validation.parsed.treeSize 1) 1 = max validation.parsed.treeSize 1 :=
    max_eq_left (le_max_right _ _)
  simp only [GroupState.treeFields, Prod.mk.injEq] at hchanged
  rw [hkept, ← hchanged.1, ← hmax]
  rfl

end Epoch

theorem parseBarrierUpdate_size {dec : WireDecoder} {header : HeaderMap} {nMax : Nat}
    {parsed : ParsedBarrierUpdate} (h : parseBarrierUpdate dec header nMax = .ok (some parsed)) :
    parsed.treeSize = nMax ∧ max nMax 1 = nMax ∧ expectedTreeLen nMax = .ok (2 * nMax - 1) ∧
      (parsed.newPublicKeys ≠ [] ↔ 2 ≤ nMax) := by
  unfold parseBarrierUpdate at h
  split at h
  · simp only [Except.bind_eq_ok, Except.ensure_eq_ok, Except.pure_eq_ok, Option.some.injEq] at h
    obtain ⟨_, ⟨hpow, hbound⟩, wire, -, _, ⟨-, hsize⟩, payload, -, _, hwell, _, -, _, -, _, -, rfl⟩ :=
      h
    obtain ⟨⟨hslot, hhead, hlast, -⟩, -, ⟨hlength, hnodes, -⟩, -⟩ := hwell
    have hpos : nMax ≠ 0 := by
      simp only [isPowerOfTwo, decide_eq_true_eq] at hpow
      exact hpow.1
    have hexpected : expectedTreeLen nMax = .ok (2 * nMax - 1) := by
      simp only [expectedTreeLen, Except.bind_eq_ok, Except.ensure_eq_ok, Except.pure_eq_ok]
      exact ⟨(), ⟨hpos, hbound⟩, trivial⟩
    refine ⟨hsize, max_eq_left (Nat.one_le_iff_ne_zero.mpr hpos), hexpected, ?_⟩
    rw [ne_eq, List.map_eq_nil_iff, ← ne_eq]
    constructor
    · intro hne
      obtain ⟨key, hkey⟩ := List.exists_mem_of_ne_nil _ hne
      have hnode := (hnodes key hkey).1
      omega
    · intro htwo hnil
      -- A path without inner nodes is a root that is a leaf.
      rw [hnil, List.length_nil, eq_comm, List.length_eq_zero_iff] at hlength
      cases hpath : payload.pathNodes with
      | nil =>
        rw [hpath] at hhead
        cases hhead
      | cons leaf rest =>
        rw [hpath, List.tail_cons] at hlength
        rw [hpath, hlength, List.getLast?_singleton, Option.some.injEq] at hlast
        rw [hpath, List.head?_cons, Option.some.injEq] at hhead
        omega
  · cases h

namespace TreeKept
variable {hL : HashL} {size : Nat → Prop} {barrier : BarrierGroupState} {state state' : GroupState}

theorem writeBack (h : TreeKept hL size barrier state)
    (hs : state'.treeFields = (barrier.barrierInitialized, barrier.kemTreeHashAfter,
      max barrier.nMax 1, state.barrierPkEntries, state.barrierHashCache)) :
    TreeKept hL size barrier state' := by
  cases hinit : barrier.barrierInitialized with
  | true =>
    obtain ⟨hi, hk, hn⟩ := h.mirrored hinit
    refine h.congr rfl (hs.trans ?_)
    rw [hinit, ← hi, ← hk, ← hn]
    rfl
  | false =>
    have hnone := h.uncached hinit
    simp only [GroupState.treeFields, Prod.mk.injEq] at hs
    obtain ⟨hi, -, hn, -, hc⟩ := hs
    rw [hinit] at hi
    rw [hnone] at hc
    refine ⟨⟨fun hset => ?_, fun _ cache hcache => ?_, fun _ => hc⟩, hn ▸ h.contextSized,
      h.contextSized, fun _ => hc, fun hset => ?_⟩
    · rw [hi] at hset
      cases hset
    · rw [hc] at hcache
      cases hcache
    · rw [hinit] at hset
      cases hset

theorem of_update {dec : WireDecoder} {header : HeaderMap} {delta : MembershipDelta}
    {before : GroupState} {validation : BarrierUpdateValidationOutcome}
    (h : TreeKept hL size barrier before)
    (hvalid : validateBarrierUpdateAgainstRoster hL dec before header delta = .ok (some validation))
    (hs : state.treeFields = (true, validation.parsed.kemTreeHashAfter,
      max validation.parsed.treeSize 1, validation.snapshotPost, validation.hashCachePost)) :
    TreeKept hL size state.barrierState state := by
  obtain ⟨reason, -, hparsed, byLeaf, revoked, author, base, haccepted⟩ :=
    validateBarrierUpdateAgainstRoster_ok hvalid
  obtain ⟨htreeSize, hmax, hexpected, hkeys⟩ := parseBarrierUpdate_size hparsed
  have hnMax : before.treeNMax = before.nMax := hmax
  rw [htreeSize, hmax, ← hnMax] at hs
  rw [← hnMax] at hexpected hkeys
  obtain ⟨hhash, hfull⟩ := haccepted.stored h.stored hexpected hkeys.mp
  simp only [GroupState.treeFields, Prod.mk.injEq] at hs
  obtain ⟨hi, hk, hn, he, hc⟩ := hs
  have hstored : state.StoredTree hL := by
    refine ⟨fun _ => ?_, fun htwo cache hcache => ?_, fun hunset => ?_⟩
    · rw [hn, he, hk]
      exact hhash
    · rw [hn, he]
      exact hfull (hkeys.mpr (hn ▸ htwo)) cache (hc ▸ hcache)
    · rw [hi] at hunset
      cases hunset
  have hcontext : max state.barrierState.nMax 1 = state.treeNMax := max_eq_left (le_max_right _ _)
  refine ⟨hstored, hn ▸ h.sized, hcontext ▸ hn ▸ h.sized, fun hunset => ?_,
    fun _ => ⟨hi, rfl, hcontext.symm⟩⟩
  rw [show state.barrierState.barrierInitialized = state.barrierInitialized from rfl, hi] at hunset
  cases hunset

end TreeKept

section Staged
variable {env : ServerEnv} {bundle : ClientEpochBundle} {replaying : Bool}
  {ctx accepted : AcceptanceContext} {roster : GroupRoster} {staged : Staged} {prepared : Prepared}
  {barrier : BarrierGroupState} {group start : GroupState} {newRoot : Bytes32}

theorem PreparedBundle.group_treeFields (h : PreparedBundle env bundle replaying start prepared) :
    prepared.group.treeFields = start.treeFields :=
  refreshHistory_keepsCore.treeFields h.refreshed

theorem PreparedBundle.before_treeFields (h : PreparedBundle env bundle replaying start prepared) :
    prepared.before.treeFields = start.treeFields := by
  have hbefore := h.before
  simp only [stateBefore, Except.bind_eq_ok, EStateM.toExcept_eq_ok] at hbefore
  obtain ⟨⟨_, activated⟩, hactivated, hbefore⟩ := hbefore
  have hfields := GroupState.treeFields_of_withoutLeaves
    ((GroupState.KeepsOffLeaves.activateSlotLeases _).of_ok hactivated)
  refine Eq.trans ?_ (hfields.trans h.group_treeFields)
  split at hbefore
  · simp only [rehydrateReplayJoinFinalizeAuth, Except.bind_eq_ok, Except.pure_eq_ok] at hbefore
    obtain ⟨record, -, hrecord⟩ := hbefore
    rw [← hrecord]
    cases record <;> rfl
  · rw [← Except.pure_eq_ok.mp hbefore]

theorem markRotation_treeFields (delta : MembershipDelta) (group : GroupState) :
    (markRotation delta group).treeFields = group.treeFields := by
  unfold markRotation
  split <;> rfl

theorem gateView_entered (ctx : AcceptanceContext) (gid gid' : Bytes) :
    gateView gid' (ctx.modifyBarrierGroup gid id) = gateView gid' ctx :=
  AcceptanceContext.gateView_modify ctx gid gid' fun _ => rfl

theorem StagedEpoch.treeKept {size : Nat → Prop}
    (h : StagedEpoch env bundle replaying ctx roster staged prepared accepted barrier group newRoot)
    (hkept : TreeKept env.hL size (gateView bundle.gid ctx) (roster.group bundle.gid)) :
    TreeKept env.hL size group.barrierState group := by
  have hprepared := prepareBundle_ok h.prepare
  obtain ⟨acceptance, haccepted, -⟩ := h.anchor
  obtain ⟨gate, hgate⟩ := acceptBundleAnchor_gate haccepted
  obtain ⟨activated, member, changed, fields, token, hsteps⟩ := commitBundle_ok h.commit
  have hentry := h.barrierGroupStateEntry_eq
  obtain ⟨hupdated, hplain⟩ := hgate.after_eq
  rcases AcceptedEpoch.join_or_merge_of_gate hprepared hgate with hjoin | ⟨validation, hmerge⟩
  · have hno := hjoin.header.no_update
    have hfields : barrier.treeFields = (gateView bundle.gid ctx).treeFields := by
      rw [← hentry, ← gateView_entered ctx bundle.gid, ← hplain hno]
      rfl
    exact ((hkept.congr hfields hprepared.group_treeFields).writeBack
      (hsteps.treeFields_join hjoin.validation)).mirror
  · have hupdate : HDR_BARRIER_UPDATE ∈ bundle.headerMap :=
      (enforceGate_opened hgate.passed).1.reasoned hmerge.header.reason
    have hvalid := hprepared.validated
    rw [hmerge.validation] at hvalid
    have hinit := (hupdated hupdate).1
    rw [hentry] at hinit
    refine (hkept.congr rfl hprepared.before_treeFields).of_update hvalid ?_
    rw [hsteps.treeFields_merge hmerge.validation, hinit]

theorem TreesKept.apply {size : Bytes → Nat → Prop} (h : TreesKept env.hL size ctx roster)
    (hstaged : applyBundleToState env bundle replaying ctx roster = .ok staged) :
    TreesKept env.hL size staged.ctx staged.roster := by
  obtain ⟨prepared, accepted, barrier, group, newRoot, hepoch⟩ := applyBundleToState_ok hstaged
  obtain ⟨acceptance, haccepted, hctx⟩ := hepoch.anchor
  obtain ⟨gate, hgate⟩ := acceptBundleAnchor_gate haccepted
  intro gid
  have hview : gateView gid staged.ctx = if gid = bundle.gid then group.barrierState.gateFields
      else gateView gid accepted := by
    rw [hctx, ← gateView_insertBarrierGroupState]
    rfl
  rw [hview, hepoch.roster_eq, GroupRoster.group_insert]
  by_cases hgid : gid = bundle.gid
  · subst hgid
    rw [if_pos rfl, if_pos rfl]
    exact (hepoch.treeKept (h bundle.gid)).congr rfl (markRotation_treeFields _ _)
  · rw [if_neg hgid, if_neg hgid, hgate.others gid hgid, gateView_entered]
    exact h gid

theorem TreesKept.accept {size : Bytes → Nat → Prop} {server server' : CityGServer}
    {outcome : ServerOutcome} (h : TreesKept env.hL size server.ctx server.roster)
    (haccept : CityGServer.acceptEpoch env bundle server = .ok outcome server') :
    TreesKept env.hL size server'.ctx server'.roster := by
  obtain ⟨-, staged, hstaged, rfl⟩ := acceptEpoch_staged haccept
  have hwitness : TreesKept env.hL size
      (server.ctx.setPendingCapssWitness (some bundle.capssWitness)) server.roster := h
  exact hwitness.apply hstaged

end Staged

end CityG
