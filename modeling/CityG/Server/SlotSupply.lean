import CityG.Server.Memberships
import CityG.Server.TreeHash

/-!
# The supply of slots

A slot leaves the free slots when a ticket is built and comes back when its
lease is released or when the free slots, once empty, are rebuilt. The rebuild
needs a generation for every slot and no other. This is so in every state of a
run, wherever a ticket request gave up, and the size of a group's tree never
changes, so no slot is lost.
-/

namespace CityG

open EStateM (check Keeps Preserves)

structure SlotsKept (capacity : Nat) (state : GroupState) : Prop where
  generations : state.slotGenerations.isEmpty = true ∨
    ∀ slot, slot ∈ state.slotGenerations ↔ slot < capacity
  leases : ∀ leaf lease, state.leafSlotLeases.get? leaf = some lease → lease.slotIndex < capacity

def GroupState.HoldsSlot (state : GroupState) (slot : Nat) : Prop :=
  (∃ leaf lease, state.leafSlotLeases.get? leaf = some lease ∧ lease.slotIndex = slot) ∨
    ∃ leaf record, state.pendingJoinFinalizeAuth.get? leaf = some record ∧
      record.lease.slotIndex = slot

namespace SlotsKept
variable {capacity : Nat} {state state' : GroupState}

theorem congr (h : SlotsKept capacity state)
    (hgenerations : state'.slotGenerations = state.slotGenerations)
    (hleases : state'.leafSlotLeases = state.leafSlotLeases) : SlotsKept capacity state' :=
  ⟨hgenerations ▸ h.generations, hleases ▸ h.leases⟩

theorem mem_initial (h : SlotsKept state.slotCapacity state) (slot : Nat) :
    slot ∈ state.initialGenerations ↔ slot < state.slotCapacity := by
  unfold GroupState.initialGenerations
  split
  · rw [OrdMap.mem_def, OrdMap.get?_range]
    split_ifs with hslot <;> simp [hslot]
  · next hfilled => exact h.generations.resolve_left hfilled slot

theorem initial (h : SlotsKept state.slotCapacity state) (free : OrdSet Nat) :
    SlotsKept state.slotCapacity
      { state with slotGenerations := state.initialGenerations, freeSlots := free } :=
  ⟨.inr h.mem_initial, h.leases⟩

theorem held_of_exhausted (h : SlotsKept state.slotCapacity state)
    (hfree : state.ensureSlotAllocatorInitialized.freeSlots.keys = []) {slot : Nat}
    (hslot : slot < state.slotCapacity) : state.HoldsSlot slot := by
  by_contra hunheld
  have hempty : ∀ s, s ∉ state.ensureSlotAllocatorInitialized.freeSlots := by
    intro s hs
    rw [← OrdMap.mem_keys, hfree] at hs
    cases hs
  by_cases hrebuild : state.rebuildsFreeSlots = true
  · -- Rebuilt free slots leave out held slots only.
    rw [SlotRun.freeSlots_of_rebuild hrebuild] at hempty
    refine hempty slot ?_
    rw [GroupState.unleasedSlots, OrdSet.mem_eraseAll, OrdSet.mem_eraseAll]
    refine ⟨?_, ?_, ?_⟩
    · intro hpending
      obtain ⟨record, hrecord, rfl⟩ := List.mem_map.mp hpending
      obtain ⟨leaf, hleaf⟩ := OrdMap.mem_values_iff.mp hrecord
      exact hunheld (.inr ⟨leaf, record, hleaf, rfl⟩)
    · intro hactive
      obtain ⟨lease, hlease, rfl⟩ := List.mem_map.mp hactive
      obtain ⟨leaf, hleaf⟩ := OrdMap.mem_values_iff.mp hlease
      exact hunheld (.inl ⟨leaf, lease, hleaf, rfl⟩)
    · rw [OrdMap.mem_def, OrdMap.get?_range, if_pos hslot]
      rfl
  · -- An empty set of free slots is rebuilt.
    rw [SlotRun.freeSlots_of_no_rebuild hrebuild] at hfree
    refine hrebuild (decide_eq_true ⟨?_, OrdMap.size_of_mem h.mem_initial⟩)
    rw [OrdMap.keys, List.map_eq_nil_iff] at hfree
    exact List.isEmpty_iff.mpr hfree

theorem allocate_error (h : SlotsKept state.slotCapacity state) {leaf : Bytes32} {e : CityGError}
    (herror : GroupState.allocateSlotLease leaf state = .error e state') :
    e = .invalidInput "slot allocator exhausted" ∧
      ∀ slot < state.slotCapacity, state.HoldsSlot slot := by
  cases hactive : state.leafSlotLeases.get? leaf with
  | some lease =>
    rw [SlotRun.allocate_of_active hactive] at herror
    cases herror
  | none =>
    cases hpending : state.pendingJoinFinalizeAuth.get? leaf with
    | some record =>
      rw [SlotRun.allocate_of_pending hactive hpending] at herror
      cases herror
    | none =>
      cases hfree : state.ensureSlotAllocatorInitialized.freeSlots.keys with
      | nil =>
        rw [SlotRun.allocate_exhausted hactive hpending hfree] at herror
        cases herror
        exact ⟨rfl, fun _ hslot => h.held_of_exhausted hfree hslot⟩
      | cons slot rest =>
        rw [SlotRun.allocate_fresh hactive hpending hfree] at herror
        cases herror

end SlotsKept

structure Supplied (capacity : Nat) (state : GroupState) : Prop where
  capacity_eq : state.slotCapacity = capacity
  kept : SlotsKept capacity state

namespace Supplied
variable {capacity : Nat} {state state' : GroupState}

theorem congr (h : Supplied capacity state) (hcapacity : state'.slotCapacity = state.slotCapacity)
    (hgenerations : state'.slotGenerations = state.slotGenerations)
    (hleases : state'.leafSlotLeases = state.leafSlotLeases) : Supplied capacity state' :=
  ⟨hcapacity.trans h.capacity_eq, h.kept.congr hgenerations hleases⟩

theorem own (h : Supplied capacity state) : SlotsKept state.slotCapacity state :=
  h.capacity_eq.symm ▸ h.kept

theorem initial (h : Supplied capacity state) (free : OrdSet Nat) :
    Supplied capacity { state with slotGenerations := state.initialGenerations, freeSlots := free } :=
  ⟨h.capacity_eq, h.capacity_eq ▸ h.own.initial free⟩

theorem lookUpGeneration (h : Supplied capacity state) {slot : Nat} (hslot : slot < state.slotCapacity) :
    Supplied capacity (state.lookUpGeneration slot) := by
  obtain ⟨hcapacity, -, hleases⟩ := h.initial state.ensureSlotAllocatorInitialized.freeSlots
  refine ⟨hcapacity, .inr fun k => ?_, hleases⟩
  rw [show (state.lookUpGeneration slot).slotGenerations =
    state.initialGenerations.insertNew slot 0 from rfl, OrdMap.mem_insertNew, h.own.mem_initial,
    ← h.capacity_eq]
  exact or_iff_right_of_imp fun heq => heq ▸ hslot

theorem reserveSlotLease (leaf : Bytes32) (lease : SlotLease) :
    Preserves (Supplied capacity) (GroupState.reserveSlotLease leaf lease) := by
  intro s hs
  rcases SlotRun.reserve_final s leaf lease with ⟨-, hfinal⟩ | ⟨hslot, hfinal⟩ |
    ⟨hslot, -, -, hfinal⟩
  · rw [hfinal]
    exact hs
  · rw [hfinal]
    exact hs.lookUpGeneration hslot
  · rw [hfinal]
    obtain ⟨hcapacity, hgenerations, hleases⟩ := hs.lookUpGeneration hslot
    refine ⟨hcapacity, hgenerations, fun leaf' lease' hget => ?_⟩
    rw [OrdMap.get?_insert] at hget
    split_ifs at hget
    · cases hget
      exact hs.capacity_eq ▸ hslot
    · exact hleases leaf' lease' hget

theorem releaseSlotLease (leaf : Bytes32) :
    Preserves (Supplied capacity) (GroupState.releaseSlotLease leaf) := by
  intro s hs
  have hinitial := hs.initial s.ensureSlotAllocatorInitialized.freeSlots
  cases hleaf : s.leafSlotLeases.get? leaf with
  | none =>
    rw [SlotRun.release_none hleaf]
    exact hinitial
  | some lease =>
    rw [SlotRun.release_some hleaf .empty []]
    refine ⟨hinitial.capacity_eq, .inr fun slot => ?_, fun leaf' lease' hget => ?_⟩
    · -- The released slot is not a new one.
      rw [show slot ∈ (SlotRun.released _ leaf lease).group.slotGenerations ↔
        slot ∈ s.initialGenerations.insert lease.slotIndex _ from Iff.rfl, OrdMap.mem_insert,
        hs.own.mem_initial, hs.capacity_eq]
      exact or_iff_right_of_imp fun heq => heq ▸ hs.kept.leases leaf lease hleaf
    · rw [show (SlotRun.released _ leaf lease).group.leafSlotLeases =
        s.leafSlotLeases.erase leaf from rfl, OrdMap.get?_erase] at hget
      split_ifs at hget
      exact hs.kept.leases leaf' lease' hget

theorem activateSlotLease (leaf : Bytes32) (lease : SlotLease) :
    Preserves (Supplied capacity) (GroupState.activateSlotLease leaf lease) :=
  .bind (reserveSlotLease leaf lease) fun _ => .modify fun _ hs => hs.congr rfl rfl rfl

theorem activateSlotLeases (leases : List (Bytes32 × SlotLease)) :
    Preserves (Supplied capacity) (CityG.activateSlotLeases leases) := by
  induction leases with
  | nil => exact .pure _
  | cons e rest ih => exact .bind (activateSlotLease e.1 e.2) fun _ => ih

theorem admitLeaves (fields : MemberFields) (leaves : List Bytes32) :
    Preserves (Supplied capacity) (CityG.admitLeaves fields leaves) := by
  induction leaves with
  | nil => exact .pure _
  | cons leaf rest ih =>
    refine .bind (.bind (.check _) fun lease => ?_) fun _ => ih
    refine .bind (activateSlotLease leaf lease) fun _ => .bind (.check _) fun _ => ?_
    exact .modify fun _ hs => hs.congr rfl rfl rfl

theorem retireLeaves (leaves : List Bytes32) :
    Preserves (Supplied capacity) (CityG.retireLeaves leaves) := by
  induction leaves with
  | nil => exact .pure _
  | cons leaf rest ih =>
    refine .bind (.bind (releaseSlotLease leaf) fun _ => .bind (.check _) fun _ => ?_) fun _ => ih
    exact .modify fun _ hs => hs.congr rfl rfl rfl

theorem changeMembers (fields : MemberFields) (delta : MembershipDelta) :
    Preserves (Supplied capacity) (CityG.changeMembers fields delta) := by
  unfold CityG.changeMembers
  split
  · exact .pure _
  · refine .bind (admitLeaves fields _) fun _ => .bind (retireLeaves _) fun _ => ?_
    intro s hs
    unfold EStateM.final EStateM.update
    cases hpruned : pruneJoinHistory s with
    | error e => exact hs
    | ok pruned =>
      obtain ⟨_, rfl⟩ := pruneJoinHistory_ok hpruned
      exact hs.congr rfl rfl rfl

theorem adjusts (hadjusts : state.Adjusts state') (h : Supplied capacity state) :
    Supplied capacity state' := by
  induction hadjusts with
  | refl => exact h
  | trans _ _ ih ih' => exact ih' (ih h)
  | history hkept =>
    have hcapacity := congrArg GroupState.slotCapacity hkept
    have hgenerations := congrArg GroupState.slotGenerations hkept
    have hleases := congrArg GroupState.leafSlotLeases hkept
    exact h.congr hcapacity hgenerations hleases
  | joinHistory hpruned =>
    obtain ⟨_, rfl⟩ := pruneJoinHistory_ok hpruned
    exact h.congr rfl rfl rfl
  | slots state free => exact h.initial free
  | kbroad | maxBytes | nextIndex | pending | admins => exact h.congr rfl rfl rfl

theorem initializes {env : ServerEnv} (hinit : state.Initializes env state')
    (h : Supplied capacity state) : Supplied capacity state' := by
  induction hinit with
  | trans _ _ ih ih' => exact ih' (ih h)
  | adjusts hadjusts => exact h.adjusts hadjusts
  | @bootstrap state =>
    refine h.congr ?_ rfl rfl
    exact congrArg (min · U32_MAX) (max_eq_left (le_max_right state.nMax 1))

end Supplied

section Epoch
variable {env : ServerEnv} {bundle : ClientEpochBundle} {prepared : Prepared}
  {barrier : BarrierGroupState} {start done activated member changed : GroupState}
  {newRoot : Bytes32} {fields : MemberFields} {token : Option Bytes32} {capacity : Nat}

theorem commitTree_slotsKept {gid : Bytes} {validation : Option BarrierUpdateValidationOutcome}
    {state : GroupState} (h : SlotsKept capacity state)
    (hok : commitTree env gid validation state = .ok () done) : SlotsKept capacity done := by
  cases validation with
  | none =>
    rw [commitTree, EStateM.pure_eq_ok] at hok
    exact hok.2 ▸ h
  | some validation =>
    simp only [commitTree, EStateM.check_bind_eq_ok, EStateM.modify_bind_eq_ok] at hok
    obtain ⟨_, -, _, -, hok⟩ := hok
    simp only [EStateM.bind_eq_ok, EStateM.check_eq_ok] at hok
    obtain ⟨_, _, hensured, _, _, ⟨-, rfl⟩, _, _, hrecorded, hdone⟩ := hok
    have hcore : done.withoutHistory = (state.putTreeState validation).withoutHistory :=
      (Keeps.of_ok (KeepsCore.record _ _ _) hdone).trans
        ((Keeps.of_ok (KeepsCore.recordWithMetadata _ _ _ _) hrecorded).trans
          (Keeps.of_ok (KeepsCore.ensureCurrent _ _ _) hensured))
    have hgenerations := congrArg GroupState.slotGenerations hcore
    have hleases := congrArg GroupState.leafSlotLeases hcore
    exact h.congr hgenerations hleases

theorem CommitSteps.slotsKept (h : CommitSteps env bundle prepared barrier start done newRoot
    activated member changed fields token) (hstart : Supplied capacity start)
    (hsize : min (max barrier.nMax 1) U32_MAX = capacity) : SlotsKept capacity done := by
  obtain ⟨record, -, happlied⟩ := h.record
  have hactivated := (Supplied.activateSlotLeases _).of_ok hstart h.activate
  have hbarrier : Supplied capacity (activated.withBarrierState barrier) := by
    refine ⟨?_, hactivated.kept.congr rfl rfl⟩
    rw [← hsize]
    exact congrArg (min · U32_MAX) (max_eq_left (le_max_right barrier.nMax 1))
  have hrecorded : Supplied capacity ((record.map
      (activated.withBarrierState barrier).putMergeRecord).getD
        (activated.withBarrierState barrier)) := by
    cases record <;> exact hbarrier.congr rfl rfl rfl
  have hmember : Supplied capacity member := by
    obtain ⟨_, _, _, _, rfl⟩ := GroupState.applyDelta_edits happlied
    refine hrecorded.congr ?_ ?_ ?_
    all_goals
      unfold GroupState.recordCurrentUpdate
      split <;> rfl
  have hchanged := (Supplied.changeMembers _ _).of_ok hmember h.change
  refine commitTree_slotsKept (hchanged.kept.congr ?_ ?_) h.tree
  all_goals
    unfold GroupState.finalizeJoin
    dsimp only
    split <;> rfl

end Epoch

section Size
variable {codec : AnchorCodec} {gid raw : Bytes} {header : HeaderMap}

theorem GatePassed.wire_size {before after : AcceptanceContext} {gate : Accept.BarrierGateDecision}
    (h : GatePassed codec gid header before after gate)
    (hraw : header.get? HDR_BARRIER_UPDATE = some (.bytes raw)) :
    ∃ wire, codec.wire.barrierUpdate raw = some wire ∧
      wire.treeSize = (before.barrierGroupStateEntry gid).nMax ∧
      (after.barrierGroupStateEntry gid).nMax = wire.treeSize := by
  have hreason := (enforceGate_opened h.passed).1.update.mpr (OrdMap.mem_iff.mpr ⟨_, hraw⟩)
  have hcommitted := congrArg BarrierGroupState.nMax h.group
  change (after.barrierGroupStateEntry gid).nMax =
    (gate.commit (before.barrierGroupStateEntry gid)).nMax at hcommitted
  rw [hcommitted, Accept.BarrierGateDecision.commit, if_pos hreason]
  have hpassed := h.passed
  simp only [AcceptanceContext.enforceBarrierAcceptanceGating, Except.bind_eq_ok,
    Except.pure_eq_ok, Accept.readBarrierGate] at hpassed
  obtain ⟨_, ⟨_, -, _, -, reason, -, _, -, _, -, _, -, parsed, hparsed, rfl⟩, _, -, rfl⟩ := hpassed
  rw [Accept.parseGateUpdate, if_pos hreason] at hparsed
  obtain ⟨update, hupdate, rfl⟩ := Except.map_eq_ok.mp hparsed
  simp only [Accept.parseBarrierUpdateFromHeader, headerBytesOr, hraw, Except.bind_eq_ok,
    Except.ensure_eq_ok, Except.ofOption_eq_ok, Except.pure_eq_ok] at hupdate
  obtain ⟨_, -, raw', hraw', _, -, wire, hwire, _, ⟨-, hsize⟩, _, -, _, -, _, -, _, -, _, -, rfl⟩ :=
    hupdate
  cases hraw'
  exact ⟨wire, hwire, hsize, rfl⟩

theorem parseBarrierUpdate_wire_size {dec : WireDecoder} {nMax : Nat} {parsed : ParsedBarrierUpdate}
    (hraw : header.get? HDR_BARRIER_UPDATE = some (.bytes raw))
    (h : parseBarrierUpdate dec header nMax = .ok (some parsed)) :
    ∃ wire, dec.barrierUpdate raw = some wire ∧ wire.treeSize = nMax := by
  simp only [parseBarrierUpdate, hraw, Except.bind_eq_ok, Except.ensure_eq_ok,
    Except.ofOption_eq_ok] at h
  obtain ⟨_, -, wire, hwire, _, ⟨-, hsize⟩, -⟩ := h
  exact ⟨wire, hwire, hsize⟩

end Size

section Staged
variable {env : ServerEnv} {bundle : ClientEpochBundle} {replaying : Bool}
  {ctx accepted : AcceptanceContext} {roster : GroupRoster} {staged : Staged} {prepared : Prepared}
  {barrier : BarrierGroupState} {group : GroupState} {newRoot : Bytes32} {capacity : Nat}

/-- The tree of a group keeps its size, in the context and in the roster. Roster and context read the
size from the same update, and a join needs a tree that the context has taken over. -/
theorem StagedEpoch.sizes
    (h : StagedEpoch env bundle replaying ctx roster staged prepared accepted barrier group newRoot)
    (hmirrored : (gateView bundle.gid ctx).barrierInitialized = true →
      (roster.group bundle.gid).treeNMax = max (gateView bundle.gid ctx).nMax 1) :
    max barrier.nMax 1 = (roster.group bundle.gid).treeNMax ∧
      group.treeNMax = (roster.group bundle.gid).treeNMax := by
  have hprepared := prepareBundle_ok h.prepare
  obtain ⟨acceptance, haccepted, -⟩ := h.anchor
  obtain ⟨gate, hgate⟩ := acceptBundleAnchor_gate haccepted
  obtain ⟨activated, member, changed, fields, token, hsteps⟩ := commitBundle_ok h.commit
  have hentry := h.barrierGroupStateEntry_eq
  rcases AcceptedEpoch.join_or_merge_of_gate hprepared hgate with hjoin | ⟨validation, hmerge⟩
  · have hno := hjoin.header.no_update
    have hview : barrier.gateFields = gateView bundle.gid ctx := by
      rw [← hentry, ← gateView_entered ctx bundle.gid]
      exact hgate.after_eq.2 hno
    have hinit := hgate.initialized (AcceptanceContext.knows_modify.mpr (.inl rfl))
    rw [hentry] at hinit
    have hbarrier : max barrier.nMax 1 = (roster.group bundle.gid).treeNMax := by
      rw [hmirrored (hview ▸ hinit), ← hview]
      rfl
    have hfields := hsteps.treeFields_join hjoin.validation
    simp only [GroupState.treeFields, Prod.mk.injEq] at hfields
    exact ⟨hbarrier, hfields.2.2.1.trans hbarrier⟩
  · obtain ⟨raw, hraw⟩ := hgate.update_bytes hmerge.header
    obtain ⟨wire, hwire, -, hafter⟩ := hgate.wire_size hraw
    have hvalid := hprepared.validated
    rw [hmerge.validation] at hvalid
    obtain ⟨reason, -, hparsed, -⟩ := validateBarrierUpdateAgainstRoster_ok hvalid
    obtain ⟨wire', hwire', hsize⟩ := parseBarrierUpdate_wire_size hraw hparsed
    obtain rfl : wire = wire' := Option.some.inj (hwire.symm.trans hwire')
    have hbefore := hprepared.before_treeFields
    have hfields := hsteps.treeFields_merge hmerge.validation
    simp only [GroupState.treeFields, Prod.mk.injEq] at hbefore hfields
    have hstart : max prepared.before.nMax 1 = (roster.group bundle.gid).treeNMax := hbefore.2.2.1
    refine ⟨?_, ?_⟩
    · rw [← hentry, hafter, hsize, hstart]
    · rw [hfields.2.2.1, (parseBarrierUpdate_size hparsed).1, hstart]

theorem StagedEpoch.supplied
    (h : StagedEpoch env bundle replaying ctx roster staged prepared accepted barrier group newRoot)
    (hmirrored : (gateView bundle.gid ctx).barrierInitialized = true →
      (roster.group bundle.gid).treeNMax = max (gateView bundle.gid ctx).nMax 1)
    (hsupplied : Supplied capacity (roster.group bundle.gid)) : Supplied capacity group := by
  obtain ⟨hbarrier, hgroup⟩ := h.sizes hmirrored
  obtain ⟨activated, member, changed, fields, token, hsteps⟩ := commitBundle_ok h.commit
  have hrefreshed : Supplied capacity prepared.group :=
    hsupplied.adjusts (.history (Keeps.of_ok refreshHistory_keepsCore
      (prepareBundle_ok h.prepare).refreshed))
  have hcapacity : min (roster.group bundle.gid).treeNMax U32_MAX = capacity := hsupplied.capacity_eq
  refine ⟨?_, hsteps.slotsKept hrefreshed ?_⟩
  · rw [show group.slotCapacity = min group.treeNMax U32_MAX from rfl, hgroup, hcapacity]
  · rw [hbarrier, hcapacity]

end Staged

namespace CityGServer

structure Unleased (server : CityGServer) : Prop where
  group : ∀ gid, (server.roster.group gid).barrierInitialized = false ∧
    (server.roster.group gid).barrierHashCache = none ∧
    (server.roster.group gid).slotGenerations.isEmpty = true ∧
    (server.roster.group gid).leafSlotLeases = .empty
  context : ∀ gid, (server.ctx.barrierGroupStateEntry gid).barrierInitialized = false

structure SuppliesSlots (env : ServerEnv) (capacity : Bytes → Nat) (server : CityGServer) : Prop where
  trees : TreesKept env.hL (fun _ _ => True) server.ctx server.roster
  groups : ∀ gid, Supplied (capacity gid) (server.roster.group gid)

variable {env : ServerEnv} {capacity : Bytes → Nat} {server server' : CityGServer}

theorem Unleased.supplies (h : server.Unleased) :
    server.SuppliesSlots env fun gid => (server.roster.group gid).slotCapacity := by
  refine ⟨fun gid => ?_, fun gid => ⟨rfl, ?_⟩⟩
  · obtain ⟨hinit, hnone, -⟩ := h.group gid
    refine ⟨⟨fun hset => ?_, fun _ cache hcache => ?_, fun _ => hnone⟩, trivial, trivial,
      fun _ => hnone, fun hset => ?_⟩
    · exact Bool.noConfusion (hinit.symm.trans hset)
    · exact nomatch hnone.symm.trans hcache
    · exact Bool.noConfusion ((h.context gid).symm.trans hset)
  · obtain ⟨-, -, hgenerations, hleases⟩ := h.group gid
    refine ⟨.inl hgenerations, fun leaf lease hget => ?_⟩
    rw [hleases] at hget
    cases hget

theorem SuppliesSlots.manages (hmanages : server.Manages env server')
    (h : server.SuppliesSlots env capacity) : server'.SuppliesSlots env capacity :=
  ⟨h.trees.manages hmanages, fun gid => (h.groups gid).initializes (hmanages.group_initializes gid)⟩

theorem SuppliesSlots.accept {bundle : ClientEpochBundle} {outcome : ServerOutcome}
    (haccept : acceptEpoch env bundle server = .ok outcome server')
    (h : server.SuppliesSlots env capacity) : server'.SuppliesSlots env capacity := by
  refine ⟨h.trees.accept haccept, fun gid => ?_⟩
  obtain ⟨-, staged, hstaged, rfl⟩ := acceptEpoch_staged haccept
  obtain ⟨prepared, accepted, barrier, group, newRoot, hepoch⟩ := applyBundleToState_ok hstaged
  rw [show (commitStaged staged (appendJournal bundle server)).roster = staged.roster from rfl,
    hepoch.roster_eq, GroupRoster.group_insert]
  split
  · next heq =>
      subst heq
      have hgroup := hepoch.supplied (fun hset => ((h.trees bundle.gid).mirrored hset).2.2)
        (h.groups bundle.gid)
      unfold markRotation
      split
      · exact hgroup
      · exact hgroup.congr rfl rfl rfl
  · exact h.groups gid

end CityGServer

namespace ServerRun

theorem supplies_of_reach {env : ServerEnv} {start run : ServerRun} (hstart : start.server.Unleased)
    (h : Run.Reach (· = start) (step env) (fun _ _ => True) run) :
    run.server.SuppliesSlots env fun gid => (start.server.roster.group gid).slotCapacity := by
  refine @Run.Reach.invariant _ _ _ _ _ (fun run : ServerRun => run.server.SuppliesSlots env
    fun gid => (start.server.roster.group gid).slotCapacity) ?_ ?_ run h
  · rintro _ rfl
    exact hstart.supplies
  · rintro run op run' hkept - hstep
    cases op with
    | request request =>
      cases hstep
      exact hkept.manages (CityGServer.serve_manages env request run.server)
    | acceptEpoch bundle =>
      rw [step] at hstep
      cases haccept : CityGServer.acceptEpoch env bundle run.server with
      | ok outcome server =>
        rw [haccept] at hstep
        cases hstep
        exact hkept.accept haccept
      | error e server =>
        rw [haccept] at hstep
        cases hstep
        exact acceptEpoch_error haccept ▸ hkept

/-- After any requests, granted or refused, and any epochs, and between the steps of a further
request, the allocator refuses a lease only when each slot of the group has a holder. -/
theorem exhausted_only_when_held (env : ServerEnv) {start run : ServerRun}
    (hstart : start.server.Unleased) (h : Run.Reach (· = start) (step env) (fun _ _ => True) run)
    (gid : Bytes) {state state' : GroupState}
    (hstate : (run.server.roster.group gid).Adjusts state) (leaf : Bytes32) {e : CityGError}
    (herror : GroupState.allocateSlotLease leaf state = .error e state') :
    e = .invalidInput "slot allocator exhausted" ∧
      ∀ slot < state.slotCapacity, state.HoldsSlot slot :=
  (((supplies_of_reach hstart h).groups gid).adjusts hstate).own.allocate_error herror

def filledRoom : List ServerOp :=
  [.request (.buildJoinTicket roomGid (some (deviceLeaf 12)) ⟨kemKey 9, .fill 75⟩),
    .request (.buildJoinTicket roomGid (some (deviceLeaf 13)) ⟨kemKey 9, .fill 76⟩),
    .request (.registerGroup roomGid (kemKey 1)),
    .request (.buildJoinTicket roomGid (some (deviceLeaf 10)) ⟨kemKey 9, .fill 77⟩),
    .request (.buildJoinTicket roomGid (some (deviceLeaf 11)) ⟨kemKey 9, .fill 78⟩),
    .acceptEpoch (firstJoin.join 20)]

theorem roomServer_unleased : roomServer.Unleased := by
  refine ⟨fun gid => ?_, fun _ => rfl⟩
  rw [show roomServer.roster.group gid = _ from GroupRoster.group_insert _ _ _ _]
  split <;> exact ⟨rfl, rfl, rfl, rfl⟩

theorem exhausted_when_room_held :
    ∃ run ∈ Run.exec (Run.guarded (step roomEnv) fun _ _ => True) (.start roomServer) filledRoom,
      (run.server.roster.group roomGid.val).leafSlotLeases.keys = [deviceLeaf 10] ∧
      (run.server.roster.group roomGid.val).slotCapacity = 2 ∧
      ∀ slot < 2, (run.server.roster.group roomGid.val).HoldsSlot slot := by
  obtain ⟨run, hrun, hleases, hcapacity, herror⟩ :
      ∃ run ∈ Run.exec (Run.guarded (step roomEnv) fun _ _ => True) (.start roomServer) filledRoom,
        (run.server.roster.group roomGid.val).leafSlotLeases.keys = [deviceLeaf 10] ∧
        (run.server.roster.group roomGid.val).slotCapacity = 2 ∧
        ((GroupState.allocateSlotLease (deviceLeaf 12)).toExcept
          (run.server.roster.group roomGid.val)).isOk = false := by
    decide +kernel
  have hreach : Run.Reach (· = ServerRun.start roomServer) (step roomEnv) (fun _ _ => True) run :=
    Run.reach_of_exec (.start rfl) hrun
  cases hallocate : GroupState.allocateSlotLease (deviceLeaf 12)
      (run.server.roster.group roomGid.val) with
  | ok lease state =>
    rw [EStateM.toExcept, hallocate] at herror
    cases herror
  | error e state =>
    refine ⟨run, hrun, hleases, hcapacity, ?_⟩
    rw [← hcapacity]
    exact (exhausted_only_when_held roomEnv roomServer_unleased hreach roomGid.val (.refl _)
      (deviceLeaf 12) hallocate).2

end ServerRun

end CityG
