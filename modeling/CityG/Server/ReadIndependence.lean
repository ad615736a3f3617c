import CityG.Lib.Lockstep
import CityG.Server.Expulsion
import CityG.Server.Reads

/-!
# Two servers that answer different reads

Two runs of one server accept the same epochs and grant the same requests, and
each answers reads of its own. A read of a group that has changed appends a step
to the chain of its run alone. The chains meet again at the next request that
both runs answer, unless a join comes first.
-/

namespace CityG

open Except (ensure ofOption)
open EStateM (check Keeps Lockstep)

namespace GroupState

def SameCore (state state' : GroupState) : Prop := state.historyCore = state'.historyCore

def Near (hL : HashL) (gid : Bytes) (state state' : GroupState) : Prop :=
  state.historyCore = state'.historyCore ∨
    state.historyCore.advanced hL gid = state'.historyCore.advanced hL gid ∧
      (state.historyCore.Current hL gid ∨ state'.historyCore.Current hL gid)

section Near
variable {hL : HashL} {gid : Bytes} {state state' : GroupState}

theorem Near.symm (h : Near hL gid state state') : Near hL gid state' state :=
  h.imp Eq.symm fun ⟨hadvanced, hcurrent⟩ => ⟨hadvanced.symm, hcurrent.symm⟩

theorem Near.advanced_eq (h : Near hL gid state state') :
    state.historyCore.advanced hL gid = state'.historyCore.advanced hL gid := by
  rcases h with hcore | ⟨hadvanced, -⟩
  · rw [hcore]
  · exact hadvanced

theorem Near.sameCore (h : Near hL gid state state')
    (hboth : state.Current hL gid ↔ state'.Current hL gid) : SameCore state state' := by
  rcases h with hcore | ⟨hadvanced, hcurrent⟩
  · exact hcore
  · have hleft : state.Current hL gid := hcurrent.elim id hboth.mpr
    have hright := hboth.mp hleft
    rw [advanced_of_current (current_historyCore.mpr hleft),
      advanced_of_current (current_historyCore.mpr hright)] at hadvanced
    exact hadvanced

theorem Near.look {after : GroupState} (h : Near hL gid state state')
    (hcurrent : (state.historyCore.advanced hL gid).Current hL gid)
    (hlook : after.historyCore = state.historyCore ∨
      after.historyCore = state.historyCore.advanced hL gid) : Near hL gid after state' := by
  rcases hlook with hsame | hstep
  · unfold Near
    rw [hsame]
    exact h
  · refine .inr ⟨?_, .inl ?_⟩
    · rw [hstep, advanced_of_current hcurrent, h.advanced_eq]
    · rw [hstep]
      exact hcurrent

theorem advanced_withCommitment (hL : HashL) (gid : Bytes) (state : GroupState) :
    (state.advanced hL gid).withCommitment {} = state.withCommitment {} := by
  unfold advanced
  split
  · rfl
  · split_ifs <;> rfl

theorem Near.withCommitment (h : Near hL gid state state') :
    state.historyCore.withCommitment {} = state'.historyCore.withCommitment {} := by
  rw [← advanced_withCommitment hL gid, h.advanced_eq, advanced_withCommitment]

theorem Near.edit {after after' : GroupState} (g : GroupState → GroupState)
    (hadvanced : ∀ core : GroupState, (g core).advanced hL gid = g (core.advanced hL gid))
    (hcurrent : ∀ core : GroupState, core.Current hL gid → (g core).Current hL gid)
    (hleft : after.historyCore = g state.historyCore) (hright : after'.historyCore = g state'.historyCore)
    (h : Near hL gid state state') : Near hL gid after after' := by
  unfold Near
  rw [hleft, hright, hadvanced, hadvanced]
  rcases h with hcore | ⟨hstep, hone⟩
  · exact .inl (by rw [hcore])
  · exact .inr ⟨by rw [hstep], hone.imp (hcurrent _) (hcurrent _)⟩

theorem advanced_rotation (core : GroupState) (required : Bool) :
    ({ core with rotationRequired := required } : GroupState).advanced hL gid =
      { core.advanced hL gid with rotationRequired := required } := by
  have hview : computeHistoryViewId hL gid { core with rotationRequired := required } =
      computeHistoryViewId hL gid core := rfl
  unfold advanced
  rw [hview]
  split
  · rfl
  · split_ifs <;> rfl

theorem near_rotated (required : Bool) {after after' : GroupState} (h : Near hL gid state state')
    (hleft : after.historyCore = { state.historyCore with rotationRequired := required })
    (hright : after'.historyCore = { state'.historyCore with rotationRequired := required }) :
    Near hL gid after after' :=
  h.edit (fun core => { core with rotationRequired := required })
    (fun core => advanced_rotation core required) (fun _ hcurrent => hcurrent) hleft hright

end Near

end GroupState

namespace GroupState

section Near
variable {hL : HashL} {gid : Bytes} {α β : Type} {x : EStateM CityGError GroupState α}
  {y : EStateM CityGError GroupState β}

/-- Successful runs of two near groups end in near groups. -/
abbrev StaysNear (hL : HashL) (gid : Bytes) (x : EStateM CityGError GroupState α)
    (y : EStateM CityGError GroupState β) : Prop :=
  Lockstep (Near hL gid) (fun _ _ => True) x y

theorem StaysNear.of_keeps (hx : Keeps historyCore x) (hy : Keeps historyCore y) :
    StaysNear hL gid x y := by
  refine .of_final fun s t h => ?_
  have hs : (x.final s).historyCore = s.historyCore := hx s
  have ht : (y.final t).historyCore = t.historyCore := hy t
  unfold Near
  rw [hs, ht]
  exact h

theorem StaysNear.of_offLeaves (hx : KeepsOffLeaves x) (hy : KeepsOffLeaves y) :
    StaysNear hL gid x y :=
  .of_keeps (hx.comp historyCore) (hy.comp historyCore)

end Near

namespace StaysNear
variable (env : ServerEnv) (gid : Bytes)

theorem ensureCurrent :
    StaysNear env.hL gid (ensureCurrentHistoryCommitment env.hL env.wire gid)
      (ensureCurrentHistoryCommitment env.hL env.wire gid) := by
  refine .of_final fun s t h => .inl ?_
  rw [ensureCurrent_historyCore, ensureCurrent_historyCore, h.advanced_eq]

theorem resolveRevokedOccupancies (rootsHash rootsHash' : Bytes32) :
    StaysNear env.hL gid (CityG.resolveRevokedOccupancies env gid rootsHash)
      (CityG.resolveRevokedOccupancies env gid rootsHash') :=
  .bind .any_check fun _ _ _ => .bind (ensureCurrent env gid) fun _ _ _ =>
    .bind .any_check fun _ _ _ => .any_check

theorem resolveJoinOccupanciesSince (version version' : Nat) :
    StaysNear env.hL gid (CityG.resolveJoinOccupanciesSince env gid version)
      (CityG.resolveJoinOccupanciesSince env gid version') :=
  .bind .any_check fun _ _ _ =>
    .bind (of_offLeaves .pruneJoinHistory .pruneJoinHistory) fun _ _ _ =>
      .bind (ensureCurrent env gid) fun _ _ _ => .bind .any_check fun _ _ _ => .pure trivial

theorem currentOccupancies (update update' : Bytes) :
    StaysNear env.hL gid (CityG.currentOccupancies env gid update)
      (CityG.currentOccupancies env gid update') := by
  refine .bind .any_check fun _ _ _ => .bind .any_check fun rootsHash rootsHash' _ => ?_
  refine .bind (resolveRevokedOccupancies env gid rootsHash rootsHash') fun _ _ _ => ?_
  exact .bind (resolveJoinOccupanciesSince env gid _ _) fun _ _ _ => .pure trivial

theorem joinProvisioning (barrier : BarrierGroupState) (parentRoot : Bytes32) :
    StaysNear env.hL gid (CityG.joinProvisioning env gid barrier parentRoot)
      (CityG.joinProvisioning env gid barrier parentRoot) := by
  refine .bind (ensureCurrent env gid) fun _ _ _ => .bind .any_check fun update update' _ => ?_
  refine .bind .any_check fun _ _ _ => .bind .any_check fun _ _ _ => ?_
  refine .bind .any_check fun _ _ _ => .bind .any_check fun _ _ _ => ?_
  dsimp only
  split
  · exact .bind (currentOccupancies env gid update update') fun _ _ _ => .pure trivial
  · exact .bind (.pure (V := fun _ _ => True) trivial) fun _ _ _ => .pure trivial

theorem mergeSlots (author : Bytes32) (revokedLeafId : Option Bytes32) :
    StaysNear env.hL gid (CityG.mergeSlots env gid author revokedLeafId)
      (CityG.mergeSlots env gid author revokedLeafId) :=
  .bind .any_check fun _ _ _ => .bind .any_check fun _ _ _ => .bind (ensureCurrent env gid)
    fun _ _ _ => .bind .any_check fun _ _ _ => .pure trivial

theorem reserveJoin (H : MerkleHash) (refusalPercent refusalPercent' : Nat)
    (leafIdOverride : Option Bytes32) :
    Lockstep (Near env.hL gid) (fun a b => a.parentRoot = b.parentRoot)
      (CityG.reserveJoin H refusalPercent leafIdOverride)
      (CityG.reserveJoin H refusalPercent' leafIdOverride) := by
  refine .bind (.check fun s t h => ?_) ?_
  · have hleaves := congrArg (fun core : GroupState => core.activeLeaves.keys) h.withCommitment
    exact congrArg Except.ok hleaves
  rintro leaves _ rfl
  refine .bind (of_offLeaves (.chooseJoinLeaf _ _) (.chooseJoinLeaf _ _)) fun _ _ _ => ?_
  refine .bind (of_offLeaves (.allocateSlotLease _) (.allocateSlotLease _)) fun _ _ _ => ?_
  refine .bind (.check fun _ _ _ => rfl) ?_
  rintro root _ rfl
  exact .pure rfl

end StaysNear

abbrev StaysSame {α β : Type} (x : EStateM CityGError GroupState α)
    (y : EStateM CityGError GroupState β) : Prop :=
  Lockstep SameCore (fun _ _ => True) x y

namespace StaysSame
variable {α β : Type} {x : EStateM CityGError GroupState α} {y : EStateM CityGError GroupState β}

theorem of_keeps (hx : Keeps historyCore x) (hy : Keeps historyCore y) : StaysSame x y := by
  refine .of_final fun s t h => ?_
  have hs : (x.final s).historyCore = s.historyCore := hx s
  have ht : (y.final t).historyCore = t.historyCore := hy t
  exact hs.trans (h.trans ht.symm)

theorem of_offLeaves (hx : KeepsOffLeaves x) (hy : KeepsOffLeaves y) : StaysSame x y :=
  .of_keeps (hx.comp historyCore) (hy.comp historyCore)

theorem of_offTrees (hx : KeepsOffTrees x) (hy : KeepsOffTrees y) : StaysSame x y :=
  .of_keeps (keepsHistoryCore_of_offTrees hx) (keepsHistoryCore_of_offTrees hy)

theorem edit {f : GroupState → GroupState} (g : GroupState → GroupState)
    (hf : ∀ s : GroupState, (f s).historyCore = g s.historyCore) :
    StaysSame (modify f : EStateM CityGError GroupState Unit) (modify f) := by
  refine Lockstep.modify fun s t hcore => ?_
  exact (hf s).trans ((congrArg g hcore).trans (hf t).symm)

section
variable (env : ServerEnv) (gid : Bytes)

theorem ensureCurrent :
    StaysSame (ensureCurrentHistoryCommitment env.hL env.wire gid)
      (ensureCurrentHistoryCommitment env.hL env.wire gid) := by
  refine .of_final fun s t hcore => ?_
  have hadvanced := congrArg (GroupState.advanced env.hL gid) hcore
  unfold SameCore
  rw [ensureCurrent_historyCore, ensureCurrent_historyCore]
  exact hadvanced

theorem record :
    StaysSame (recordBarrierPublicTreeSnapshot env.hL env.wire gid)
      (recordBarrierPublicTreeSnapshot env.hL env.wire gid) := by
  refine .bind .get fun state state' hcore => ?_
  have htree : state.barrierPkEntries = [] ↔ state'.barrierPkEntries = [] := by
    have hshown := congrArg GroupState.barrierPkEntries hcore
    unfold historyCore at hshown
    dsimp only at hshown
    split_ifs at hshown with hleft hright hright <;> simp_all
  by_cases hempty : state.barrierPkEntries = []
  · rw [if_pos hempty, if_pos (htree.mp hempty)]
    exact .pure trivial
  · rw [if_neg hempty, if_neg (mt htree.mpr hempty)]
    refine .bind (of_offTrees (.encode _) (.encode _)) fun _ _ _ => ?_
    refine .bind (ensureCurrent env gid) fun _ _ _ => ?_
    refine .bind (V := fun _ _ => True) (.modify fun _ _ h => h) fun _ _ _ => ?_
    exact of_offTrees .prune .prune

theorem bootstrapGroup :
    StaysSame (CityGServer.bootstrapGroup env gid) (CityGServer.bootstrapGroup env gid) := by
  refine .bind (.check fun s t hcore => ?_) ?_
  · have hnMax := congrArg GroupState.treeNMax hcore
    exact congrArg Except.ok hnMax
  rintro nMax _ rfl
  refine .bind (.check fun _ _ _ => rfl) ?_
  rintro blank _ rfl
  refine .bind (.check fun _ _ _ => rfl) ?_
  rintro kemTreeHash _ rfl
  let shown : PkEntries := if blank = [] then [] else [[]]
  exact .bind (edit (fun core => core.bootstrapped _ kemTreeHash shown) fun _ => rfl)
    fun _ _ _ => record env gid

theorem initializeGroup (hasHistory : Bool) :
    StaysSame (CityGServer.initializeGroup env gid hasHistory)
      (CityGServer.initializeGroup env gid hasHistory) := by
  refine .bind (edit withMaxBarrierUpdateBytes fun _ => rfl) fun _ _ _ => .bind (.check fun s t hcore => ?_) ?_
  · have hinitialized := congrArg GroupState.barrierInitialized hcore
    exact congrArg Except.ok hinitialized
  rintro initialized _ rfl
  split
  · exact bootstrapGroup env gid
  · exact .pure trivial

end

end StaysSame

section Epochs
variable {env : ServerEnv} {bundle : ClientEpochBundle}

theorem applyDelta_historyCore (H : MerkleHash) (state : GroupState) (baseRoot : Bytes32)
    (delta : MembershipDelta) :
    (state.historyCore.applyDelta H baseRoot delta).2 = (state.applyDelta H baseRoot delta).2 ∧
      (state.applyDelta H baseRoot delta).1.historyCore =
        (state.historyCore.applyDelta H baseRoot delta).1.withoutLeaves := by
  have hbase : state.historyCore.baseSnapshot baseRoot = state.baseSnapshot baseRoot := rfl
  unfold applyDelta
  rw [hbase]
  cases state.baseSnapshot baseRoot with
  | none => exact ⟨rfl, rfl⟩
  | some base =>
    dsimp only
    split_ifs
    · exact ⟨rfl, rfl⟩
    · exact ⟨rfl, rfl⟩
    · cases canonicalSetRoot H (base.applyDelta delta).members.keys <;> exact ⟨rfl, rfl⟩

theorem StaysSame.applyMembership (H : MerkleHash) (baseRoot : Bytes32) (delta : MembershipDelta) :
    Lockstep SameCore Eq (CityG.applyMembership H baseRoot delta) (CityG.applyMembership H baseRoot delta) := by
  refine .of_outcome (fun core => (core.applyDelta H baseRoot delta).2)
    (fun core => (core.applyDelta H baseRoot delta).1.withoutLeaves) ?_
  intro s root s' hrun
  obtain ⟨hvalue, heffect⟩ := applyDelta_historyCore H s baseRoot delta
  unfold CityG.applyMembership at hrun
  split at hrun
  · next state newRoot happlied =>
      rw [happlied] at hvalue heffect
      cases hrun
      exact ⟨hvalue, heffect⟩
  · cases hrun

def SameUpdate : Option BarrierUpdateValidationOutcome → Option BarrierUpdateValidationOutcome → Prop
  | none, none => True
  | some a, some b => a.parsed = b.parsed ∧
      writeNewPublicKeys a.snapshotPre a.parsed.newPublicKeys = .ok a.snapshotPost ∧
      writeNewPublicKeys b.snapshotPre b.parsed.newPublicKeys = .ok b.snapshotPost
  | _, _ => False

theorem validated_of_parsed {state : GroupState} {header : HeaderMap} {delta : MembershipDelta}
    {validation : Option BarrierUpdateValidationOutcome} {reason : Nat} {parsed : ParsedBarrierUpdate}
    (hreason : parseBarrierUpdateReason header = .ok (some reason))
    (hparsed : parseBarrierUpdate env.wire header state.nMax = .ok (some parsed))
    (h : validateBarrierUpdateAgainstRoster env.hL env.wire state header delta = .ok validation) :
    ∃ outcome, validation = some outcome := by
  rw [validateBarrierUpdateAgainstRoster, Except.mapError_eq_ok, validateBarrierUpdate, hreason] at h
  simp only [Except.bind_eq_ok, Except.ok.injEq, exists_eq_left', hparsed] at h
  obtain ⟨_, -, _, -, h⟩ := h
  obtain ⟨outcome, -, rfl⟩ := Except.map_eq_ok.mp h
  exact ⟨outcome, rfl⟩

theorem sameUpdate_of_validated {state state' : GroupState} {header : HeaderMap}
    {delta delta' : MembershipDelta} {left right : Option BarrierUpdateValidationOutcome}
    (hnMax : state.nMax = state'.nMax)
    (hleft : validateBarrierUpdateAgainstRoster env.hL env.wire state header delta = .ok left)
    (hright : validateBarrierUpdateAgainstRoster env.hL env.wire state' header delta' = .ok right) :
    SameUpdate left right := by
  cases left with
  | none =>
    cases right with
    | none => trivial
    | some b =>
      obtain ⟨reason, hreason, hparsed, -⟩ := validateBarrierUpdateAgainstRoster_ok hright
      obtain ⟨_, hnone⟩ := validated_of_parsed hreason (hnMax ▸ hparsed) hleft
      cases hnone
  | some a =>
    obtain ⟨reason, hreason, hparsed, _, _, _, _, haccepted⟩ :=
      validateBarrierUpdateAgainstRoster_ok hleft
    obtain ⟨b, rfl⟩ := validated_of_parsed hreason (hnMax ▸ hparsed) hright
    obtain ⟨_, -, hparsed', _, _, _, _, haccepted'⟩ := validateBarrierUpdateAgainstRoster_ok hright
    rw [hnMax, hparsed'] at hparsed
    exact ⟨(Option.some.inj (Except.ok.inj hparsed)).symm, haccepted.post_ok, haccepted'.post_ok⟩

theorem ne_nil_of_treeHash {hL : HashL} {nMax : Nat} {pk : PkEntries} {hash : Bytes32}
    (h : computeBarrierTreeHash hL nMax pk = .ok hash) : pk ≠ [] := by
  simp only [computeBarrierTreeHash, expectedTreeLen, Except.bind_eq_ok, Except.ensure_eq_ok,
    Except.pure_eq_ok] at h
  obtain ⟨len, ⟨_, hnMax, rfl⟩, _, hlength, -⟩ := h
  rintro rfl
  rw [List.length_nil] at hlength
  omega

theorem StaysSame.commitTree (gid : Bytes) {left right : Option BarrierUpdateValidationOutcome}
    (h : SameUpdate left right) :
    StaysSame (CityG.commitTree env gid left) (CityG.commitTree env gid right) := by
  match left, right, h with
  | none, none, _ => exact .pure trivial
  | some a, some b, ⟨hparsed, hleft, hright⟩ =>
    refine .bind .check_ok ?_
    rintro predecessor predecessor' ⟨⟨_, hhash⟩, _, hhash'⟩
    -- both trees are there, before and after the new keys
    have hpost : a.snapshotPost ≠ [] := by
      rw [← List.length_pos_iff, writeNewPublicKeys_length hleft]
      exact List.length_pos_iff.mpr (ne_nil_of_treeHash hhash)
    have hpost' : b.snapshotPost ≠ [] := by
      rw [← List.length_pos_iff, writeNewPublicKeys_length hright]
      exact List.length_pos_iff.mpr (ne_nil_of_treeHash hhash')
    refine .bind .any_check fun _ _ _ => .bind (.modify fun s t hcore => ?_) fun _ _ _ => ?_
    · have hput : ∀ (validation : BarrierUpdateValidationOutcome) (state : GroupState),
          validation.snapshotPost ≠ [] → (state.putTreeState validation).historyCore =
            { state.historyCore with
              kemTreeHashAfter := validation.parsed.kemTreeHashAfter
              nMax := max validation.parsed.treeSize 1
              barrierPkEntries := [[]] } := by
        intro validation state hne
        simp [putTreeState, historyCore, hne]
      unfold SameCore at hcore ⊢
      rw [hput a s hpost, hput b t hpost', hcore, hparsed]
    · refine .bind (ensureCurrent env gid) fun _ _ _ => .bind .any_check fun _ _ _ => ?_
      refine .bind (of_offTrees (.recordWithMetadata _ _ _ _) (.recordWithMetadata _ _ _ _))
        fun _ _ _ => ?_
      exact record env gid

theorem refreshHistory_near {state state' refreshed refreshed' : GroupState}
    (h : Near env.hL bundle.gid state state')
    (hboth : bundle.hasUpdate = false →
      (state.Current env.hL bundle.gid ↔ state'.Current env.hL bundle.gid))
    (hleft : CityG.refreshHistory env bundle state = .ok () refreshed)
    (hright : CityG.refreshHistory env bundle state' = .ok () refreshed') :
    SameCore refreshed refreshed' := by
  unfold CityG.refreshHistory at hleft hright
  split at hleft
  · next hupdate =>
      rw [if_pos hupdate, EStateM.bind_eq_ok] at hright
      obtain ⟨_, _, hrun, hdone⟩ := EStateM.bind_eq_ok.mp hleft
      obtain ⟨-, rfl⟩ := EStateM.pure_eq_ok.mp hdone
      obtain ⟨_, _, hrun', hdone'⟩ := hright
      obtain ⟨-, rfl⟩ := EStateM.pure_eq_ok.mp hdone'
      have hcore := ensureCurrent_historyCore env.hL env.wire bundle.gid state
      have hcore' := ensureCurrent_historyCore env.hL env.wire bundle.gid state'
      rw [EStateM.final_of_ok hrun] at hcore
      rw [EStateM.final_of_ok hrun'] at hcore'
      exact hcore.trans (h.advanced_eq.trans hcore'.symm)
  · next hupdate =>
      rw [if_neg hupdate] at hright
      obtain ⟨-, rfl⟩ := EStateM.pure_eq_ok.mp hleft
      obtain ⟨-, rfl⟩ := EStateM.pure_eq_ok.mp hright
      exact h.sameCore (hboth (Bool.not_eq_true _ ▸ hupdate))

theorem recordCurrentUpdate_historyCore (header : HeaderMap) (before state : GroupState)
    (validation : Option BarrierUpdateValidationOutcome) :
    (recordCurrentUpdate header before validation state).historyCore = state.historyCore := by
  unfold recordCurrentUpdate
  split <;> rfl

theorem finalizeJoin_historyCore (token : Option Bytes32) (popPk : Option Bytes)
    (state : GroupState) : (state.finalizeJoin token popPk).historyCore = state.historyCore := by
  have hcore := congrArg historyCore (finalizeJoin_withoutLeaves token popPk state)
  exact hcore

theorem StaysSame.commitBundle {prepared prepared' : Prepared} (barrier : BarrierGroupState)
    (hdelta : prepared.delta = prepared'.delta)
    (hupdate : SameUpdate prepared.validation prepared'.validation) :
    Lockstep SameCore Eq (CityG.commitBundle env bundle prepared barrier)
      (CityG.commitBundle env bundle prepared' barrier) := by
  unfold CityG.commitBundle
  rw [hdelta]
  refine .bind (of_offLeaves (.activateSlotLeases _) (.activateSlotLeases _)) fun _ _ _ => ?_
  refine .bind (edit (·.withBarrierState barrier) fun _ => rfl) fun _ _ _ => ?_
  refine .bind (.check fun _ _ _ => rfl) ?_
  rintro record _ rfl
  refine .bind (edit id fun _ => by cases record <;> rfl) fun _ _ _ => ?_
  refine .bind (.modify fun s t hcore => ?_) fun _ _ _ => .bind .any_check fun _ _ _ => ?_
  · unfold SameCore at hcore ⊢
    rw [recordCurrentUpdate_historyCore, recordCurrentUpdate_historyCore, hcore]
  refine .bind .any_check fun token token' _ => .bind .any_check fun _ _ _ => ?_
  refine .bind (applyMembership _ _ _) ?_
  rintro newRoot _ rfl
  refine .bind (of_offLeaves (.changeMembers _ _) (.changeMembers _ _)) fun _ _ _ => ?_
  refine .bind (.modify fun s t hcore => ?_) fun _ _ _ => ?_
  · unfold SameCore at hcore ⊢
    rw [finalizeJoin_historyCore, finalizeJoin_historyCore, hcore]
  exact .bind (commitTree bundle.gid hupdate) fun _ _ _ => .pure rfl

end Epochs

end GroupState

def ServerRequest.registers : ServerRequest → Option Bytes32
  | .registerGroup gid _ | .registerGroupWithAdmin gid _ _ => some gid
  | _ => none

namespace CityGServer

structure Near (env : ServerEnv) (server server' : CityGServer) : Prop where
  ctx : server.ctx = server'.ctx
  group : ∀ gid, (server.roster.group gid).Near env.hL gid (server'.roster.group gid)
  replaying : server.replaying = server'.replaying

structure NearAt (env : ServerEnv) (gid : Bytes) (server server' : CityGServer) : Prop
    extends Near env server server' where
  same : (server.roster.group gid).SameCore (server'.roster.group gid)

variable {env : ServerEnv} {server server' : CityGServer} {gid : Bytes}

theorem Near.refl (env : ServerEnv) (server : CityGServer) : Near env server server :=
  ⟨rfl, fun _ => .inl rfl, rfl⟩

theorem Near.symm (h : Near env server server') : Near env server' server :=
  ⟨h.ctx.symm, fun gid => (h.group gid).symm, h.replaying.symm⟩

theorem Near.at (h : Near env server server')
    (hboth : (server.roster.group gid).Current env.hL gid ↔
      (server'.roster.group gid).Current env.hL gid) : NearAt env gid server server' :=
  ⟨h, (h.group gid).sameCore hboth⟩

theorem Near.setCtx (h : Near env server server') {ctx ctx' : AcceptanceContext} (hctx : ctx = ctx') :
    Near env (server.setCtx ctx) (server'.setCtx ctx') :=
  ⟨hctx, h.group, h.replaying⟩

theorem Near.putGroup (h : Near env server server') {state state' : GroupState}
    (hstate : state.Near env.hL gid state') :
    Near env (server.putGroup gid state) (server'.putGroup gid state') := by
  refine ⟨h.ctx, fun gid' => ?_, h.replaying⟩
  unfold CityGServer.putGroup
  rw [GroupRoster.group_insert, GroupRoster.group_insert]
  split
  · next heq => exact heq ▸ hstate
  · exact h.group gid'

theorem NearAt.setCtx (h : NearAt env gid server server') {ctx ctx' : AcceptanceContext}
    (hctx : ctx = ctx') : NearAt env gid (server.setCtx ctx) (server'.setCtx ctx') :=
  ⟨h.toNear.setCtx hctx, h.same⟩

theorem NearAt.putGroup (h : NearAt env gid server server') {state state' : GroupState}
    (hstate : state.SameCore state') :
    NearAt env gid (server.putGroup gid state) (server'.putGroup gid state') := by
  refine ⟨h.toNear.putGroup (.inl hstate), ?_⟩
  unfold CityGServer.putGroup
  rw [GroupRoster.group_insert, GroupRoster.group_insert, if_pos rfl, if_pos rfl]
  exact hstate

abbrev StaysNear {α β : Type} (env : ServerEnv) (x : ServerM α) (y : ServerM β) : Prop :=
  Lockstep (Near env) (fun _ _ => True) x y

theorem onGroup_near {α β : Type} {V : α → β → Prop} (gid : Bytes)
    {x : EStateM CityGError GroupState α} {y : EStateM CityGError GroupState β}
    (h : Lockstep (GroupState.Near env.hL gid) V x y) :
    Lockstep (Near env) V (onGroup gid x) (onGroup gid y) :=
  .zoom (fun _ _ hnear => hnear.group gid) (fun _ _ _ _ hnear hstate => hnear.putGroup hstate) h

theorem onKnownGroup_near {α β : Type} (gid : Bytes32) {x : EStateM CityGError GroupState α}
    {y : EStateM CityGError GroupState β} (h : GroupState.StaysNear env.hL gid.val x y) :
    StaysNear env (onKnownGroup gid x) (onKnownGroup gid y) :=
  .bind .any_check fun _ _ _ => onGroup_near gid.val h

theorem editGroup_near (gid : Bytes) {f : GroupState → GroupState}
    (hf : ∀ s : GroupState, (f s).historyCore = s.historyCore) :
    StaysNear env (onGroup gid (modify f)) (onGroup gid (modify f)) :=
  onGroup_near gid (GroupState.StaysNear.of_keeps (.modify hf) (.modify hf))

theorem editCtx_near (f : AcceptanceContext → AcceptanceContext) :
    StaysNear env (modify fun server => server.setCtx (f server.ctx))
      (modify fun server => server.setCtx (f server.ctx)) :=
  .modify fun _ _ hnear => hnear.setCtx (congrArg f hnear.ctx)

theorem insertKbroad_ctx (gid kbroadPublic : Bytes) (h : server.ctx = server'.ctx) :
    (server.insertKbroad gid kbroadPublic).ctx = (server'.insertKbroad gid kbroadPublic).ctx :=
  congrArg (fun ctx : AcceptanceContext => ctx.setKbroadRegistry
    (some ((ctx.kbroadRegistry.getD .empty).insert gid kbroadPublic))) h

theorem rotateGroupKbroad_near (gid : Bytes32) (kbroadPublic : Bytes) :
    StaysNear env (rotateGroupKbroad gid kbroadPublic) (rotateGroupKbroad gid kbroadPublic) := by
  refine .bind .any_check fun _ _ _ => .bind .any_check fun _ _ _ => ?_
  refine .bind (.modify fun _ _ hnear => hnear.setCtx (insertKbroad_ctx _ _ hnear.ctx)) fun _ _ _ => ?_
  exact onGroup_near gid.val (.modify fun _ _ h => GroupState.near_rotated false h rfl rfl)

theorem ensureKbroadReady_near (gid : Bytes32) (freshKbroadPublic : Bytes) :
    StaysNear env (ensureKbroadReady gid freshKbroadPublic)
      (ensureKbroadReady gid freshKbroadPublic) := by
  refine .bind (.check fun s t hnear => ?_) ?_
  · have hrotation := congrArg GroupState.rotationRequired (hnear.group gid.val).withCommitment
    exact congrArg Except.ok hrotation
  rintro required _ rfl
  split
  · exact rotateGroupKbroad_near gid freshKbroadPublic
  · exact .pure trivial

section Tickets
variable (env : ServerEnv) (gid : Bytes32)

theorem buildJoinTicketWithLeaf_near (leafIdOverride : Option Bytes32) (fresh : FreshValues) :
    StaysNear env (buildJoinTicketWithLeaf env gid leafIdOverride fresh)
      (buildJoinTicketWithLeaf env gid leafIdOverride fresh) := by
  refine .bind (ensureKbroadReady_near gid _) fun _ _ _ => .bind .any_check fun _ _ _ => ?_
  refine .bind (onGroup_near gid.val (GroupState.StaysNear.reserveJoin env _ _ _ _ _)) fun reserved reserved' hparent => ?_
  refine .bind .any_check fun _ _ _ => .bind .any_check fun _ _ _ => ?_
  refine .bind .any_check fun _ _ _ => .bind .any_check fun _ _ _ => ?_
  refine .bind .any_check fun _ _ _ => .bind .any_check fun _ _ _ => ?_
  refine .bind (.check fun s t hnear => ?_) ?_
  · exact congrArg (fun ctx => Except.ok (AcceptanceContext.barrierGroupStateEntry ctx gid.val))
      hnear.ctx
  rintro barrier _ rfl
  rw [hparent]
  refine .bind (onGroup_near gid.val (GroupState.StaysNear.joinProvisioning env _ barrier _)) fun _ _ _ => ?_
  refine .bind (V := fun _ _ => True) ?_ fun _ _ _ => .pure trivial
  exact onGroup_near gid.val
    (GroupState.StaysNear.of_keeps (.modify fun _ => rfl) (.modify fun _ => rfl))

theorem buildMergeTicketCore_near (author : Bytes32) (revokedLeafId : Option Bytes32)
    (freshKbroadPublic : Bytes) :
    StaysNear env (buildMergeTicketCore env gid author revokedLeafId freshKbroadPublic)
      (buildMergeTicketCore env gid author revokedLeafId freshKbroadPublic) := by
  refine .bind (ensureKbroadReady_near gid _) fun _ _ _ => .bind .any_check fun _ _ _ => ?_
  refine .bind .any_check fun _ _ _ => ?_
  refine .bind (onGroup_near gid.val (GroupState.StaysNear.mergeSlots env _ author _)) fun _ _ _ => ?_
  refine .bind .any_check fun _ _ _ => .bind .any_check fun _ _ _ => ?_
  refine .bind .any_check fun _ _ _ => .bind .any_check fun _ _ _ => ?_
  refine .bind (editCtx_near (·.prunePivots)) fun _ _ _ => ?_
  refine .bind .any_check fun _ _ _ => .bind .any_check fun _ _ _ => ?_
  refine .bind .any_check fun _ _ _ => .bind .any_check fun _ _ _ => ?_
  exact .bind .any_check fun _ _ _ => .pure trivial

end Tickets

section Registration
variable (env : ServerEnv) (gid : Bytes32) (kbroadPublic : Bytes)

def registerFresh : ServerM Unit := do
  modify (insertKbroad gid.val kbroadPublic)
  onGroup gid.val (modify (·.clearKbroad))
  onGroup gid.val (initializeGroup env gid.val false)
  modify (mirrorGroup gid.val)

theorem hasHistory_insert {roster : GroupRoster} {gid : Bytes} {state : GroupState}
    (h : state.WithoutHistory) : GroupRoster.hasHistory (roster.insert gid state) gid = false := by
  unfold GroupRoster.hasHistory
  rw [OrdMap.get?_insert, if_pos rfl]
  simp [h.latestRoot, h.snapshots, h.revoked]

theorem registerGroup_ok {server server' : CityGServer}
    (h : registerGroup env gid kbroadPublic server = .ok () server') :
    registerFresh env gid kbroadPublic server = .ok () server' := by
  rw [registerGroup, EStateM.check_bind_eq_ok] at h
  obtain ⟨_, hfresh, h⟩ := h
  rw [EStateM.check_bind_eq_ok] at h
  obtain ⟨_, -, h⟩ := h
  obtain ⟨hroot, hsnapshots, hrevoked⟩ :=
    GroupRoster.withoutHistory (Except.ensure_eq_ok.mp hfresh)
  have hcleared : ((server.roster.group gid.val).clearKbroad).WithoutHistory :=
    ⟨hroot, hsnapshots, hrevoked⟩
  rw [EStateM.modify_bind_eq_ok, EStateM.bind_eq_ok] at h
  obtain ⟨_, cleared, hclear, h⟩ := h
  rw [registerFresh, EStateM.modify_bind_eq_ok, EStateM.bind_eq_ok]
  refine ⟨_, cleared, hclear, ?_⟩
  rw [onGroup, EStateM.zoom_eq_ok] at hclear
  obtain ⟨state, hstate, rfl⟩ := hclear
  obtain rfl := EStateM.modify_eq_ok.mp hstate
  rw [initializeGroupBarrierBootstrapState, EStateM.check_bind_eq_ok] at h
  obtain ⟨hasHistory, hread, h⟩ := h
  have hnone : hasHistory = false := by
    rw [← Except.pure_eq_ok.mp hread]
    exact hasHistory_insert hcleared
  rw [hnone] at h
  exact h

theorem registerFresh_near :
    Lockstep (NearAt env gid.val) (fun _ _ => True) (registerFresh env gid kbroadPublic)
      (registerFresh env gid kbroadPublic) := by
  have honGroup : ∀ {x : EStateM CityGError GroupState Unit}, GroupState.StaysSame x x →
      Lockstep (NearAt env gid.val) (fun _ _ => True) (onGroup gid.val x) (onGroup gid.val x) :=
    fun h => .zoom (fun _ _ hnear => hnear.same)
      (fun _ _ _ _ hnear hstate => hnear.putGroup hstate) h
  refine .bind (.modify fun _ _ hnear => hnear.setCtx (insertKbroad_ctx _ _ hnear.ctx)) fun _ _ _ => ?_
  refine .bind (honGroup
    (.edit (fun core => { core with rotationRequired := false }) fun _ => rfl)) fun _ _ _ => ?_
  refine .bind (honGroup (.initializeGroup env _ false)) fun _ _ _ => ?_
  refine .modify fun s t hnear => hnear.setCtx ?_
  have hbarrier := congrArg GroupState.barrierState hnear.same
  rw [hnear.ctx]
  exact congrArg _ hbarrier

theorem registerGroup_near {u u' : Unit} {left right left' right' : CityGServer}
    (hnear : NearAt env gid.val left right)
    (hleft : registerGroup env gid kbroadPublic left = .ok u left')
    (hright : registerGroup env gid kbroadPublic right = .ok u' right') : Near env left' right' :=
  (registerFresh_near env gid kbroadPublic hnear (registerGroup_ok env gid kbroadPublic hleft)
    (registerGroup_ok env gid kbroadPublic hright)).2.toNear

end Registration

def grants (env : ServerEnv) (request : ServerRequest) (server : CityGServer) : Bool :=
  match request with
  | .registerGroup gid kbroadPublic => decide ((registerGroup env gid kbroadPublic).Succeeds server)
  | .registerGroupWithAdmin gid kbroadPublic popKey =>
    decide ((registerGroupWithAdmin env gid kbroadPublic popKey).Succeeds server)
  | .attachInitialRoomAdmin gid popKey => decide ((attachInitialRoomAdmin gid popKey).Succeeds server)
  | .rotateGroupKbroad gid kbroadPublic =>
    decide ((rotateGroupKbroad gid kbroadPublic).Succeeds server)
  | .rotateGroupKbroadWithActor gid kbroadPublic actor replayKey =>
    decide ((rotateGroupKbroadWithActor gid kbroadPublic actor replayKey).Succeeds server)
  | .grantRoomAdmin gid actor target replayKey =>
    decide ((grantRoomAdmin gid actor target replayKey).Succeeds server)
  | .revokeRoomAdmin gid actor target replayKey =>
    decide ((revokeRoomAdmin gid actor target replayKey).Succeeds server)
  | .buildJoinTicket gid leafIdOverride fresh =>
    decide ((buildJoinTicketWithLeaf env gid leafIdOverride fresh).Succeeds server)
  | .buildMergeTicket gid author revokedLeafId freshKbroadPublic =>
    decide ((buildMergeTicketCore env gid author revokedLeafId freshKbroadPublic).Succeeds server)
  | .buildAdminExpelTicket gid actor author target replayKey freshKbroadPublic =>
    decide ((buildAdminExpelTicket env gid actor author target replayKey
      freshKbroadPublic).Succeeds server)
  | .resolveRevokedOccupancies gid rootsHash =>
    decide ((resolveRevokedOccupancies env gid rootsHash).Succeeds server)
  | .resolveJoinOccupanciesSince gid version =>
    decide ((resolveJoinOccupanciesSince env gid version).Succeeds server)
  | .currentHistoryCommitment gid => decide ((currentHistoryCommitment env gid).Succeeds server)

theorem serve_near {request : ServerRequest} (hnear : Near env server server')
    (hregisters : ∀ gid ∈ request.registers, NearAt env gid.val server server')
    (hleft : grants env request server) (hright : grants env request server') :
    Near env (serve env request server) (serve env request server') := by
  have hstays : ∀ {α : Type} {x : ServerM α}, StaysNear env x x → decide (x.Succeeds server) = true →
      decide (x.Succeeds server') = true → Near env (x.final server) (x.final server') :=
    fun h hs ht => h.final hnear (of_decide_eq_true hs) (of_decide_eq_true ht)
  have hadmins : ∀ (gid : Bytes32) (f : GroupState → GroupState),
      (∀ s : GroupState, (f s).historyCore = s.historyCore) →
      StaysNear env (onGroup gid.val (modify f)) (onGroup gid.val (modify f)) :=
    fun gid f h => editGroup_near gid.val h
  cases request with
  | registerGroup gid kbroadPublic =>
    obtain ⟨_, _, hs⟩ := of_decide_eq_true hleft
    obtain ⟨_, _, ht⟩ := of_decide_eq_true hright
    change Near env ((registerGroup env gid kbroadPublic).final server) _
    rw [EStateM.final_of_ok hs, serve, EStateM.final_of_ok ht]
    exact registerGroup_near env gid kbroadPublic (hregisters gid rfl) hs ht
  | registerGroupWithAdmin gid kbroadPublic popKey =>
    obtain ⟨_, _, hs⟩ := of_decide_eq_true hleft
    obtain ⟨_, _, ht⟩ := of_decide_eq_true hright
    change Near env ((registerGroupWithAdmin env gid kbroadPublic popKey).final server) _
    rw [EStateM.final_of_ok hs, serve, EStateM.final_of_ok ht]
    obtain ⟨_, _, hs, hadmin⟩ := EStateM.bind_eq_ok.mp hs
    obtain ⟨_, _, ht, hadmin'⟩ := EStateM.bind_eq_ok.mp ht
    have hregistered := registerGroup_near env gid kbroadPublic (hregisters gid rfl) hs ht
    exact (hadmins gid (·.insertRoomAdmin popKey) (fun _ => rfl) hregistered hadmin hadmin').2
  | attachInitialRoomAdmin gid popKey =>
    refine hstays ?_ hleft hright
    refine .bind .any_check fun _ _ _ => .bind .any_check fun _ _ _ => ?_
    exact .bind .any_check fun _ _ _ => hadmins gid (·.insertRoomAdmin popKey) fun _ => rfl
  | rotateGroupKbroad gid kbroadPublic =>
    exact hstays (rotateGroupKbroad_near gid kbroadPublic) hleft hright
  | rotateGroupKbroadWithActor gid kbroadPublic actor replayKey =>
    refine hstays ?_ hleft hright
    refine .bind .any_check fun _ _ _ => .bind .any_check fun _ _ _ => ?_
    refine .bind .any_check fun _ _ _ => .bind (rotateGroupKbroad_near gid _) fun _ _ _ => ?_
    exact hadmins gid (·.insertReplayKey replayKey) fun _ => rfl
  | grantRoomAdmin gid actor target replayKey =>
    refine hstays ?_ hleft hright
    refine .bind .any_check fun _ _ _ => .bind .any_check fun _ _ _ => ?_
    refine .bind .any_check fun _ _ _ => .bind .any_check fun _ _ _ => ?_
    refine .bind (hadmins gid (·.insertRoomAdmin target) fun _ => rfl) fun _ _ _ => ?_
    refine .bind (hadmins gid (·.insertReplayKey replayKey) fun _ => rfl) fun _ _ _ => ?_
    exact .bind .any_check fun _ _ _ => .pure trivial
  | revokeRoomAdmin gid actor target replayKey =>
    refine hstays ?_ hleft hright
    refine .bind .any_check fun _ _ _ => .bind .any_check fun _ _ _ => ?_
    refine .bind .any_check fun _ _ _ => .bind .any_check fun _ _ _ => ?_
    refine .bind .any_check fun _ _ _ => ?_
    refine .bind (hadmins gid (·.removeRoomAdmin target) fun _ => rfl) fun _ _ _ => ?_
    refine .bind (hadmins gid (·.insertReplayKey replayKey) fun _ => rfl) fun _ _ _ => ?_
    exact .bind .any_check fun _ _ _ => .pure trivial
  | buildJoinTicket gid leafIdOverride fresh =>
    exact hstays (buildJoinTicketWithLeaf_near env gid leafIdOverride fresh) hleft hright
  | buildMergeTicket gid author revokedLeafId freshKbroadPublic =>
    exact hstays (buildMergeTicketCore_near env gid author revokedLeafId _) hleft hright
  | buildAdminExpelTicket gid actor author target replayKey freshKbroadPublic =>
    refine hstays ?_ hleft hright
    refine .bind .any_check fun _ _ _ => .bind .any_check fun _ _ _ => ?_
    refine .bind .any_check fun _ _ _ => .bind .any_check fun _ _ _ => ?_
    refine .bind (buildMergeTicketCore_near env gid author _ _) fun _ _ _ => ?_
    exact .bind (hadmins gid (·.insertReplayKey replayKey) fun _ => rfl) fun _ _ _ => .pure trivial
  | resolveRevokedOccupancies gid rootsHash =>
    exact hstays (onKnownGroup_near gid (.resolveRevokedOccupancies env _ _ _)) hleft hright
  | resolveJoinOccupanciesSince gid version =>
    exact hstays (onKnownGroup_near gid (.resolveJoinOccupanciesSince env _ _ _)) hleft hright
  | currentHistoryCommitment gid =>
    exact hstays (onKnownGroup_near gid (.ensureCurrent env _)) hleft hright

theorem markRotation_same {state state' : GroupState} (delta : MembershipDelta)
    (h : state.SameCore state') : (markRotation delta state).SameCore (markRotation delta state') := by
  unfold markRotation
  split
  · exact h
  · have hmarked := congrArg (fun core => { core with rotationRequired := true }) h
    exact hmarked

theorem acceptEpoch_near {bundle : ClientEpochBundle} {outcome outcome' : ServerOutcome}
    {left right left' right' : CityGServer} (hnear : Near env left right)
    (hboth : bundle.hasUpdate = false →
      ((left.roster.group bundle.gid).Current env.hL bundle.gid ↔
        (right.roster.group bundle.gid).Current env.hL bundle.gid))
    (hleft : acceptEpoch env bundle left = .ok outcome left')
    (hright : acceptEpoch env bundle right = .ok outcome' right') :
    NearAt env bundle.gid left' right' := by
  obtain ⟨prepared, accepted, barrier, group, newRoot, hepoch⟩ := acceptEpoch_ok hleft
  obtain ⟨prepared', accepted', barrier', group', newRoot', hepoch'⟩ := acceptEpoch_ok hright
  have hprepared := prepareBundle_ok hepoch.prepare
  have hprepared' := prepareBundle_ok hepoch'.prepare
  -- acceptance starts from the same context
  obtain ⟨acceptance, hanchor, hctx⟩ := hepoch.anchor
  obtain ⟨acceptance', hanchor', hctx'⟩ := hepoch'.anchor
  rw [hnear.ctx, hanchor'] at hanchor
  cases hanchor
  obtain rfl : barrier' = barrier :=
    Option.some.inj (hepoch'.barrier_eq.symm.trans hepoch.barrier_eq)
  -- and the edits of the group from the same core
  have hdelta : prepared.delta = prepared'.delta :=
    Except.ok.inj (hprepared.delta.symm.trans hprepared'.delta)
  have hgroup := hnear.group bundle.gid
  have hstart := GroupState.refreshHistory_near hgroup hboth hprepared.refreshed hprepared'.refreshed
  have hnMax : prepared.before.nMax = prepared'.before.nMax := by
    have hbefore := congrArg (fun ids => ids.2.2) hprepared.before_identities
    have hbefore' := congrArg (fun ids => ids.2.2) hprepared'.before_identities
    have hshared := congrArg GroupState.nMax hgroup.withCommitment
    exact hbefore.trans (hshared.trans hbefore'.symm)
  have hupdate := GroupState.sameUpdate_of_validated hnMax hprepared.validated hprepared'.validated
  obtain ⟨rfl, hdone⟩ := GroupState.StaysSame.commitBundle barrier' hdelta hupdate hstart
    hepoch.commit hepoch'.commit
  have hmarked := markRotation_same prepared'.delta hdone
  refine ⟨⟨?_, fun gid => ?_, ?_⟩, ?_⟩
  · have hbarrier := congrArg GroupState.barrierState hdone
    rw [hctx, hctx']
    exact congrArg (fun state => carryParities bundle acceptance newRoot
      (accepted.insertBarrierGroupState bundle.gid state)) hbarrier
  · rw [hepoch.roster, hepoch'.roster, GroupRoster.group_insert, GroupRoster.group_insert, hdelta]
    split
    · exact .inl hmarked
    · exact hnear.group gid
  · exact hepoch.replaying.trans (hnear.replaying.trans hepoch'.replaying.symm)
  · rw [hepoch.roster, hepoch'.roster, GroupRoster.group_insert, GroupRoster.group_insert, hdelta,
      if_pos rfl, if_pos rfl]
    exact hmarked

theorem answer_near {read : ReadRequest} (hnear : Near env server server')
    (hcurrent : ((server.roster.group read.gid.val).advanced env.hL read.gid.val).Current env.hL
      read.gid.val) : Near env (server.answer env read) server' := by
  unfold answer onKnownGroup
  by_cases hknown : read.gid.val ∈ server.roster
  · rw [EStateM.final_check_bind (a := ()) (by simp [Except.ensure, hknown]), onGroup,
      EStateM.final_zoom]
    refine ⟨hnear.ctx, fun gid => ?_, hnear.replaying⟩
    unfold putGroup
    rw [GroupRoster.group_insert]
    split
    · next heq =>
        rw [heq]
        have hadvanced : ((server.roster.group read.gid.val).historyCore.advanced env.hL
            read.gid.val).Current env.hL read.gid.val := by
          rw [← GroupState.historyCore_advanced]
          exact GroupState.current_historyCore.mpr hcurrent
        exact (hnear.group read.gid.val).look hadvanced (read.edit_looks _)
    · exact hnear.group gid
  · rw [EStateM.final_check_bind_error (e := .invalidInput "group not found")
      (by simp [Except.ensure, hknown])]
    exact hnear

end CityGServer

structure PairRun where
  left : CityGServer
  right : CityGServer

inductive PairOp where
  | readLeft (read : ReadRequest)
  | readRight (read : ReadRequest)
  | request (request : ServerRequest)
  | acceptEpoch (bundle : ClientEpochBundle)

namespace PairRun

def start (server : CityGServer) : PairRun := ⟨server, server⟩

/-- Reads are answered by one of the servers; requests are granted and epochs
accepted or refused by both. -/
def step (env : ServerEnv) (run : PairRun) : PairOp → Option PairRun
  | .readLeft read => some { run with left := run.left.answer env read }
  | .readRight read => some { run with right := run.right.answer env read }
  | .request request =>
    if CityGServer.grants env request run.left ∧ CityGServer.grants env request run.right then
      some ⟨CityGServer.serve env request run.left, CityGServer.serve env request run.right⟩
    else none
  | .acceptEpoch bundle =>
    match CityGServer.acceptEpoch env bundle run.left,
      CityGServer.acceptEpoch env bundle run.right with
    | .ok _ left, .ok _ right => some ⟨left, right⟩
    | .error _ left, .error _ right => some ⟨left, right⟩
    | _, _ => none

def UpToDateAlike (env : ServerEnv) (run : PairRun) (gid : Bytes) : Prop :=
  (run.left.roster.group gid).Current env.hL gid ↔ (run.right.roster.group gid).Current env.hL gid

instance (env : ServerEnv) (run : PairRun) (gid : Bytes) : Decidable (run.UpToDateAlike env gid) :=
  inferInstanceAs (Decidable (_ ↔ _))

/-- Joins and registrations find the chains together, and no step of a chain has
the zero id. -/
def ChainsMeet (env : ServerEnv) (run : PairRun) : PairOp → Prop
  | .readLeft read => ((run.left.roster.group read.gid.val).advanced env.hL read.gid.val).Current
      env.hL read.gid.val
  | .readRight read => ((run.right.roster.group read.gid.val).advanced env.hL read.gid.val).Current
      env.hL read.gid.val
  | .request request => ∀ gid ∈ request.registers, run.UpToDateAlike env gid.val
  | .acceptEpoch bundle => bundle.hasUpdate = false → run.UpToDateAlike env bundle.gid

instance (env : ServerEnv) (run : PairRun) (op : PairOp) : Decidable (ChainsMeet env run op) := by
  unfold ChainsMeet
  split <;> infer_instance

variable {env : ServerEnv} {run run' : PairRun}

theorem near_step {op : PairOp} (h : run.left.Near env run.right) (hguard : run.ChainsMeet env op)
    (hstep : run.step env op = some run') : run'.left.Near env run'.right := by
  cases op with
  | readLeft read =>
    cases hstep
    exact CityGServer.answer_near h hguard
  | readRight read =>
    cases hstep
    exact (CityGServer.answer_near h.symm hguard).symm
  | request request =>
    rw [step, Option.ite_none_right_eq_some] at hstep
    obtain ⟨hgranted, hserved⟩ := hstep
    cases hserved
    exact CityGServer.serve_near h (fun gid hgid => h.at (hguard gid hgid)) hgranted.1 hgranted.2
  | acceptEpoch bundle =>
    cases hleft : CityGServer.acceptEpoch env bundle run.left with
    | ok outcome left =>
      cases hright : CityGServer.acceptEpoch env bundle run.right with
      | ok outcome' right =>
        rw [step, hleft, hright] at hstep
        cases hstep
        exact (CityGServer.acceptEpoch_near h hguard hleft hright).toNear
      | error e right =>
        rw [step, hleft, hright] at hstep
        cases hstep
    | error e left =>
      cases hright : CityGServer.acceptEpoch env bundle run.right with
      | ok outcome right =>
        rw [step, hleft, hright] at hstep
        cases hstep
      | error e' right =>
        rw [step, hleft, hright] at hstep
        cases hstep
        rw [acceptEpoch_error hleft, acceptEpoch_error hright]
        exact h

/-- In every pair of runs whose chains meet before each join, both servers ask of
a merge that is prepared now for the same commitment, and after every epoch that
both accept its group has the same commitment in both. -/
theorem commitments_independent_of_reads
    (hreach : Run.Reach (fun run => ∃ server, run = start server) (step env) (ChainsMeet env) run) :
    (∀ gid, ((run.left.roster.group gid).advanced env.hL gid).currentHistoryCommitment =
      ((run.right.roster.group gid).advanced env.hL gid).currentHistoryCommitment) ∧
    ∀ bundle outcome outcome' left right, run.ChainsMeet env (.acceptEpoch bundle) →
      CityGServer.acceptEpoch env bundle run.left = .ok outcome left →
      CityGServer.acceptEpoch env bundle run.right = .ok outcome' right →
      (left.roster.group bundle.gid).currentHistoryCommitment =
        (right.roster.group bundle.gid).currentHistoryCommitment := by
  have hnear : run.left.Near env run.right := by
    refine hreach.invariant ?_ fun s op s' h hguard hstep => near_step h hguard hstep
    rintro _ ⟨server, rfl⟩
    exact .refl env server
  constructor
  · intro gid
    have hadvanced := (hnear.group gid).advanced_eq
    rw [← GroupState.historyCore_advanced, ← GroupState.historyCore_advanced] at hadvanced
    have hcommitment := congrArg GroupState.currentHistoryCommitment hadvanced
    exact hcommitment
  · intro bundle outcome outcome' left right hmeet hleft hright
    have hsame := (CityGServer.acceptEpoch_near hnear hmeet hleft hright).same
    have hcommitment := congrArg GroupState.currentHistoryCommitment hsame
    exact hcommitment

end PairRun

section Room

def readAfterJoin : List PairOp :=
  [.request (.registerGroup roomGid (kemKey 1)),
    .request (.buildJoinTicket roomGid (some (deviceLeaf 10)) ⟨kemKey 9, Bytes32.fill 77⟩),
    .request (.buildJoinTicket roomGid (some (deviceLeaf 11)) ⟨kemKey 9, Bytes32.fill 78⟩),
    .acceptEpoch (firstJoin.join 20),
    .readRight (.lookupMergeAcceptance roomGid 1 .zero .zero)]

def laterJoin : ClientEpochBundle := (secondJoin (deviceLeaf 10)).join 21

theorem commitments_independent_of_answered_read :
    ∃ run ∈ Run.exec (Run.guarded (PairRun.step roomEnv) (PairRun.ChainsMeet roomEnv))
        (.start roomServer) (readAfterJoin ++ [.request (.currentHistoryCommitment roomGid)]),
      ∃ outcome outcome' left right,
        CityGServer.acceptEpoch roomEnv laterJoin run.left = .ok outcome left ∧
        CityGServer.acceptEpoch roomEnv laterJoin run.right = .ok outcome' right ∧
        (left.roster.group laterJoin.gid).currentHistoryCommitment =
          (right.roster.group laterJoin.gid).currentHistoryCommitment := by
  obtain ⟨run, hrun, hmeet, hleft, hright⟩ : ∃ run ∈ Run.exec (Run.guarded (PairRun.step roomEnv)
      (PairRun.ChainsMeet roomEnv)) (.start roomServer)
        (readAfterJoin ++ [.request (.currentHistoryCommitment roomGid)]),
      run.ChainsMeet roomEnv (.acceptEpoch laterJoin) ∧
        (CityGServer.acceptEpoch roomEnv laterJoin).Succeeds run.left ∧
        (CityGServer.acceptEpoch roomEnv laterJoin).Succeeds run.right := by
    decide +kernel
  have hreach : Run.Reach (fun r => ∃ server, r = PairRun.start server) (PairRun.step roomEnv)
      (PairRun.ChainsMeet roomEnv) run := Run.reach_of_exec (.start ⟨_, rfl⟩) hrun
  obtain ⟨outcome, left, hleft⟩ := hleft
  obtain ⟨outcome', right, hright⟩ := hright
  exact ⟨run, hrun, outcome, outcome', left, right, hleft, hright,
    (PairRun.commitments_independent_of_reads hreach).2 _ _ _ _ _ hmeet hleft hright⟩

set_option maxRecDepth 1000000 in
/-- Otherwise the lookup has appended a step to the chain of its run, and a merge
that the other run accepts is refused there. -/
theorem lookup_makes_merge_stale :
    ∃ run ∈ Run.exec (PairRun.step roomEnv) (.start roomServer)
        (readAfterJoin ++ [.acceptEpoch laterJoin]),
      run.left.roster.members roomGid.val = [deviceLeaf 10, deviceLeaf 11] ∧
        run.right.roster.members roomGid.val = [deviceLeaf 10, deviceLeaf 11] ∧
        (run.left.roster.group roomGid.val).currentHistoryCommitment ≠
          (run.right.roster.group roomGid.val).currentHistoryCommitment ∧
        (CityGServer.acceptEpoch roomEnv ownExpulsion).Succeeds run.left ∧
        ¬ (CityGServer.acceptEpoch roomEnv ownExpulsion).Succeeds run.right := by
  decide +kernel

end Room

end CityG
