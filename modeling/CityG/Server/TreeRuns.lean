import CityG.Server.Expulsion
import CityG.Server.Recovery
import CityG.Server.TreeHash

/-!
# The tree of a group across restarts

A saved room holds a tree with its hash and no cache. A restart that replays the
journal may take the saved tree in place of the replayed one; the cache is
dropped at the end of that step. The invariant survives every restart whose
takeovers come to their end.
-/

namespace CityG

open EStateM (check Keeps Preserves)

structure RoomKept (hL : HashL) (size : Nat → Prop) (room : PersistedKbroadRoomState) : Prop where
  sized : size room.nMax
  hashed : room.barrierInitialized = true →
    computeBarrierTreeHash hL room.nMax room.barrierPkEntries = .ok room.kemTreeHashAfter

def PersistedKbroadRoomState.treeFields (room : PersistedKbroadRoomState) :
    Bool × Bytes32 × Nat × PkEntries × Option BarrierHashCache :=
  (room.barrierInitialized, room.kemTreeHashAfter, max room.nMax 1, room.barrierPkEntries, none)

section Rooms
variable {hL : HashL} {size : Nat → Prop} {barrier : BarrierGroupState} {state state' : GroupState}
  {room : PersistedKbroadRoomState} {hex : HexCodec} {dec : WireDecoder} {gid : Bytes}

theorem KeepsCore.keepsFields {α : Type} {x : EStateM CityGError GroupState α} (h : KeepsCore x)
    (fields : Bool × Bytes32 × Nat × PkEntries × Option BarrierHashCache) :
    Preserves (fun state => state.treeFields = fields) x :=
  fun s hs => (GroupState.treeFields_of_withoutHistory (h s)).trans hs

theorem KeepsCore.keepsTree {α : Type} {x : EStateM CityGError GroupState α} (h : KeepsCore x) :
    Preserves (TreeKept hL size barrier) x :=
  fun s hs => hs.congr rfl (GroupState.treeFields_of_withoutHistory (h s))

theorem TreeKept.roomKept (h : TreeKept hL size barrier state) (kbroadPublic : Bytes)
    (generation : Nat) (rotation : Bool) (chains : List PersistedDeviceChainState) :
    RoomKept hL size
      (persistedKbroadRoomState hex (some state) kbroadPublic generation rotation chains) := by
  have hpruned := GroupState.treeFields_of_withoutHistory (KeepsCore.prune state)
  have hkept := h.congr rfl hpruned
  exact ⟨hkept.sized, hkept.stored.hashed⟩

theorem RoomKept.treeKept (h : RoomKept hL size room) (hpos : max room.nMax 1 = room.nMax)
    (hs : state.treeFields = room.treeFields) : TreeKept hL size state.barrierState state := by
  simp only [GroupState.treeFields, PersistedKbroadRoomState.treeFields, Prod.mk.injEq] at hs
  obtain ⟨hi, hk, hn, he, hc⟩ := hs
  rw [hpos] at hn
  have hcontext : max state.barrierState.nMax 1 = state.treeNMax := max_eq_left (le_max_right _ _)
  refine ⟨⟨fun hset => ?_, fun _ cache hcache => ?_, fun _ => hc⟩, hn ▸ h.sized,
    hcontext ▸ hn ▸ h.sized, fun _ => hc, fun hset => ⟨hset, rfl, hcontext.symm⟩⟩
  · rw [hn, he, hk]
    exact h.hashed (hi ▸ hset)
  · rw [hc] at hcache
    cases hcache

theorem TreeKept.of_uninitialized (h : TreeKept hL size state.barrierState state)
    (hnone : state.barrierHashCache = none) (hsized : size (max barrier.nMax 1))
    (hb : barrier.barrierInitialized = false) : TreeKept hL size barrier state := by
  refine ⟨h.stored, h.sized, hsized, fun _ => hnone, fun hset => ?_⟩
  rw [hb] at hset
  cases hset

theorem TreeKept.dropCache (h : TreeKept hL size barrier state)
    (hs : state'.treeFields = (state.barrierInitialized, state.kemTreeHashAfter, state.treeNMax,
      state.barrierPkEntries, none)) : TreeKept hL size barrier state' := by
  simp only [GroupState.treeFields, Prod.mk.injEq] at hs
  obtain ⟨hi, hk, hn, he, hc⟩ := hs
  refine ⟨⟨fun hset => ?_, fun _ cache hcache => ?_, fun _ => hc⟩, hn ▸ h.sized, h.contextSized,
    fun _ => hc, fun hset => ?_⟩
  · rw [hn, he, hk]
    exact h.stored.hashed (hi ▸ hset)
  · rw [hc] at hcache
    cases hcache
  · obtain ⟨hi', hk', hn'⟩ := h.mirrored hset
    exact ⟨hi.trans hi', hk.trans hk', hn.trans hn'⟩

theorem applyPersistedRoomState_treeFields (hvalid : validateBarrierNMax room.nMax = .ok room.nMax)
    (hnone : state.barrierHashCache = none) :
    ((applyPersistedRoomState hex hL dec gid room).final state).treeFields = room.treeFields := by
  rw [applyPersistedRoomState, EStateM.final_modify_bind]
  have hread : ∀ {α : Type} {f : Nat → EStateM CityGError GroupState α} {s : GroupState},
      (EStateM.ofExcept (validateBarrierNMax room.nMax) >>= f).final s = (f room.nMax).final s :=
    EStateM.final_check_bind (f := fun _ => validateBarrierNMax room.nMax) hvalid
  rw [hread, EStateM.final_modify_bind]
  refine (show Preserves (fun state : GroupState => state.treeFields = room.treeFields) _ from ?_)
    _ ?_
  · refine .bind (KeepsCore.rebuildIndex.keepsFields _) fun _ => ?_
    refine .bind (.modify fun _ hs => hs) fun _ => ?_
    refine .bind ((KeepsCore.restoreSnapshots _).keepsFields _) fun _ => ?_
    refine .bind (KeepsCore.restoreCurrent.keepsFields _) fun _ => ?_
    refine .bind (KeepsCore.prune.keepsFields _) fun _ => .modify fun s hs => ?_
    simp only [GroupState.treeFields, PersistedKbroadRoomState.treeFields, Prod.mk.injEq] at hs
    exact Prod.ext hs.1 (Prod.ext hs.2.1 (Prod.ext hs.2.2.1 (Prod.ext hs.2.2.2.1 rfl)))
  · exact Prod.ext rfl (Prod.ext rfl (Prod.ext rfl (Prod.ext rfl hnone)))

theorem overlayTreeHistory_keepsCore (prefer : Bool) :
    KeepsCore (overlayTreeHistory hex hL gid room prefer) := by
  refine EStateM.Keeps.bind (.check _) fun _ => ?_
  split
  · refine .bind (.modify fun _ => rfl) fun _ => .bind KeepsCore.rebuildIndex fun _ => ?_
    exact .bind (.modify fun _ => rfl) fun _ => KeepsCore.restoreSnapshots _
  · exact .pure _

theorem overlayPersistedRoomState_kept (h : TreeKept hL size barrier state)
    (hprefer : state.prefersPersisted dec room room.nMax = false) :
    TreeKept hL size barrier ((overlayPersistedRoomState hex hL dec gid room).final state) := by
  rw [overlayPersistedRoomState, EStateM.final_modify_bind]
  cases hvalid : validateBarrierNMax room.nMax with
  | error e =>
    rw [EStateM.final_check_bind_error (f := fun _ => .error e) rfl]
    exact h.congr rfl rfl
  | ok nMax =>
    rw [EStateM.final_check_bind (f := fun _ => .ok nMax) rfl,
      (validateBarrierNMax_eq_ok hvalid).1, EStateM.final_read_bind]
    have hfalse : (state.overlayAdmins room).prefersPersisted dec room room.nMax = false := hprefer
    rw [hfalse]
    refine (show Preserves (TreeKept hL size barrier) _ from ?_) (state.overlayAdmins room)
      (h.congr rfl rfl)
    refine .bind (.modify fun s hs => hs) fun _ => ?_
    refine .bind (.modify fun s hs => hs.congr rfl rfl) fun _ => ?_
    refine (Preserves.check _).bind_ok fun s groupNMax t hs hread => ?_
    obtain ⟨hgroup, rfl⟩ := EStateM.check_eq_ok.mp hread
    rw [EStateM.final_modify_bind, (validateBarrierNMax_eq_ok hgroup).1]
    refine (show Preserves (TreeKept hL size barrier) _ from ?_) _ hs
    refine .bind (.modify fun s hs => hs.congr rfl rfl) fun _ => ?_
    refine .bind (overlayTreeHistory_keepsCore _).keepsTree fun _ => ?_
    refine .bind KeepsCore.restoreCurrent.keepsTree fun _ => ?_
    refine .bind KeepsCore.prune.keepsTree fun _ => ?_
    exact .bind (.modify fun s hs => hs.dropCache rfl) fun _ => .pure _

theorem overlayPersistedRoomState_prefer {prefer : Bool}
    (hok : overlayPersistedRoomState hex hL dec gid room state = .ok prefer state') :
    prefer = state.prefersPersisted dec room room.nMax := by
  simp only [overlayPersistedRoomState, EStateM.modify_bind_eq_ok, EStateM.check_bind_eq_ok] at hok
  obtain ⟨nMax, hvalid, value, hvalue, groupNMax, -, hok⟩ := hok
  obtain ⟨rfl, -⟩ := validateBarrierNMax_eq_ok hvalid
  simp only [EStateM.bind_eq_ok, EStateM.modify_eq_ok, EStateM.pure_eq_ok] at hok
  obtain ⟨_, _, -, _, _, -, _, _, -, _, _, -, rfl, -⟩ := hok
  exact (Except.pure_eq_ok.mp hvalue).symm

theorem overlayPersistedRoomState_taken {prefer : Bool}
    (hprefer : state.prefersPersisted dec room room.nMax = true)
    (hok : overlayPersistedRoomState hex hL dec gid room state = .ok prefer state') :
    prefer = true ∧ max room.nMax 1 = room.nMax ∧ state'.treeFields = room.treeFields := by
  simp only [overlayPersistedRoomState, EStateM.modify_bind_eq_ok, EStateM.check_bind_eq_ok] at hok
  obtain ⟨nMax, hvalid, value, hvalue, groupNMax, hgroup, hok⟩ := hok
  obtain ⟨rfl, hpos⟩ := validateBarrierNMax_eq_ok hvalid
  obtain rfl : value = true := (Except.pure_eq_ok.mp hvalue).symm.trans hprefer
  simp only [EStateM.bind_eq_ok, EStateM.modify_eq_ok, EStateM.pure_eq_ok] at hok
  obtain ⟨_, t₁, h₁, _, t₂, h₂, _, t₃, h₃, _, t₄, h₄, h₅, rfl⟩ := hok
  refine ⟨h₅.symm, hpos, ?_⟩
  have hcore := ((KeepsCore.prune.treeFields h₃).trans (KeepsCore.restoreCurrent.treeFields h₂)).trans
    ((overlayTreeHistory_keepsCore _).treeFields h₁)
  obtain ⟨hsame, -⟩ := validateBarrierNMax_eq_ok hgroup
  simp only [GroupState.treeFields, Prod.mk.injEq] at hcore
  obtain ⟨hi, hk, hn, he, -⟩ := hcore
  rw [← h₄]
  refine Prod.ext hi (Prod.ext hk (Prod.ext ?_ (Prod.ext he rfl)))
  rw [hsame] at hn
  exact hn

end Rooms

section Contexts
variable {hL : HashL} {size : Bytes → Nat → Prop} {ctx ctx' : AcceptanceContext}
  {roster : GroupRoster} {gid : Bytes}

theorem gateView_of_barrierGroups (h : ctx'.barrierGroups = ctx.barrierGroups) (gid : Bytes) :
    gateView gid ctx' = gateView gid ctx := by
  rw [gateView, gateView, AcceptanceContext.barrierGroupStateEntry, AcceptanceContext.barrierGroupState,
    h, AcceptanceContext.barrierGroupStateEntry, AcceptanceContext.barrierGroupState]

theorem TreesKept.context (h : TreesKept hL size ctx roster)
    (hctx : ctx'.barrierGroups = ctx.barrierGroups) : TreesKept hL size ctx' roster :=
  fun gid => gateView_of_barrierGroups hctx gid ▸ h gid

theorem TreesKept.setGroup (h : TreesKept hL size ctx roster) {state : GroupState}
    {f : BarrierGroupState → BarrierGroupState}
    (hgid : TreeKept hL (size gid) (f (ctx.barrierGroupStateEntry gid)) state) :
    TreesKept hL size (ctx.modifyBarrierGroup gid f) (roster.insert gid state) := by
  intro gid'
  rw [gateView, AcceptanceContext.barrierGroupStateEntry_modify, GroupRoster.group_insert]
  split
  · next heq =>
      subst heq
      exact hgid.congr rfl rfl
  · exact h gid'

theorem TreesKept.overlayLimits (h : TreesKept hL size ctx roster) (room : PersistedKbroadRoomState)
    {nMax : Nat} (hvalid : validateBarrierNMax (ctx.barrierGroupStateEntry gid).nMax = .ok nMax) :
    TreesKept hL size (ctx.modifyBarrierGroup gid (·.overlayLimits room nMax)) roster := by
  intro gid'
  rw [gateView, AcceptanceContext.barrierGroupStateEntry_modify,
    (validateBarrierNMax_eq_ok hvalid).1]
  split
  · next heq =>
      subst heq
      exact (h gid').congr rfl rfl
  · exact h gid'

theorem AcceptanceContext.overlayDeviceChains_barrierGroups (gid : Bytes)
    (states : List PersistedDeviceChainState) (ctx : AcceptanceContext) :
    (ctx.overlayDeviceChains gid states).barrierGroups = ctx.barrierGroups := by
  induction states generalizing ctx with
  | nil => rfl
  | cons state rest ih =>
    refine (ih _).trans ?_
    unfold overlayDeviceChain
    split <;> rfl

theorem AcceptanceContext.insertDeviceChainStates_barrierGroups (gid : Bytes)
    (states : List PersistedDeviceChainState) (ctx : AcceptanceContext) :
    (ctx.insertDeviceChainStates gid states).barrierGroups = ctx.barrierGroups := by
  induction states generalizing ctx with
  | nil => rfl
  | cons state rest ih => exact (ih _).trans rfl

end Contexts

namespace CityGServer

abbrev KeepsTrees (hL : HashL) (size : Bytes → Nat → Prop) (server : CityGServer) : Prop :=
  TreesKept hL size server.ctx server.roster

section Overlay
variable (hex : HexCodec) (env : ServerEnv)

def takeoversEnd : List (Bytes × PersistedKbroadRoomState) → CityGServer → Bool
  | [], _ => true
  | e :: rest, server =>
    ((server.roster.group e.1).prefersPersisted env.wire e.2 e.2.nMax = true →
      (overlayPersistedRoomState hex env.hL env.wire e.1 e.2).Succeeds (server.roster.group e.1)) &&
    match overlayPersistedRoom hex env e.1 e.2 server with
    | .ok _ server => takeoversEnd rest server
    | .error _ _ => true

variable {hex env} {size : Bytes → Nat → Prop} {server : CityGServer} {gid : Bytes}
  {room : PersistedKbroadRoomState}

theorem overlayPersistedRoom_keeps (h : server.KeepsTrees env.hL size)
    (hroom : RoomKept env.hL (size gid) room)
    (hends : (server.roster.group gid).prefersPersisted env.wire room room.nMax = true →
      (overlayPersistedRoomState hex env.hL env.wire gid room).Succeeds (server.roster.group gid)) :
    ((overlayPersistedRoom hex env gid room).final server).KeepsTrees env.hL size := by
  cases hrun : overlayPersistedRoomState hex env.hL env.wire gid room (server.roster.group gid) with
  | error e state =>
    -- Only a takeover writes the tree, and it would not have failed.
    have hprefer : (server.roster.group gid).prefersPersisted env.wire room room.nMax = false := by
      by_contra hne
      obtain ⟨_, _, hok⟩ := hends (Bool.not_eq_false _ ▸ hne)
      rw [hok] at hrun
      cases hrun
    have hgroup : onGroup gid (overlayPersistedRoomState hex env.hL env.wire gid room) server =
        .error e (server.putGroup gid state) := EStateM.zoom_eq_error.mpr ⟨e, state, hrun, rfl, rfl⟩
    rw [overlayPersistedRoom, EStateM.final_bind_of_error hgroup]
    have hkept := EStateM.final_of_error hrun ▸ overlayPersistedRoomState_kept (h gid) hprefer
    exact h.putGroup hkept
  | ok prefer state =>
    have hgroup : onGroup gid (overlayPersistedRoomState hex env.hL env.wire gid room) server =
        .ok prefer (server.putGroup gid state) := EStateM.zoom_eq_ok.mpr ⟨state, hrun, rfl⟩
    have hkept : TreeKept env.hL (size gid)
        ((server.ctx.barrierGroupStateEntry gid).overlayBarrier prefer state) state := by
      cases hprefer : (server.roster.group gid).prefersPersisted env.wire room room.nMax with
      | true =>
        obtain ⟨rfl, hpos, hfields⟩ := overlayPersistedRoomState_taken hprefer hrun
        exact (hroom.treeKept hpos hfields).congr rfl rfl
      | false =>
        obtain rfl : prefer = false :=
          (overlayPersistedRoomState_prefer hrun).trans hprefer
        exact EStateM.final_of_ok hrun ▸
          overlayPersistedRoomState_kept ((h gid).congr rfl rfl) hprefer
    have hself : (server.putGroup gid state).roster.group gid = state :=
      (GroupRoster.group_insert _ _ _ _).trans (if_pos rfl)
    rw [overlayPersistedRoom, EStateM.final_bind_of_ok hgroup, EStateM.final_modify_bind, hself]
    refine (show Preserves (KeepsTrees env.hL size) _ from ?_) _ (h.setGroup hkept)
    refine (Preserves.check _).bind_ok fun s nMax t hs hread => ?_
    obtain ⟨hvalid, rfl⟩ := EStateM.check_eq_ok.mp hread
    rw [EStateM.final_modify_bind]
    have hlimits := TreesKept.overlayLimits hs room hvalid
    exact hlimits.context (AcceptanceContext.overlayDeviceChains_barrierGroups _ _ _)

theorem overlayPersistedRooms_keeps {rooms : List (Bytes × PersistedKbroadRoomState)}
    (h : server.KeepsTrees env.hL size) (hrooms : ∀ e ∈ rooms, RoomKept env.hL (size e.1) e.2)
    (hends : takeoversEnd hex env rooms server = true) :
    ((overlayPersistedRooms hex env rooms).final server).KeepsTrees env.hL size := by
  induction rooms generalizing server with
  | nil => exact h
  | cons e rest ih =>
    rw [takeoversEnd, Bool.and_eq_true, decide_eq_true_eq] at hends
    obtain ⟨hhere, hrest⟩ := hends
    have hkept := overlayPersistedRoom_keeps h (hrooms e List.mem_cons_self) hhere
    refine EStateM.final_bind hkept fun _ server' hrun hkept' => ?_
    rw [hrun] at hrest
    exact ih hkept' (fun e he => hrooms e (List.mem_cons_of_mem _ he)) hrest

theorem overlayPersistedRuntimeMetadataAfterReplay_keeps {state : PersistedKbroadState}
    (h : server.KeepsTrees env.hL size)
    (hrooms : ∀ e ∈ state.entries, RoomKept env.hL (size e.1) e.2)
    (hends : takeoversEnd hex env state.entries server = true) :
    ((overlayPersistedRuntimeMetadataAfterReplay hex env state).final server).KeepsTrees
      env.hL size := by
  exact EStateM.final_bind (overlayPersistedRooms_keeps h hrooms hends)
    fun _ _ _ hkept => hkept.context rfl

end Overlay

theorem val_of_toBytes32 {b : Bytes} {b32 : Bytes32} (h : toBytes32 b = some b32) : b32.val = b := by
  unfold toBytes32 at h
  split at h
  · cases h
    rfl
  · cases h

section Frame
variable {env : ServerEnv} {hex : HexCodec} {gid other : Bytes}

def groupView (gid : Bytes) (server : CityGServer) : BarrierGroupState × GroupState :=
  (gateView gid server.ctx, server.roster.group gid)

theorem groupView_putGroup (hne : other ≠ gid) (state : GroupState) (server : CityGServer) :
    groupView other (server.putGroup gid state) = groupView other server :=
  Prod.ext rfl ((GroupRoster.group_insert _ _ _ _).trans (if_neg hne))

theorem groupView_mirrorGroup (hne : other ≠ gid) (server : CityGServer) :
    groupView other (server.mirrorGroup gid) = groupView other server :=
  Prod.ext ((gateView_insertBarrierGroupState _ _ _ _).trans (if_neg hne)) rfl

theorem initializeGroupBarrierBootstrapState_other {gid : Bytes32} (hne : other ≠ gid.val) :
    Keeps (groupView other) (initializeGroupBarrierBootstrapState env gid) :=
  .bind (.check _) fun _ => .bind (.zoom (groupView_putGroup hne)) fun _ =>
    .modify (groupView_mirrorGroup hne)

theorem applyPersistedRoom_other (hne : other ≠ gid) (room : PersistedKbroadRoomState) :
    Keeps (groupView other) (applyPersistedRoom hex env gid room) := by
  refine .bind (.zoom (groupView_putGroup hne)) fun _ => ?_
  refine .bind (.modify (groupView_mirrorGroup hne)) fun _ => .modify fun server => ?_
  exact Prod.ext (gateView_of_barrierGroups
    (AcceptanceContext.insertDeviceChainStates_barrierGroups _ _ _) other) rfl

theorem initializeGroups_other {gids : List Bytes} (hgid : other ∉ gids) :
    Keeps (groupView other) (initializeGroups env gids) := by
  induction gids with
  | nil => exact .pure _
  | cons gid rest ih =>
    rw [List.mem_cons, not_or] at hgid
    obtain ⟨hne, hrest⟩ := hgid
    rw [initializeGroups]
    split
    · next gid32 hgid32 =>
        have hne32 : other ≠ gid32.val := val_of_toBytes32 hgid32 ▸ hne
        exact .bind (initializeGroupBarrierBootstrapState_other hne32) fun _ => ih hrest
    · exact ih hrest

end Frame

section Apply
variable {hex : HexCodec} {env : ServerEnv} {size : Bytes → Nat → Prop} {server : CityGServer}
  {gid : Bytes} {room : PersistedKbroadRoomState}

def Untouched (gid : Bytes) (server : CityGServer) : Prop :=
  (groupView gid server).1.barrierInitialized = false ∧
    (groupView gid server).2.barrierHashCache = none

theorem applyPersistedRoom_keeps (h : server.KeepsTrees env.hL size)
    (hroom : RoomKept env.hL (size gid) room)
    (hvalid : validateBarrierNMax room.nMax = .ok room.nMax) (hgid : server.Untouched gid) :
    ((applyPersistedRoom hex env gid room).final server).KeepsTrees env.hL size := by
  obtain ⟨hcontext, hnone⟩ := hgid
  have hfields : ((applyPersistedRoomState hex env.hL env.wire gid room).final
      (server.roster.group gid)).treeFields = room.treeFields :=
    applyPersistedRoomState_treeFields hvalid hnone
  have hkept := hroom.treeKept (validateBarrierNMax_eq_ok hvalid).2 hfields
  simp only [GroupState.treeFields, PersistedKbroadRoomState.treeFields, Prod.mk.injEq] at hfields
  refine EStateM.final_bind ?_ fun _ server' _ hkept' => ?_
  · rw [onGroup, EStateM.final_zoom]
    exact h.putGroup (hkept.of_uninitialized hfields.2.2.2.2 (h gid).contextSized hcontext)
  · rw [EStateM.final_modify_bind]
    have hmirrored := TreesKept.mirrorGroup hkept' gid
    exact hmirrored.context (AcceptanceContext.insertDeviceChainStates_barrierGroups _ _ _)

theorem applyPersistedRooms_keeps {rooms : List (Bytes × PersistedKbroadRoomState)}
    (h : server.KeepsTrees env.hL size) (hrooms : ∀ e ∈ rooms, RoomKept env.hL (size e.1) e.2)
    (hvalid : ∀ e ∈ rooms, validateBarrierNMax e.2.nMax = .ok e.2.nMax)
    (hkeys : (rooms.map Prod.fst).Nodup) (huntouched : ∀ e ∈ rooms, server.Untouched e.1) :
    ((applyPersistedRooms hex env rooms).final server).KeepsTrees env.hL size := by
  induction rooms generalizing server with
  | nil => exact h
  | cons e rest ih =>
    rw [List.map_cons, List.nodup_cons] at hkeys
    rw [List.forall_mem_cons] at hrooms hvalid huntouched
    refine EStateM.final_bind (applyPersistedRoom_keeps h hrooms.1 hvalid.1 huntouched.1)
      fun _ server' hrun hkept => ?_
    refine ih hkept hrooms.2 hvalid.2 hkeys.2 fun e' he' => ?_
    have hne : e'.1 ≠ e.1 := fun heq => hkeys.1 (heq ▸ List.mem_map_of_mem he')
    have hsame := (applyPersistedRoom_other hne e.2).of_ok hrun
    rw [Untouched, hsame]
    exact huntouched.2 e' he'

end Apply

def RoomSize (config : ServerConfig) (gid : Bytes) (n : Nat) : Prop :=
  validateBarrierNMax n = .ok n ∧
    (gid ∈ config.context.kbroadRegistry.getD .empty → n = DEFAULT_BARRIER_N_MAX)

theorem roomSize_default (config : ServerConfig) (gid : Bytes) :
    RoomSize config gid DEFAULT_BARRIER_N_MAX :=
  ⟨by decide +kernel, fun _ => rfl⟩

section Restart
variable {env : ServerEnv} {hex : HexCodec} {config : ServerConfig} {server : CityGServer}

theorem gateView_config (config : ServerConfig) (gid : Bytes) :
    gateView gid config.context = ({} : BarrierGroupState).gateFields := by
  rw [gateView, AcceptanceContext.barrierGroupStateEntry, AcceptanceContext.barrierGroupState,
    config.noGroups]
  rfl

theorem keepsTrees_of_blank (hctx : server.ctx = config.context) (hroster : server.roster = .empty) :
    server.KeepsTrees env.hL (RoomSize config) := by
  intro gid
  rw [hctx, hroster]
  have hsize := roomSize_default config gid
  rw [gateView_config]
  exact ⟨⟨nofun, nofun, fun _ => rfl⟩, hsize, hsize,
    fun _ => rfl, nofun⟩

variable {size : Bytes → Nat → Prop}

theorem initializeGroupBarrierBootstrapState_keeps (gid : Bytes32) :
    Preserves (KeepsTrees env.hL size) (initializeGroupBarrierBootstrapState env gid) :=
  fun server h => TreesKept.manages
    (initializeGroupBarrierBootstrapState_manages gid server (.adjusts (.refl server))) h

theorem initializeGroups_keeps (gids : List Bytes) :
    Preserves (KeepsTrees env.hL size) (initializeGroups env gids) := by
  induction gids with
  | nil => exact .pure _
  | cons gid rest ih =>
    rw [initializeGroups]
    split
    · exact .bind (initializeGroupBarrierBootstrapState_keeps _) fun _ => ih
    · exact ih

theorem initializeRegisteredGroupsBarrierState_keeps :
    Preserves (KeepsTrees env.hL size) (initializeRegisteredGroupsBarrierState env) :=
  .bind (.check _) fun _ => initializeGroups_keeps _

theorem resetState_keeps : (server.resetState env config).KeepsTrees env.hL (RoomSize config) :=
  initializeRegisteredGroupsBarrierState_keeps _ (keepsTrees_of_blank rfl rfl)

theorem resetState_registered {gid : Bytes}
    (h : ((server.resetState env config).roster.group gid).barrierInitialized = true) :
    gid ∈ config.context.kbroadRegistry.getD .empty := by
  by_contra hgid
  have hother : groupView gid (server.resetState env config) = _ :=
    initializeGroups_other (mt OrdMap.mem_keys.mp hgid) _
  have hgroup : (server.resetState env config).roster.group gid = _ := congrArg Prod.snd hother
  rw [hgroup] at h
  cases h

theorem seeded_kept {hL : HashL} {size : Nat → Prop} {barrier : BarrierGroupState}
    {state : GroupState} {room : PersistedKbroadRoomState} (h : TreeKept hL size barrier state)
    (hsize : size room.nMax) (hpos : max room.nMax 1 = room.nMax)
    (hsame : state.barrierInitialized = true → room.nMax = state.treeNMax) :
    TreeKept hL size barrier (state.seeded room) := by
  have hseeded : (state.seeded room).treeNMax = room.nMax := by
    rw [show (state.seeded room).treeNMax = max (max room.nMax 1) 1 from rfl, hpos, hpos]
  cases hinit : state.barrierInitialized with
  | true =>
    exact h.congr rfl (Prod.ext rfl (Prod.ext rfl (Prod.ext (hseeded.trans (hsame hinit)) rfl)))
  | false =>
    have hnone := h.stored.uncached hinit
    have hcontext := h.context_uninitialized hinit
    refine ⟨⟨fun hset => ?_, fun _ cache hcache => ?_, fun _ => hnone⟩, hseeded ▸ hsize,
      h.contextSized, fun _ => hnone, fun hset => ?_⟩
    · exact Bool.noConfusion (hinit.symm.trans hset)
    · exact nomatch hnone.symm.trans hcache
    · exact Bool.noConfusion (hcontext.symm.trans hset)

theorem seedRooms_keeps {rooms : List (Bytes × PersistedKbroadRoomState)}
    (h : server.KeepsTrees env.hL (RoomSize config))
    (hrooms : ∀ e ∈ rooms, RoomKept env.hL (RoomSize config e.1) e.2)
    (hkeys : (rooms.map Prod.fst).Nodup)
    (hinit : ∀ e ∈ rooms, (server.roster.group e.1).barrierInitialized = true →
      e.1 ∈ config.context.kbroadRegistry.getD .empty) :
    ((seedRooms env rooms).final server).KeepsTrees env.hL (RoomSize config) := by
  induction rooms generalizing server with
  | nil => exact h
  | cons e rest ih =>
    rw [List.map_cons, List.nodup_cons] at hkeys
    rw [List.forall_mem_cons] at hrooms hinit
    rw [seedRooms]
    split
    · next gid hgid =>
        have hseeded : (server.putGroup e.1 ((server.roster.group e.1).seeded e.2)).KeepsTrees env.hL
            (RoomSize config) := by
          refine h.putGroup (seeded_kept (h e.1) hrooms.1.sized
            (validateBarrierNMax_eq_ok hrooms.1.sized.1).2 fun hset => ?_)
          have hpreset := hinit.1 hset
          exact (hrooms.1.sized.2 hpreset).trans ((h e.1).sized.2 hpreset).symm
        rw [EStateM.final_bind_of_ok (show onGroup e.1 (modify (·.seeded e.2)) server =
          .ok () (server.putGroup e.1 ((server.roster.group e.1).seeded e.2)) from rfl)]
        refine EStateM.final_bind (initializeGroupBarrierBootstrapState_keeps gid _ hseeded)
          fun _ server' hrun hkept => ih hkept hrooms.2 hkeys.2 fun e' he' hset => ?_
        have hne : e'.1 ≠ e.1 := fun heq => hkeys.1 (heq ▸ List.mem_map_of_mem he')
        have hother : groupView e'.1 server' = groupView e'.1 server :=
          ((initializeGroupBarrierBootstrapState_other (val_of_toBytes32 hgid ▸ hne)).of_ok
            hrun).trans (groupView_putGroup hne _ _)
        have hgroup : server'.roster.group e'.1 = server.roster.group e'.1 :=
          congrArg Prod.snd hother
        exact hinit.2 e' he' (hgroup ▸ hset)
    · exact ih h hrooms.2 hkeys.2 hinit.2

theorem replayBundles_keeps (journal : List ClientEpochBundle) :
    Preserves (KeepsTrees env.hL size) (replayBundles env journal) := by
  induction journal with
  | nil => exact .pure _
  | cons bundle rest ih =>
    refine (Preserves.check _).bind_ok fun server staged server' h hread => ?_
    obtain ⟨hstaged, rfl⟩ := EStateM.check_eq_ok.mp hread
    rw [EStateM.final_modify_bind]
    have hwitness : TreesKept env.hL size
        (server.ctx.setPendingCapssWitness (some bundle.capssWitness)) server.roster := h
    exact ih _ (hwitness.apply hstaged)

def SavedKept (hL : HashL) (config : ServerConfig) (saved : Option PersistedKbroadState) : Prop :=
  ∀ state ∈ saved, ∀ e ∈ state.entries, RoomKept hL (RoomSize config e.1) e.2

theorem recoverFromState_keeps {saved : Option PersistedKbroadState}
    (hsaved : SavedKept env.hL config saved) (journal : List ClientEpochBundle)
    (h : server.KeepsTrees env.hL (RoomSize config)) :
    ((recoverFromState env config journal saved).final server).KeepsTrees env.hL
      (RoomSize config) := by
  unfold recoverFromState
  split
  · exact h
  · rw [EStateM.final_modify_bind]
    cases saved with
    | none => exact replayBundles_keeps journal _ resetState_keeps
    | some state =>
      have hkeys : (state.entries.map Prod.fst).Nodup := state.keys_nodup
      refine EStateM.final_bind (EStateM.final_bind ?_ ?_) fun _ _ _ hseeded =>
        replayBundles_keeps journal _ hseeded
      · exact seedRooms_keeps resetState_keeps (hsaved state rfl) hkeys
          fun _ _ hset => resetState_registered hset
      · exact fun _ _ _ hseeded => hseeded.context rfl

/-- No takeover of a saved barrier state is abandoned half-way. -/
def TakeoversComplete (env : ServerEnv) (hex : HexCodec) (config : ServerConfig)
    (saved : Option PersistedKbroadState) (server : CityGServer) : Prop :=
  ∀ state ∈ saved, server.journal ≠ [] → takeoversEnd hex env state.entries
    ((recoverFromState env config server.journal (some state)).final (server.blank config)) = true

instance decidableTakeoversComplete {saved : Option PersistedKbroadState} :
    Decidable (TakeoversComplete env hex config saved server) :=
  inferInstanceAs (Decidable (∀ state ∈ saved, _ → _))

theorem restart_keeps {saved : Option PersistedKbroadState}
    (hsaved : SavedKept env.hL config saved)
    (hends : TakeoversComplete env hex config saved server) :
    (restart env hex config saved server).KeepsTrees env.hL (RoomSize config) := by
  have hblank : (server.blank config).KeepsTrees env.hL (RoomSize config) :=
    keepsTrees_of_blank rfl rfl
  rw [restart]
  refine initializeRegisteredGroupsBarrierState_keeps _ ?_
  cases hfilter : saved.filter (fun state => state.isEmpty = false) with
  | none =>
    have hnone : SavedKept env.hL config none := fun _ hstate => by cases hstate
    exact recoverFromState_keeps hnone server.journal hblank
  | some state =>
    have hmem : state ∈ saved := (Option.filter_eq_some_iff.mp hfilter).1
    have hrooms := hsaved state hmem
    have hstate : SavedKept env.hL config (some state) :=
      fun _ hstate => Option.mem_some_iff.mp hstate ▸ hrooms
    have hreplayed := recoverFromState_keeps hstate server.journal hblank
    rw [restoreSaved]
    split
    · next hjournal =>
        -- Without journal nothing was replayed.
        rw [hjournal] at hreplayed ⊢
        have hkeys : (state.entries.map Prod.fst).Nodup := state.keys_nodup
        have huntouched : ∀ e ∈ state.entries, (server.blank config).Untouched e.1 :=
          fun e _ => ⟨congrArg (·.barrierInitialized) (gateView_config config e.1), rfl⟩
        exact EStateM.final_bind (applyPersistedRooms_keeps hreplayed hrooms
          (fun e he => (hrooms e he).sized.1) hkeys huntouched) fun _ _ _ h => h.context rfl
    · next hjournal =>
        exact overlayPersistedRuntimeMetadataAfterReplay_keeps hreplayed hrooms
          (hends state hmem hjournal)

theorem snapshotKbroadState_kept (h : server.KeepsTrees env.hL (RoomSize config)) :
    SavedKept env.hL config (some (server.snapshotKbroadState hex)) := by
  intro state hstate e he
  obtain rfl := Option.mem_some_iff.mp hstate
  -- Each room is written from the group of its key, if there is one.
  have hget := OrdMap.mem_of_get?_ofList (OrdMap.mem_entries_iff.mp he)
  obtain ⟨⟨gid, kbroadPublic⟩, -, heq⟩ := List.mem_map.mp hget
  rw [← show (gid, persistedKbroadRoomState hex (server.roster.get? gid) kbroadPublic
    (server.roster.group gid).kbroadGeneration (server.roster.kbroadRotationRequired gid)
    (server.ctx.deviceChainStates gid)) = e from heq]
  cases hgroup : server.roster.get? gid with
  | none => exact ⟨roomSize_default config gid, nofun⟩
  | some group =>
    have hsame : server.roster.group gid = group := by rw [GroupRoster.group, hgroup, Option.getD_some]
    exact (hsame ▸ h gid).roomKept _ _ _ _

end Restart

end CityGServer

structure RecoveryRun where
  server : CityGServer
  saved : Option PersistedKbroadState

inductive RecoveryOp where
  | request (request : ServerRequest)
  | acceptEpoch (bundle : ClientEpochBundle)
  | save
  | restart

namespace RecoveryRun

open Bytes32 (fill)

section
variable (env : ServerEnv) (hex : HexCodec) (config : ServerConfig)

def step (run : RecoveryRun) : RecoveryOp → Option RecoveryRun
  | .request request => some { run with server := CityGServer.serve env request run.server }
  | .acceptEpoch bundle =>
    some { run with server := (CityGServer.acceptEpoch env bundle).final run.server }
  | .save => some { run with saved := some (run.server.snapshotKbroadState hex) }
  | .restart => some { run with server := run.server.restart env hex config run.saved }

structure Unstarted (run : RecoveryRun) : Prop where
  unsaved : run.saved = none
  group : ∀ gid, (run.server.roster.group gid).barrierInitialized = false ∧
    (run.server.roster.group gid).barrierHashCache = none ∧
    CityGServer.RoomSize config gid (run.server.roster.group gid).treeNMax
  context : ∀ gid, (run.server.ctx.barrierGroupStateEntry gid).barrierInitialized = false ∧
    CityGServer.RoomSize config gid (max (run.server.ctx.barrierGroupStateEntry gid).nMax 1)

/-- A restart abandons no takeover of a saved barrier state half-way. -/
def TakeoversComplete (run : RecoveryRun) : RecoveryOp → Prop
  | .restart => CityGServer.TakeoversComplete env hex config run.saved run.server
  | _ => True

instance (run : RecoveryRun) : (op : RecoveryOp) → Decidable (TakeoversComplete env hex config run op)
  | .restart => CityGServer.decidableTakeoversComplete
  | .request _ | .acceptEpoch _ | .save => .isTrue trivial

variable {env hex config}

structure Kept (env : ServerEnv) (config : ServerConfig) (run : RecoveryRun) : Prop where
  server : run.server.KeepsTrees env.hL (CityGServer.RoomSize config)
  saved : CityGServer.SavedKept env.hL config run.saved

theorem Unstarted.kept {run : RecoveryRun} (h : Unstarted config run) : Kept env config run := by
  refine ⟨fun gid => ?_, fun _ hstate => nomatch h.unsaved.symm.trans hstate⟩
  obtain ⟨hinit, hnone, hsize⟩ := h.group gid
  obtain ⟨hcontext, hcontextSize⟩ := h.context gid
  refine ⟨⟨fun hset => ?_, fun _ cache hcache => ?_, fun _ => hnone⟩, hsize, hcontextSize,
    fun _ => hnone, fun hset => ?_⟩
  · exact Bool.noConfusion (hinit.symm.trans hset)
  · exact nomatch hnone.symm.trans hcache
  · exact Bool.noConfusion (hcontext.symm.trans hset)

theorem kept_of_reach {run : RecoveryRun}
    (h : Run.Reach (Unstarted config) (step env hex config) (TakeoversComplete env hex config) run) :
    Kept env config run := by
  refine h.invariant (fun _ hstart => hstart.kept) ?_
  rintro run op run' ⟨hkept, hsaved⟩ hguard hstep
  cases op with
  | request request =>
    cases hstep
    exact ⟨TreesKept.manages (CityGServer.serve_manages env request run.server) hkept, hsaved⟩
  | acceptEpoch bundle =>
    cases hstep
    refine ⟨?_, hsaved⟩
    cases hrun : CityGServer.acceptEpoch env bundle run.server with
    | ok outcome server =>
      rw [EStateM.final_of_ok hrun]
      exact TreesKept.accept hkept hrun
    | error e server =>
      rw [EStateM.final_of_error hrun, acceptEpoch_error hrun]
      exact hkept
  | save =>
    cases hstep
    exact ⟨hkept, CityGServer.snapshotKbroadState_kept hkept⟩
  | restart =>
    cases hstep
    exact ⟨CityGServer.restart_keeps hsaved hguard, hsaved⟩

end

def firstUpdate : RoomEpoch where
  fsEc := 6
  device := 10
  version := 1
  parentRoot := deviceLeaf 10
  devPrev := firstJoin.devCommit
  update := [1, 0, 2, roomRootsByte (.zero, .zero), roomTreeByte [[], kemKey 20, []],
    roomTreeByte [kemKey 30, kemKey 20, []], 0, 0, 30]

def lateJoin : RoomEpoch where
  fsEc := 7
  device := 11
  version := 1
  parentRoot := deviceLeaf 10
  joinRoot := deviceLeaf 11

def lateExpulsion : RoomEpoch where
  fsEc := 8
  device := 11
  version := 2
  parentRoot := roomRoot [deviceLeaf 10, deviceLeaf 11]
  revoked := (deviceLeaf 10, deviceLeaf 10)
  devPrev := lateJoin.devCommit
  update := [2, 1, 2, roomRootsByte (deviceLeaf 10, deviceLeaf 10),
    roomTreeByte [[], [], kemKey 21], roomTreeByte [kemKey 31, [], kemKey 21], 1, 0, 31]
  srx := some (deviceLeaf 10)

def joinedRoom : List RecoveryOp :=
  [.request (.registerGroup roomGid (kemKey 1)),
    .request (.buildJoinTicket roomGid (some (deviceLeaf 10)) ⟨kemKey 9, fill 77⟩),
    .acceptEpoch (firstJoin.join 20),
    .request (.currentHistoryCommitment roomGid),
    .acceptEpoch (firstUpdate.merge firstJoin firstJoin 2 [34, 58, 20, 2]
      [(HDR_JOIN_FINALIZE_AUTH, .bytes (fill 77).val)])]

def expelledRoom : List RecoveryOp :=
  joinedRoom ++
    [.request (.buildJoinTicket roomGid (some (deviceLeaf 11)) ⟨kemKey 9, fill 78⟩),
      .acceptEpoch (lateJoin.join 21),
      .request (.currentHistoryCommitment roomGid),
      .acceptEpoch (lateExpulsion.merge firstJoin firstUpdate 0 [218, 122, 154, 4] [])]

def roomConfig : ServerConfig := ⟨{ jumpContext with barrierGroups := .empty }, rfl⟩

theorem unstarted_room : Unstarted roomConfig ⟨roomServer, none⟩ := by
  have hdefault := CityGServer.roomSize_default roomConfig
  refine ⟨rfl, fun gid => ?_, fun gid => ⟨rfl, hdefault gid⟩⟩
  rw [show roomServer.roster.group gid = _ from GroupRoster.group_insert _ _ _ _]
  split
  · exact ⟨rfl, rfl, by decide +kernel, nofun⟩
  · exact ⟨rfl, rfl, hdefault gid⟩

end RecoveryRun

end CityG
