import CityG.Server.Admins
import CityG.Server.Apply
import CityG.SlotLeases

/-!
# Steps of the server

Between two accepted epochs only tickets, keys, administrators and the stored
history of a group change. What they can change is said once, so that an
invariant of whole runs has few cases.
-/

namespace CityG

open EStateM (check Preserves)

namespace GroupState

/-- The edits that tickets, rotations, administrators and queries make. -/
inductive Adjusts : GroupState → GroupState → Prop
  | refl (state : GroupState) : Adjusts state state
  | trans {a b c : GroupState} : Adjusts a b → Adjusts b c → Adjusts a c
  /-- Stored trees and the commitment chain. -/
  | history {state state' : GroupState} (h : state'.withoutHistory = state.withoutHistory) :
      Adjusts state state'
  | kbroad (state : GroupState) (generation : Nat) (rotation : Bool) :
      Adjusts state { state with kbroadGeneration := generation, rotationRequired := rotation }
  | maxBytes (state : GroupState) : Adjusts state state.withMaxBarrierUpdateBytes
  /-- The free slots, with the generations once the allocator is used. -/
  | slots (state : GroupState) (free : OrdSet Nat) :
      Adjusts state { state with slotGenerations := state.initialGenerations, freeSlots := free }
  | nextIndex (state : GroupState) (index : Nat) : Adjusts state { state with nextIndex := index }
  | pending (state : GroupState) (record : JoinFinalizeAuthRecord) :
      Adjusts state (state.insertPending record)
  | joinHistory {state state' : GroupState} (h : pruneJoinHistory state = .ok state') :
      Adjusts state state'
  | admins (state : GroupState) (keys : OrdSet Bytes) (replayKeys : OrdSet Bytes32) :
      Adjusts state { state with roomAdminPopKeys := keys, roomAdminProofReplayKeys := replayKeys }

variable {state : GroupState} {α : Type} {x : EStateM CityGError GroupState α}

theorem Adjusts.of_keepsCore (h : KeepsCore x) : Preserves state.Adjusts x :=
  fun s hs => hs.trans (.history (h s))

theorem Adjusts.modify {f : GroupState → GroupState} (h : ∀ s, Adjusts s (f s)) :
    Preserves state.Adjusts (modify f : EStateM CityGError GroupState Unit) :=
  .modify fun s hs => hs.trans (h s)

theorem Adjusts.update {f : GroupState → Except CityGError GroupState}
    (h : ∀ s s', f s = .ok s' → Adjusts s s') :
    Preserves state.Adjusts (EStateM.update f) := by
  intro s hs
  unfold EStateM.final EStateM.update
  cases hf : f s with
  | ok s' => exact hs.trans (h s s' hf)
  | error e => exact hs

theorem allocateSlotLease_adjusts (leafId : Bytes32) :
    Preserves state.Adjusts (allocateSlotLease leafId) := by
  intro s hs
  refine hs.trans ?_
  cases hactive : s.leafSlotLeases.get? leafId with
  | some lease =>
    rw [EStateM.final_of_ok (SlotRun.allocate_of_active hactive)]
    exact .refl s
  | none =>
    cases hpending : s.pendingJoinFinalizeAuth.get? leafId with
    | some record =>
      rw [EStateM.final_of_ok (SlotRun.allocate_of_pending hactive hpending)]
      exact .refl s
    | none =>
      cases hfree : s.ensureSlotAllocatorInitialized.freeSlots.keys with
      | nil =>
        rw [EStateM.final_of_error (SlotRun.allocate_exhausted hactive hpending hfree)]
        exact .slots _ _
      | cons slot rest =>
        rw [EStateM.final_of_ok (SlotRun.allocate_fresh hactive hpending hfree)]
        exact .slots _ _

theorem chooseJoinLeaf_adjusts (refusalPercent : Nat) (leafIdOverride : Option Bytes32) :
    Preserves state.Adjusts (chooseJoinLeaf refusalPercent leafIdOverride) := by
  cases leafIdOverride with
  | some leafId => exact .bind (.check _) fun _ => .bind (.check _) fun _ => .pure _
  | none =>
    refine .bind (.check _) fun _ => .bind (.check _) fun _ => ?_
    refine .bind (Adjusts.modify fun s => .nextIndex s _) fun _ => ?_
    exact .bind (.modifyGet fun s hs => hs.trans (.nextIndex s _)) fun _ => .pure _

theorem reserveJoin_adjusts (H : MerkleHash) (refusalPercent : Nat)
    (leafIdOverride : Option Bytes32) :
    Preserves state.Adjusts (reserveJoin H refusalPercent leafIdOverride) := by
  refine .bind (.check _) fun _ => .bind (chooseJoinLeaf_adjusts _ _) fun leafId => ?_
  exact .bind (allocateSlotLease_adjusts leafId) fun _ => .bind (.check _) fun _ => .pure _

/-- A property of a group that tickets, administrators and queries keep. -/
structure TicketStable (env : ServerEnv) (gid : Bytes) (P : GroupState → Prop) : Prop where
  reserve (H : MerkleHash) (refusalPercent : Nat) (leafIdOverride : Option Bytes32) :
    Preserves P (reserveJoin H refusalPercent leafIdOverride)
  current : Preserves P (ensureCurrentHistoryCommitment env.hL env.wire gid)
  joinHistory : Preserves P (EStateM.update pruneJoinHistory)
  pending (s : GroupState) (record : JoinFinalizeAuthRecord) : P s → P (s.insertPending record)
  admins (s : GroupState) (keys : OrdSet Bytes) (replayKeys : OrdSet Bytes32) :
    P s → P { s with roomAdminPopKeys := keys, roomAdminProofReplayKeys := replayKeys }

theorem adjusts_ticketStable (state : GroupState) (env : ServerEnv) (gid : Bytes) :
    TicketStable env gid state.Adjusts where
  reserve := reserveJoin_adjusts
  current := .of_keepsCore (.ensureCurrent _ _ _)
  joinHistory := Adjusts.update fun _ _ => .joinHistory
  pending s record hs := hs.trans (.pending s record)
  admins s keys replayKeys hs := hs.trans (.admins s keys replayKeys)

namespace TicketStable
variable {env : ServerEnv} {gid : Bytes} {P : GroupState → Prop} (h : TicketStable env gid P)
include h

theorem resolveRevokedOccupancies (rootsHash : Bytes32) :
    Preserves P (CityG.resolveRevokedOccupancies env gid rootsHash) := by
  refine .bind (.check _) fun _ => .bind h.current fun _ => ?_
  exact .bind (.check _) fun _ => .check _

theorem resolveJoinOccupanciesSince (version : Nat) :
    Preserves P (CityG.resolveJoinOccupanciesSince env gid version) := by
  refine .bind (.check _) fun _ => .bind h.joinHistory fun _ => .bind h.current fun _ => ?_
  exact .bind (.check _) fun _ => .pure _

theorem joinProvisioning (barrier : BarrierGroupState) (parentRoot : Bytes32) :
    Preserves P (CityG.joinProvisioning env gid barrier parentRoot) := by
  refine .bind h.current fun _ => .bind (.check _) fun _ => .bind (.check _) fun _ => ?_
  refine .bind (.check _) fun _ => .bind (.check _) fun _ => .bind (.check _) fun _ => ?_
  dsimp only
  split
  · refine .bind (.bind (.check _) fun _ => .bind (.check _) fun _ => ?_) fun _ => .pure _
    refine .bind (h.resolveRevokedOccupancies _) fun _ => ?_
    exact .bind (h.resolveJoinOccupanciesSince _) fun _ => .pure _
  · exact .bind (.pure _) fun _ => .pure _

theorem mergeSlots (author : Bytes32) (revokedLeafId : Option Bytes32) :
    Preserves P (CityG.mergeSlots env gid author revokedLeafId) := by
  refine .bind (.check _) fun _ => .bind (.check _) fun _ => .bind h.current fun _ => ?_
  exact .bind (.check _) fun _ => .pure _

end TicketStable

end GroupState

namespace GroupRoster

theorem group_insert (roster : GroupRoster) (gid gid' : Bytes) (state : GroupState) :
    GroupRoster.group (roster.insert gid state) gid' =
      if gid' = gid then state else roster.group gid' := by
  unfold group
  rw [OrdMap.get?_insert]
  split <;> rfl

end GroupRoster

namespace CityGServer

/-- What an operation other than a registration or an epoch does to a server. -/
inductive Adjusts : CityGServer → CityGServer → Prop
  | refl (server : CityGServer) : Adjusts server server
  | trans {a b c : CityGServer} : Adjusts a b → Adjusts b c → Adjusts a c
  | group {server : CityGServer} {gid : Bytes} {state : GroupState}
      (h : (server.roster.group gid).Adjusts state) : Adjusts server (server.putGroup gid state)
  | kbroad (server : CityGServer) (registry : Option (OrdMap Bytes Bytes)) :
      Adjusts server (server.setCtx (server.ctx.setKbroadRegistry registry))
  | pivots (server : CityGServer) : Adjusts server (server.setCtx server.ctx.prunePivots)

variable {server : CityGServer} {α : Type}

theorem Adjusts.onGroup {gid : Bytes} {x : EStateM CityGError GroupState α}
    (h : ∀ state : GroupState, Preserves state.Adjusts x) :
    Preserves server.Adjusts (onGroup gid x) := by
  intro s hs
  rw [CityGServer.onGroup, EStateM.final_zoom]
  exact hs.trans (.group (h _ _ (.refl _)))

theorem Adjusts.editGroup {gid : Bytes} {f : GroupState → GroupState}
    (h : ∀ state : GroupState, state.Adjusts (f state)) :
    Preserves server.Adjusts (CityGServer.onGroup gid (modify f)) :=
  .onGroup fun _ => GroupState.Adjusts.modify h

/-- A property of a server that survives what tickets, administrators and queries do
to its groups, and what they do besides while the broadcast keys stay. -/
structure TicketStable (env : ServerEnv) (P : CityGServer → Prop) : Prop where
  group {α : Type} {gid : Bytes} {x : EStateM CityGError GroupState α}
    (hx : ∀ Q, GroupState.TicketStable env gid Q → Preserves Q x) : Preserves P (onGroup gid x)
  pivots (s : CityGServer) : P s → P (s.setCtx s.ctx.prunePivots)

namespace TicketStable
variable {env : ServerEnv} {P : CityGServer → Prop} (h : TicketStable env P)
include h

theorem insertRoomAdmin (gid popKey : Bytes) :
    Preserves P (onGroup gid (modify (·.insertRoomAdmin popKey))) :=
  h.group fun _ hQ => .modify fun s => hQ.admins s _ _

theorem insertReplayKey (gid : Bytes) (replayKey : Bytes32) :
    Preserves P (onGroup gid (modify (·.insertReplayKey replayKey))) :=
  h.group fun _ hQ => .modify fun s => hQ.admins s _ _

theorem attachInitialRoomAdmin (gid : Bytes32) (popKey : Bytes) :
    Preserves P (CityGServer.attachInitialRoomAdmin gid popKey) := by
  refine .bind (.check _) fun _ => .bind (.check _) fun _ => .bind (.check _) fun _ => ?_
  exact h.insertRoomAdmin gid.val popKey

theorem grantRoomAdmin (gid : Bytes32) (actor target : Bytes) (replayKey : Bytes32) :
    Preserves P (CityGServer.grantRoomAdmin gid actor target replayKey) := by
  refine .bind (.check _) fun _ => .bind (.check _) fun _ => .bind (.check _) fun _ => ?_
  refine .bind (.check _) fun _ => .bind (h.insertRoomAdmin gid.val target) fun _ => ?_
  exact .bind (h.insertReplayKey gid.val _) fun _ => .bind (.check _) fun _ => .pure _

theorem revokeRoomAdmin (gid : Bytes32) (actor target : Bytes) (replayKey : Bytes32) :
    Preserves P (CityGServer.revokeRoomAdmin gid actor target replayKey) := by
  refine .bind (.check _) fun _ => .bind (.check _) fun _ => .bind (.check _) fun _ => ?_
  refine .bind (.check _) fun _ => .bind (.check _) fun _ => ?_
  refine .bind (h.group fun _ hQ => .modify fun s => hQ.admins s _ _) fun _ => ?_
  exact .bind (h.insertReplayKey gid.val _) fun _ => .bind (.check _) fun _ => .pure _

theorem resolveRevokedOccupancies (gid rootsHash : Bytes32) :
    Preserves P (CityGServer.resolveRevokedOccupancies env gid rootsHash) :=
  .bind (.check _) fun _ => h.group fun _ hQ => hQ.resolveRevokedOccupancies rootsHash

theorem resolveJoinOccupanciesSince (gid : Bytes32) (version : Nat) :
    Preserves P (CityGServer.resolveJoinOccupanciesSince env gid version) :=
  .bind (.check _) fun _ => h.group fun _ hQ => hQ.resolveJoinOccupanciesSince version

theorem currentHistoryCommitment (gid : Bytes32) :
    Preserves P (CityGServer.currentHistoryCommitment env gid) :=
  .bind (.check _) fun _ => h.group fun _ hQ => hQ.current

end TicketStable

section Operations

theorem adjusts_ticketStable (env : ServerEnv) : TicketStable env server.Adjusts where
  group hx := Adjusts.onGroup fun state => hx _ (state.adjusts_ticketStable env _)
  pivots s hs := hs.trans (.pivots s)

theorem rotateGroupKbroad_adjusts (gid : Bytes32) (kbroadPublic : Bytes) :
    Preserves server.Adjusts (rotateGroupKbroad gid kbroadPublic) := by
  refine .bind (.check _) fun _ => .bind (.check _) fun _ => ?_
  refine .bind (.modify fun s hs => hs.trans (.kbroad s _)) fun _ => ?_
  exact Adjusts.editGroup fun state => .kbroad state _ _

variable (env : ServerEnv)

theorem joinTicket_rest (gid : Bytes32) (leafIdOverride : Option Bytes32) (fresh : FreshValues) :
    ∃ rest, buildJoinTicketWithLeaf env gid leafIdOverride fresh =
        (ensureKbroadReady gid fresh.kbroadPublic >>= fun _ => rest) ∧
      ∀ P, TicketStable env P → Preserves P rest := by
  refine ⟨_, rfl, fun P h => ?_⟩
  refine .bind (.check _) fun _ => .bind (h.group fun _ hQ => hQ.reserve _ _ _) fun _ => ?_
  refine .bind (.check _) fun _ => .bind (.check _) fun _ => .bind (.check _) fun _ => ?_
  refine .bind (.check _) fun _ => .bind (.check _) fun _ => .bind (.check _) fun _ => ?_
  refine .bind (.check _) fun _ => ?_
  refine .bind (h.group fun _ hQ => hQ.joinProvisioning _ _) fun _ => ?_
  exact .bind (h.group fun _ hQ => .modify fun s => hQ.pending s _) fun _ => .pure _

theorem mergeTicket_rest (gid author : Bytes32) (revokedLeafId : Option Bytes32)
    (freshKbroadPublic : Bytes) :
    ∃ rest, buildMergeTicketCore env gid author revokedLeafId freshKbroadPublic =
        (ensureKbroadReady gid freshKbroadPublic >>= fun _ => rest) ∧
      ∀ P, TicketStable env P → Preserves P rest := by
  refine ⟨_, rfl, fun P h => ?_⟩
  refine .bind (.check _) fun _ => .bind (.check _) fun _ => ?_
  refine .bind (h.group fun _ hQ => hQ.mergeSlots _ _) fun _ => ?_
  refine .bind (.check _) fun _ => .bind (.check _) fun _ => .bind (.check _) fun _ => ?_
  refine .bind (.check _) fun _ => .bind (.modify h.pivots) fun _ => ?_
  refine .bind (.check _) fun _ => .bind (.check _) fun _ => .bind (.check _) fun _ => ?_
  exact .bind (.check _) fun _ => .bind (.check _) fun _ => .pure _

structure RequestStable (P : CityGServer → Prop) : Prop extends TicketStable env P where
  rotate (gid : Bytes32) (kbroadPublic : Bytes) : Preserves P (rotateGroupKbroad gid kbroadPublic)

theorem adjusts_requestStable : RequestStable env server.Adjusts where
  toTicketStable := adjusts_ticketStable env
  rotate := rotateGroupKbroad_adjusts

end Operations

namespace RequestStable
variable {env : ServerEnv} {P : CityGServer → Prop} (h : RequestStable env P)
include h

theorem ensureKbroadReady (gid : Bytes32) (freshKbroadPublic : Bytes) :
    Preserves P (CityGServer.ensureKbroadReady gid freshKbroadPublic) := by
  refine .bind (.check _) fun _ => ?_
  split
  · exact h.rotate gid freshKbroadPublic
  · exact .pure _

theorem buildJoinTicketWithLeaf (gid : Bytes32) (leafIdOverride : Option Bytes32)
    (fresh : FreshValues) :
    Preserves P (CityGServer.buildJoinTicketWithLeaf env gid leafIdOverride fresh) := by
  obtain ⟨rest, heq, hrest⟩ := joinTicket_rest env gid leafIdOverride fresh
  rw [heq]
  exact .bind (h.ensureKbroadReady gid _) fun _ => hrest P h.toTicketStable

theorem buildMergeTicketCore (gid author : Bytes32) (revokedLeafId : Option Bytes32)
    (freshKbroadPublic : Bytes) :
    Preserves P (CityGServer.buildMergeTicketCore env gid author revokedLeafId freshKbroadPublic) := by
  obtain ⟨rest, heq, hrest⟩ := mergeTicket_rest env gid author revokedLeafId freshKbroadPublic
  rw [heq]
  exact .bind (h.ensureKbroadReady gid _) fun _ => hrest P h.toTicketStable

theorem buildAdminExpelTicket (gid : Bytes32) (actor : Bytes) (author target replayKey : Bytes32)
    (freshKbroadPublic : Bytes) :
    Preserves P (CityGServer.buildAdminExpelTicket env gid actor author target replayKey
      freshKbroadPublic) := by
  refine .bind (.check _) fun _ => .bind (.check _) fun _ => .bind (.check _) fun _ => ?_
  refine .bind (.check _) fun _ => .bind (h.buildMergeTicketCore gid author _ _) fun _ => ?_
  exact .bind (h.insertReplayKey gid.val replayKey) fun _ => .pure _

theorem rotateGroupKbroadWithActor (gid : Bytes32) (kbroadPublic actor : Bytes)
    (replayKey : Bytes32) :
    Preserves P (CityGServer.rotateGroupKbroadWithActor gid kbroadPublic actor replayKey) := by
  refine .bind (.check _) fun _ => .bind (.check _) fun _ => .bind (.check _) fun _ => ?_
  exact .bind (h.rotate gid kbroadPublic) fun _ => h.insertReplayKey gid.val replayKey

end RequestStable

end CityGServer

end CityG
