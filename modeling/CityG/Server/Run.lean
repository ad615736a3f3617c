import CityG.Lib.Run
import CityG.Server.Steps

/-!
# Runs of a server

A server serves one operation after the other, for any groups and in any order.
A refused operation leaves the edits it made before the refusal.
-/

namespace CityG

open EStateM (check Preserves)

namespace GroupState

structure WithoutHistory (state : GroupState) : Prop where
  latestRoot : state.latestRoot = none
  snapshots : state.snapshots.isEmpty = true
  revoked : state.revoked.isEmpty = true

inductive Initializes (env : ServerEnv) : GroupState → GroupState → Prop
  | trans {a b c : GroupState} : Initializes env a b → Initializes env b c → Initializes env a c
  | adjusts {state state' : GroupState} (h : state.Adjusts state') : Initializes env state state'
  | bootstrap {state : GroupState} {blank : PkEntries} {kemTreeHash : Bytes32}
      (hfresh : state.WithoutHistory) (huninitialized : state.barrierInitialized = false)
      (hblank : buildAllBlankPkEntries state.treeNMax = .ok blank)
      (hhash : computeBarrierTreeHash env.hL state.treeNMax blank = .ok kemTreeHash) :
      Initializes env state (state.bootstrapped
        (computeRevocationRootsHash env.hL .zero .zero) kemTreeHash blank)

variable {env : ServerEnv} {state : GroupState}

theorem bootstrapGroup_initializes {gid : Bytes} (hfresh : state.WithoutHistory)
    (huninitialized : state.barrierInitialized = false) :
    state.Initializes env ((CityGServer.bootstrapGroup env gid).final state) := by
  rw [CityGServer.bootstrapGroup, EStateM.final_read_bind]
  cases hblank : buildAllBlankPkEntries state.treeNMax with
  | error e => exact .adjusts (.refl state)
  | ok blank =>
    rw [EStateM.final_check_bind (f := fun _ => .ok blank) rfl]
    cases hhash : computeBarrierTreeHash env.hL state.treeNMax blank with
    | error e => exact .adjusts (.refl state)
    | ok kemTreeHash =>
      rw [EStateM.final_check_bind (f := fun _ => .ok kemTreeHash) rfl, EStateM.final_modify_bind]
      refine .trans (.bootstrap hfresh huninitialized hblank hhash) (.adjusts ?_)
      exact Adjusts.of_keepsCore (.record _ _ _) _ (.refl _)

theorem initializeGroup_initializes {gid : Bytes} {hasHistory : Bool}
    (hfresh : hasHistory = false → state.WithoutHistory) :
    state.Initializes env ((CityGServer.initializeGroup env gid hasHistory).final state) := by
  rw [CityGServer.initializeGroup, EStateM.final_modify_bind, EStateM.final_read_bind]
  refine .trans (.adjusts (.maxBytes state)) ?_
  split
  · next hstart =>
      obtain ⟨hroot, hsnapshots, hrevoked⟩ := hfresh hstart.2
      exact bootstrapGroup_initializes ⟨hroot, hsnapshots, hrevoked⟩ hstart.1
  · exact .adjusts (.refl _)

end GroupState

theorem GroupRoster.withoutHistory {roster : GroupRoster} {gid : Bytes}
    (h : roster.hasHistory gid = false) : (roster.group gid).WithoutHistory := by
  unfold GroupRoster.hasHistory at h
  unfold GroupRoster.group
  cases hget : roster.get? gid with
  | none => exact ⟨rfl, rfl, rfl⟩
  | some state =>
    rw [hget] at h
    simp only [Option.getD_some]
    simp only [decide_eq_false_iff_not, not_or, Bool.not_eq_false] at h
    exact ⟨by simpa using h.1, h.2.1, h.2.2⟩

namespace CityGServer

inductive Manages (env : ServerEnv) : CityGServer → CityGServer → Prop
  | trans {a b c : CityGServer} : Manages env a b → Manages env b c → Manages env a c
  | adjusts {server server' : CityGServer} (h : server.Adjusts server') : Manages env server server'
  | initializes {server : CityGServer} {gid : Bytes} {state : GroupState}
      (h : (server.roster.group gid).Initializes env state) :
      Manages env server (server.putGroup gid state)
  | mirror (server : CityGServer) (gid : Bytes) : Manages env server (server.mirrorGroup gid)

variable {env : ServerEnv} {server : CityGServer}

theorem Manages.of_adjusts {α : Type} {x : ServerM α}
    (h : ∀ server : CityGServer, Preserves server.Adjusts x) :
    Preserves (server.Manages env) x :=
  fun s hs => hs.trans (.adjusts (h s s (.refl s)))

theorem Adjusts.group_adjusts {server server' : CityGServer} (h : server.Adjusts server')
    (gid : Bytes) : (server.roster.group gid).Adjusts (server'.roster.group gid) := by
  induction h with
  | refl server => exact .refl _
  | trans _ _ ih ih' => exact ih.trans ih'
  | group h =>
    unfold putGroup
    rw [GroupRoster.group_insert]
    split
    · next heq => exact heq ▸ h
    · exact .refl _
  | kbroad | pivots => exact .refl _

theorem Manages.group_initializes {server server' : CityGServer} (h : server.Manages env server')
    (gid : Bytes) : (server.roster.group gid).Initializes env (server'.roster.group gid) := by
  induction h with
  | trans _ _ ih ih' => exact ih.trans ih'
  | adjusts h => exact .adjusts (h.group_adjusts gid)
  | initializes h =>
    unfold putGroup
    rw [GroupRoster.group_insert]
    split
    · next heq => exact heq ▸ h
    · exact .adjusts (.refl _)
  | mirror => exact .adjusts (.refl _)

theorem initializeGroupBarrierBootstrapState_manages (gid : Bytes32) :
    Preserves (server.Manages env) (initializeGroupBarrierBootstrapState env gid) := by
  intro s hs
  rw [initializeGroupBarrierBootstrapState, EStateM.final_read_bind]
  have hgroup : s.Manages env ((onGroup gid.val
      (initializeGroup env gid.val (s.roster.hasHistory gid.val))).final s) := by
    rw [onGroup, EStateM.final_zoom]
    exact .initializes (GroupState.initializeGroup_initializes GroupRoster.withoutHistory)
  refine hs.trans ?_
  unfold EStateM.final at hgroup ⊢
  cases hrun : onGroup gid.val (initializeGroup env gid.val (s.roster.hasHistory gid.val)) s with
  | ok u t =>
    rw [hrun] at hgroup
    rw [EStateM.bind_of_ok hrun]
    exact hgroup.trans (.mirror t _)
  | error e t =>
    rw [hrun] at hgroup
    rw [EStateM.bind_of_error hrun]
    exact hgroup

theorem registerGroup_manages (gid : Bytes32) (kbroadPublic : Bytes) :
    Preserves (server.Manages env) (registerGroup env gid kbroadPublic) := by
  refine .bind (.check _) fun _ => .bind (.check _) fun _ => ?_
  refine .bind (.modify fun s hs => hs.trans (.adjusts (.kbroad s _))) fun _ => ?_
  refine .bind (.of_adjusts fun _ => Adjusts.editGroup fun state => .kbroad state _ _) fun _ => ?_
  exact initializeGroupBarrierBootstrapState_manages gid

theorem registerGroupWithAdmin_manages (gid : Bytes32) (kbroadPublic popKey : Bytes) :
    Preserves (server.Manages env) (registerGroupWithAdmin env gid kbroadPublic popKey) :=
  .bind (registerGroup_manages gid kbroadPublic) fun _ =>
    .of_adjusts fun _ => Adjusts.editGroup fun state => .admins state _ _

end CityGServer

/-- What a server is asked for besides accepting an epoch, with the random values
it draws. -/
inductive ServerRequest where
  | registerGroup (gid : Bytes32) (kbroadPublic : Bytes)
  | registerGroupWithAdmin (gid : Bytes32) (kbroadPublic initialRoomAdminPopKey : Bytes)
  | attachInitialRoomAdmin (gid : Bytes32) (initialRoomAdminPopKey : Bytes)
  | rotateGroupKbroad (gid : Bytes32) (kbroadPublic : Bytes)
  | rotateGroupKbroadWithActor (gid : Bytes32) (kbroadPublic actorPopPublicKey : Bytes)
      (replayKey : Bytes32)
  | grantRoomAdmin (gid : Bytes32) (actorPopPublicKey targetPopPublicKey : Bytes)
      (replayKey : Bytes32)
  | revokeRoomAdmin (gid : Bytes32) (actorPopPublicKey targetPopPublicKey : Bytes)
      (replayKey : Bytes32)
  | buildJoinTicket (gid : Bytes32) (leafIdOverride : Option Bytes32) (fresh : FreshValues)
  | buildMergeTicket (gid author : Bytes32) (revokedLeafId : Option Bytes32)
      (freshKbroadPublic : Bytes)
  | buildAdminExpelTicket (gid : Bytes32) (actorPopPublicKey : Bytes)
      (author target replayKey : Bytes32) (freshKbroadPublic : Bytes)
  | resolveRevokedOccupancies (gid revocationRootsHash : Bytes32)
  | resolveJoinOccupanciesSince (gid : Bytes32) (prevBarrierVersion : Nat)
  | currentHistoryCommitment (gid : Bytes32)

namespace CityGServer

def serve (env : ServerEnv) : ServerRequest → CityGServer → CityGServer
  | .registerGroup gid kbroadPublic => (registerGroup env gid kbroadPublic).final
  | .registerGroupWithAdmin gid kbroadPublic popKey =>
    (registerGroupWithAdmin env gid kbroadPublic popKey).final
  | .attachInitialRoomAdmin gid popKey => (attachInitialRoomAdmin gid popKey).final
  | .rotateGroupKbroad gid kbroadPublic => (rotateGroupKbroad gid kbroadPublic).final
  | .rotateGroupKbroadWithActor gid kbroadPublic actor replayKey =>
    (rotateGroupKbroadWithActor gid kbroadPublic actor replayKey).final
  | .grantRoomAdmin gid actor target replayKey => (grantRoomAdmin gid actor target replayKey).final
  | .revokeRoomAdmin gid actor target replayKey =>
    (revokeRoomAdmin gid actor target replayKey).final
  | .buildJoinTicket gid leafIdOverride fresh =>
    (buildJoinTicketWithLeaf env gid leafIdOverride fresh).final
  | .buildMergeTicket gid author revokedLeafId freshKbroadPublic =>
    (buildMergeTicketCore env gid author revokedLeafId freshKbroadPublic).final
  | .buildAdminExpelTicket gid actor author target replayKey freshKbroadPublic =>
    (buildAdminExpelTicket env gid actor author target replayKey freshKbroadPublic).final
  | .resolveRevokedOccupancies gid rootsHash => (resolveRevokedOccupancies env gid rootsHash).final
  | .resolveJoinOccupanciesSince gid version => (resolveJoinOccupanciesSince env gid version).final
  | .currentHistoryCommitment gid => (currentHistoryCommitment env gid).final

def registers : ServerRequest → Bool
  | .registerGroup _ _ => true
  | .registerGroupWithAdmin _ _ _ => true
  | _ => false

theorem RequestStable.serve {env : ServerEnv} {P : CityGServer → Prop} (h : RequestStable env P)
    {request : ServerRequest} (hknown : registers request = false) {server : CityGServer}
    (hs : P server) : P (serve env request server) := by
  cases request with
  | registerGroup => cases hknown
  | registerGroupWithAdmin => cases hknown
  | attachInitialRoomAdmin gid popKey => exact h.attachInitialRoomAdmin gid popKey server hs
  | rotateGroupKbroad gid key => exact h.rotate gid key server hs
  | rotateGroupKbroadWithActor gid key actor replayKey =>
    exact h.rotateGroupKbroadWithActor gid key actor replayKey server hs
  | grantRoomAdmin gid actor target replayKey =>
    exact h.grantRoomAdmin gid actor target replayKey server hs
  | revokeRoomAdmin gid actor target replayKey =>
    exact h.revokeRoomAdmin gid actor target replayKey server hs
  | buildJoinTicket gid leafIdOverride fresh =>
    exact h.buildJoinTicketWithLeaf gid leafIdOverride fresh server hs
  | buildMergeTicket gid author revokedLeafId freshKbroadPublic =>
    exact h.buildMergeTicketCore gid author revokedLeafId freshKbroadPublic server hs
  | buildAdminExpelTicket gid actor author target replayKey freshKbroadPublic =>
    exact h.buildAdminExpelTicket gid actor author target replayKey freshKbroadPublic server hs
  | resolveRevokedOccupancies gid rootsHash =>
    exact h.resolveRevokedOccupancies gid rootsHash server hs
  | resolveJoinOccupanciesSince gid version =>
    exact h.resolveJoinOccupanciesSince gid version server hs
  | currentHistoryCommitment gid => exact h.currentHistoryCommitment gid server hs

theorem serve_manages (env : ServerEnv) (request : ServerRequest) (server : CityGServer) :
    server.Manages env (serve env request server) := by
  have hstart : server.Manages env server := .adjusts (.refl server)
  cases request with
  | registerGroup gid kbroadPublic =>
    exact registerGroup_manages gid kbroadPublic server hstart
  | registerGroupWithAdmin gid kbroadPublic popKey =>
    exact registerGroupWithAdmin_manages gid kbroadPublic popKey server hstart
  | _ => exact .adjusts ((adjusts_requestStable env).serve rfl (.refl server))

end CityGServer

inductive ServerOp where
  | request (request : ServerRequest)
  | acceptEpoch (bundle : ClientEpochBundle)

structure ServerRun where
  server : CityGServer
  accepted : List ClientEpochBundle

namespace ServerRun

def start (server : CityGServer) : ServerRun := ⟨server, []⟩

/-- One operation; the run goes on after a refusal. -/
def step (env : ServerEnv) (run : ServerRun) : ServerOp → Option ServerRun
  | .request request => some { run with server := CityGServer.serve env request run.server }
  | .acceptEpoch bundle =>
    match CityGServer.acceptEpoch env bundle run.server with
    | .ok _ server => some ⟨server, bundle :: run.accepted⟩
    | .error _ server => some { run with server := server }

end ServerRun

end CityG
