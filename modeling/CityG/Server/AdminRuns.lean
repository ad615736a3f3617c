import CityG.Server.Expulsion

/-!
# Administrators over the runs of a server

The proof of an administrator is remembered by the operation it was shown for,
and the last administrator is not removed. Tickets, reads and epochs leave both
records alone.
-/

namespace CityG

open EStateM (Keeps Preserves)

/-- The administrators of a group and the proofs they have used. -/
def GroupState.admins (state : GroupState) : OrdSet Bytes × OrdSet Bytes32 :=
  (state.roomAdminPopKeys, state.roomAdminProofReplayKeys)

def CityGServer.admins (gid : Bytes) (server : CityGServer) : OrdSet Bytes × OrdSet Bytes32 :=
  (server.roster.group gid).admins

section Groups
variable {env : ServerEnv} {gid : Bytes} {α : Type} {x : EStateM CityGError GroupState α}

theorem KeepsCore.admins (h : KeepsCore x) : Keeps GroupState.admins x := by
  intro s
  have hcore : (x.final s).withoutHistory = s.withoutHistory := h s
  have hadmins := congrArg GroupState.admins hcore
  exact hadmins

theorem GroupState.KeepsOffLeaves.admins (h : KeepsOffLeaves x) : Keeps GroupState.admins x := by
  intro s
  have hrest : (x.final s).withoutLeaves = s.withoutLeaves := h s
  have hadmins := congrArg GroupState.admins hrest
  exact hadmins

theorem ensureCurrentHistoryCommitment_admins :
    Keeps GroupState.admins (ensureCurrentHistoryCommitment env.hL env.wire gid) :=
  (KeepsCore.ensureCurrent _ _ _).admins

theorem resolveRevokedOccupancies_admins (rootsHash : Bytes32) :
    Keeps GroupState.admins (resolveRevokedOccupancies env gid rootsHash) := by
  refine .bind (.check _) fun _ => .bind ensureCurrentHistoryCommitment_admins fun _ => ?_
  exact .bind (.check _) fun _ => .check _

theorem resolveJoinOccupanciesSince_admins (version : Nat) :
    Keeps GroupState.admins (resolveJoinOccupanciesSince env gid version) := by
  refine .bind (.check _) fun _ => .bind GroupState.KeepsOffLeaves.pruneJoinHistory.admins fun _ => ?_
  exact .bind ensureCurrentHistoryCommitment_admins fun _ => .bind (.check _) fun _ => .pure _

theorem joinProvisioning_admins (barrier : BarrierGroupState) (parentRoot : Bytes32) :
    Keeps GroupState.admins (joinProvisioning env gid barrier parentRoot) := by
  refine .bind ensureCurrentHistoryCommitment_admins fun _ => .bind (.check _) fun _ => ?_
  refine .bind (.check _) fun _ => .bind (.check _) fun _ => ?_
  refine .bind (.check _) fun _ => .bind (.check _) fun _ => ?_
  dsimp only
  split
  · refine .bind (.bind (.check _) fun _ => .bind (.check _) fun _ => ?_) fun _ => .pure _
    refine .bind (resolveRevokedOccupancies_admins _) fun _ => ?_
    exact .bind (resolveJoinOccupanciesSince_admins _) fun _ => .pure _
  · exact .bind (.pure _) fun _ => .pure _

theorem mergeSlots_admins (author : Bytes32) (revokedLeafId : Option Bytes32) :
    Keeps GroupState.admins (mergeSlots env gid author revokedLeafId) := by
  refine .bind (.check _) fun _ => .bind (.check _) fun _ => ?_
  exact .bind ensureCurrentHistoryCommitment_admins fun _ => .bind (.check _) fun _ => .pure _

theorem initializeGroup_admins (hasHistory : Bool) :
    Keeps GroupState.admins (CityGServer.initializeGroup env gid hasHistory) := by
  refine .bind (.modify fun _ => rfl) fun _ => .bind (.check _) fun _ => ?_
  split
  · refine .bind (.check _) fun _ => .bind (.check _) fun _ => .bind (.check _) fun _ => ?_
    exact .bind (.modify fun _ => rfl) fun _ => (KeepsCore.record _ _ _).admins
  · exact .pure _

theorem commitTree_admins (validation : Option BarrierUpdateValidationOutcome) :
    Keeps GroupState.admins (commitTree env gid validation) := by
  cases validation with
  | none => exact .pure _
  | some validation =>
    refine .bind (.check _) fun _ => .bind (.check _) fun _ => .bind (.modify fun _ => rfl) fun _ => ?_
    refine .bind ensureCurrentHistoryCommitment_admins fun _ => .bind (.check _) fun _ => ?_
    exact .bind (KeepsCore.recordWithMetadata _ _ _ _).admins fun _ => (KeepsCore.record _ _ _).admins

end Groups

namespace CityGServer

section Kept
variable {env : ServerEnv} {gid : Bytes} {α : Type}

theorem admins_onGroup (gid' : Bytes) (x : EStateM CityGError GroupState α) (s : CityGServer) :
    admins gid ((onGroup gid' x).final s) =
      if gid = gid' then (x.final (s.roster.group gid')).admins else admins gid s := by
  unfold admins
  rw [onGroup, EStateM.final_zoom, putGroup, GroupRoster.group_insert]
  split <;> rfl

theorem onGroup_admins {gid' : Bytes} {x : EStateM CityGError GroupState α}
    (h : Keeps GroupState.admins x) : Keeps (admins gid) (onGroup gid' x) := by
  intro s
  unfold EStateM.KeepsAt
  rw [admins_onGroup]
  split
  · next heq => exact heq ▸ h _
  · rfl

theorem rotateGroupKbroad_admins (room : Bytes32) (kbroadPublic : Bytes) :
    Keeps (admins gid) (rotateGroupKbroad room kbroadPublic) := by
  refine .bind (.check _) fun _ => .bind (.check _) fun _ => .bind (.modify fun _ => rfl) fun _ => ?_
  exact onGroup_admins (.modify fun _ => rfl)

theorem registerGroup_admins (room : Bytes32) (kbroadPublic : Bytes) :
    Keeps (admins gid) (registerGroup env room kbroadPublic) := by
  refine .bind (.check _) fun _ => .bind (.check _) fun _ => .bind (.modify fun _ => rfl) fun _ => ?_
  refine .bind (onGroup_admins (.modify fun _ => rfl)) fun _ => .bind (.check _) fun _ => ?_
  exact .bind (onGroup_admins (initializeGroup_admins _)) fun _ => .modify fun _ => rfl

theorem ensureKbroadReady_admins (room : Bytes32) (kbroadPublic : Bytes) :
    Keeps (admins gid) (ensureKbroadReady room kbroadPublic) := by
  refine .bind (.check _) fun _ => ?_
  split
  · exact rotateGroupKbroad_admins room kbroadPublic
  · exact .pure _

theorem buildJoinTicketWithLeaf_admins (room : Bytes32) (leafIdOverride : Option Bytes32)
    (fresh : FreshValues) :
    Keeps (admins gid) (buildJoinTicketWithLeaf env room leafIdOverride fresh) := by
  refine .bind (ensureKbroadReady_admins _ _) fun _ => .bind (.check _) fun _ => ?_
  refine .bind (onGroup_admins (GroupState.KeepsOffLeaves.reserveJoin _ _ _).admins) fun _ => ?_
  refine .bind (.check _) fun _ => .bind (.check _) fun _ => .bind (.check _) fun _ => ?_
  refine .bind (.check _) fun _ => .bind (.check _) fun _ => .bind (.check _) fun _ => ?_
  refine .bind (.check _) fun _ => .bind (onGroup_admins (joinProvisioning_admins _ _)) fun _ => ?_
  exact .bind (onGroup_admins (.modify fun _ => rfl)) fun _ => .pure _

theorem buildMergeTicketCore_admins (room author : Bytes32) (revokedLeafId : Option Bytes32)
    (freshKbroadPublic : Bytes) :
    Keeps (admins gid) (buildMergeTicketCore env room author revokedLeafId freshKbroadPublic) := by
  refine .bind (ensureKbroadReady_admins _ _) fun _ => .bind (.check _) fun _ => ?_
  refine .bind (.check _) fun _ => .bind (onGroup_admins (mergeSlots_admins _ _)) fun _ => ?_
  refine .bind (.check _) fun _ => .bind (.check _) fun _ => .bind (.check _) fun _ => ?_
  refine .bind (.check _) fun _ => .bind (.modify fun _ => rfl) fun _ => ?_
  refine .bind (.check _) fun _ => .bind (.check _) fun _ => .bind (.check _) fun _ => ?_
  exact .bind (.check _) fun _ => .bind (.check _) fun _ => .pure _

end Kept

/-- A property of the two records that survives what administrators do to them. -/
structure AdminLaw (P : OrdSet Bytes × OrdSet Bytes32 → Prop) : Prop where
  add (keys used popKey) : P (keys, used) → P (keys.add popKey, used)
  erase (keys used popKey) : (popKey ∈ keys → keys.size ≠ 1) → P (keys, used) →
    P (keys.erase popKey, used)
  use (keys used replayKey) : P (keys, used) → P (keys, used.add replayKey)

namespace AdminLaw
variable {env : ServerEnv} {gid : Bytes} {P : OrdSet Bytes × OrdSet Bytes32 → Prop} (h : AdminLaw P)
include h

theorem insertRoomAdmin (gid' popKey : Bytes) :
    Preserves (fun s => P (admins gid s)) (onGroup gid' (modify (·.insertRoomAdmin popKey))) := by
  intro s hs
  rw [admins_onGroup]
  split
  · next heq => exact h.add _ _ _ (heq ▸ hs)
  · exact hs

theorem insertReplayKey (gid' : Bytes) (replayKey : Bytes32) :
    Preserves (fun s => P (admins gid s)) (onGroup gid' (modify (·.insertReplayKey replayKey))) := by
  intro s hs
  rw [admins_onGroup]
  split
  · next heq => exact h.use _ _ _ (heq ▸ hs)
  · exact hs

theorem revokeRoomAdmin (room : Bytes32) (actor target : Bytes) (replayKey : Bytes32) :
    Preserves (fun s => P (admins gid s))
      (CityGServer.revokeRoomAdmin room actor target replayKey) := by
  refine .bind (.check _) fun _ => .bind (.check _) fun _ => .bind (.check _) fun _ => ?_
  intro s hs
  -- the administrators are counted in the state they are removed from
  rw [EStateM.final_read_bind]
  refine EStateM.final_bind (P := fun s => P (admins gid s)) ?_ fun _ t hcheck ht => ?_
  · exact Preserves.check (P := fun s => P (admins gid s)) _ s hs
  obtain ⟨hcount, rfl⟩ := EStateM.check_eq_ok.mp hcheck
  have hlast := Except.ensure_eq_ok.mp hcount
  refine EStateM.final_bind (P := fun s => P (admins gid s)) ?_ fun _ t _ ht => ?_
  · rw [admins_onGroup]
    split
    · next heq =>
        subst heq
        exact h.erase _ _ _ (fun hmem => hlast (decide_eq_true hmem)) ht
    · exact ht
  · exact Preserves.bind (h.insertReplayKey _ _) (fun _ => .bind (.check _) fun _ => .pure _) t ht

theorem serve (request : ServerRequest) {server : CityGServer} (hs : P (admins gid server)) :
    P (admins gid (CityGServer.serve env request server)) := by
  have hserved : ∀ {α : Type} {x : ServerM α}, Preserves (fun s => P (admins gid s)) x →
      P (admins gid (x.final server)) := fun hx => hx server hs
  have hkept : ∀ {α : Type} {x : ServerM α}, Keeps (admins gid) x →
      P (admins gid (x.final server)) := fun hx => hserved (.of_keeps hx)
  cases request with
  | registerGroup room key => exact hkept (registerGroup_admins room key)
  | registerGroupWithAdmin room key popKey =>
    exact hserved (.bind (.of_keeps (registerGroup_admins room key)) fun _ =>
      h.insertRoomAdmin _ popKey)
  | attachInitialRoomAdmin room popKey =>
    refine hserved (.bind (.check _) fun _ => .bind (.check _) fun _ => ?_)
    exact .bind (.check _) fun _ => h.insertRoomAdmin _ popKey
  | rotateGroupKbroad room key => exact hkept (rotateGroupKbroad_admins room key)
  | rotateGroupKbroadWithActor room key actor replayKey =>
    refine hserved (.bind (.check _) fun _ => .bind (.check _) fun _ => .bind (.check _) fun _ => ?_)
    refine .bind (.of_keeps (rotateGroupKbroad_admins room key)) fun _ => ?_
    exact h.insertReplayKey _ replayKey
  | grantRoomAdmin room actor target replayKey =>
    refine hserved (.bind (.check _) fun _ => .bind (.check _) fun _ => .bind (.check _) fun _ => ?_)
    refine .bind (.check _) fun _ => .bind (h.insertRoomAdmin _ target) fun _ => ?_
    exact .bind (h.insertReplayKey _ replayKey) fun _ => .bind (.check _) fun _ => .pure _
  | revokeRoomAdmin room actor target replayKey =>
    exact hserved (h.revokeRoomAdmin room actor target replayKey)
  | buildJoinTicket room leafIdOverride fresh =>
    exact hkept (buildJoinTicketWithLeaf_admins room leafIdOverride fresh)
  | buildMergeTicket room author revokedLeafId key =>
    exact hkept (buildMergeTicketCore_admins room author revokedLeafId key)
  | buildAdminExpelTicket room actor author target replayKey key =>
    refine hserved (.bind (.check _) fun _ => .bind (.check _) fun _ => .bind (.check _) fun _ => ?_)
    refine .bind (.check _) fun _ => ?_
    refine .bind (.of_keeps (buildMergeTicketCore_admins room author _ key)) fun _ => ?_
    exact .bind (h.insertReplayKey _ replayKey) fun _ => .pure _
  | resolveRevokedOccupancies room rootsHash =>
    exact hkept (.bind (.check _) fun _ => onGroup_admins (resolveRevokedOccupancies_admins rootsHash))
  | resolveJoinOccupanciesSince room version =>
    exact hkept (.bind (.check _) fun _ => onGroup_admins (resolveJoinOccupanciesSince_admins version))
  | currentHistoryCommitment room =>
    exact hkept (.bind (.check _) fun _ => onGroup_admins ensureCurrentHistoryCommitment_admins)

end AdminLaw

end CityGServer

theorem AcceptedEpoch.admins {env : ServerEnv} {bundle : ClientEpochBundle}
    {server server' : CityGServer} {prepared : Prepared} {accepted : AcceptanceContext}
    {barrier : BarrierGroupState} {group : GroupState} {newRoot : Bytes32}
    (h : AcceptedEpoch env bundle server server' prepared accepted barrier group newRoot)
    (gid : Bytes) : server'.admins gid = server.admins gid := by
  obtain ⟨activated, member, changed, fields, token, hsteps⟩ := commitBundle_ok h.commit
  obtain ⟨record, -, happlied⟩ := hsteps.record
  unfold CityGServer.admins
  rw [h.roster, GroupRoster.group_insert]
  split
  · next heq =>
      subst heq
      calc (markRotation prepared.delta group).admins
          = group.admins := by unfold markRotation; split <;> rfl
        _ = (GroupState.finalizeJoin token fields.popPk changed).admins :=
            (commitTree_admins _).of_ok hsteps.tree
        _ = changed.admins := by
            have hrest := GroupState.finalizeJoin_withoutLeaves token fields.popPk changed
            have hadmins := congrArg GroupState.admins hrest
            exact hadmins
        _ = member.admins := (GroupState.KeepsOffLeaves.changeMembers _ _).admins.of_ok hsteps.change
        _ = (GroupState.recordCurrentUpdate bundle.headerMap prepared.before prepared.validation
              ((record.map (activated.withBarrierState barrier).putMergeRecord).getD
                (activated.withBarrierState barrier))).admins := by
            obtain ⟨_, _, _, _, rfl⟩ := GroupState.applyDelta_edits happlied
            rfl
        _ = activated.admins := by
            unfold GroupState.recordCurrentUpdate
            split <;> cases record <;> rfl
        _ = prepared.group.admins :=
            (GroupState.KeepsOffLeaves.activateSlotLeases _).admins.of_ok hsteps.activate
        _ = (server.roster.group bundle.gid).admins :=
            refreshHistory_keepsCore.admins.of_ok (prepareBundle_ok h.prepare).refreshed
  · rfl

/-- A later state of a run. -/
abbrev ServerRun.Follows (env : ServerEnv) (run run' : ServerRun) : Prop :=
  Run.Reach (· = run) (ServerRun.step env) (fun _ _ => True) run'

theorem CityGServer.AdminLaw.follows {P : OrdSet Bytes × OrdSet Bytes32 → Prop} (h : AdminLaw P)
    {env : ServerEnv} {gid : Bytes} {run run' : ServerRun} (hrun : run.Follows env run')
    (hstart : P (run.server.admins gid)) : P (run'.server.admins gid) := by
  induction hrun with
  | start hs => exact hs ▸ hstart
  | next op _ _ hstep ih =>
    cases op with
    | request request =>
      cases hstep
      exact h.serve request ih
    | acceptEpoch bundle =>
      simp only [ServerRun.step] at hstep
      split at hstep
      · next haccept =>
          cases hstep
          obtain ⟨_, _, _, _, _, hepoch⟩ := acceptEpoch_ok haccept
          exact (hepoch.admins gid).symm ▸ ih
      · next hrefuse =>
          cases hstep
          exact (acceptEpoch_error hrefuse).symm ▸ ih

namespace CityGServer

/-- The room and the replay key of the proof that comes with a request, if the
request is granted. -/
def usedProof (env : ServerEnv) : ServerRequest → CityGServer → Option (Bytes32 × Bytes32)
  | .rotateGroupKbroadWithActor gid key actor replayKey, server =>
    if (rotateGroupKbroadWithActor gid key actor replayKey).Succeeds server then
      some (gid, replayKey) else none
  | .grantRoomAdmin gid actor target replayKey, server =>
    if (grantRoomAdmin gid actor target replayKey).Succeeds server then some (gid, replayKey) else none
  | .revokeRoomAdmin gid actor target replayKey, server =>
    if (revokeRoomAdmin gid actor target replayKey).Succeeds server then some (gid, replayKey) else none
  | .buildAdminExpelTicket gid actor author target replayKey key, server =>
    if (buildAdminExpelTicket env gid actor author target replayKey key).Succeeds server then
      some (gid, replayKey) else none
  | _, _ => none

theorem requireGroup_unused {gid replayKey : Bytes32} {missing : String} {server : CityGServer}
    {state : GroupState} {u : Unit} (hstate : server.requireGroup gid.val missing = .ok state)
    (hunused : ensureUnusedRoomAdminProofReplayKey state replayKey = .ok u) :
    replayKey ∉ (server.admins gid.val).2 := by
  have hgroup : server.roster.group gid.val = state := by
    unfold GroupRoster.group
    rw [Except.ofOption_eq_ok.mp hstate]
    rfl
  unfold admins
  rw [hgroup]
  exact Except.ensure_eq_ok.mp hunused

theorem onGroup_insertReplayKey {gid replayKey : Bytes32} {server server' : CityGServer} {u : PUnit}
    (h : onGroup gid.val (modify (·.insertReplayKey replayKey)) server = .ok u server') :
    replayKey ∈ (server'.admins gid.val).2 := by
  rw [← EStateM.final_of_ok h, admins_onGroup, if_pos rfl]
  exact OrdSet.mem_add.mpr (.inl rfl)

theorem usedProof_spec {env : ServerEnv} {request : ServerRequest} {server : CityGServer}
    {gid replayKey : Bytes32} (h : usedProof env request server = some (gid, replayKey)) :
    replayKey ∉ (server.admins gid.val).2 ∧
      replayKey ∈ ((serve env request server).admins gid.val).2 := by
  cases request with
  | rotateGroupKbroadWithActor room key actor used =>
    obtain ⟨⟨_, server', hrun⟩, heq⟩ := Option.ite_none_right_eq_some.mp h
    cases heq
    rw [serve, EStateM.final_of_ok hrun]
    simp only [rotateGroupKbroadWithActor, checkReplayKey, EStateM.check_bind_eq_ok,
      Except.bind_eq_ok] at hrun
    obtain ⟨_, -, _, -, _, ⟨_, hgroup, hunused⟩, hrun⟩ := hrun
    obtain ⟨_, _, -, hinsert⟩ := EStateM.bind_eq_ok.mp hrun
    exact ⟨requireGroup_unused hgroup hunused, onGroup_insertReplayKey hinsert⟩
  | grantRoomAdmin room actor target used =>
    obtain ⟨⟨_, server', hrun⟩, heq⟩ := Option.ite_none_right_eq_some.mp h
    cases heq
    rw [serve, EStateM.final_of_ok hrun]
    simp only [grantRoomAdmin, checkReplayKey, EStateM.check_bind_eq_ok, Except.bind_eq_ok] at hrun
    obtain ⟨_, -, _, -, _, ⟨_, hgroup, hunused⟩, _, -, hrun⟩ := hrun
    simp only [EStateM.bind_eq_ok, EStateM.check_eq_ok, EStateM.pure_eq_ok] at hrun
    obtain ⟨_, _, -, _, _, hinsert, _, _, ⟨-, rfl⟩, -, rfl⟩ := hrun
    exact ⟨requireGroup_unused hgroup hunused, onGroup_insertReplayKey hinsert⟩
  | revokeRoomAdmin room actor target used =>
    obtain ⟨⟨_, server', hrun⟩, heq⟩ := Option.ite_none_right_eq_some.mp h
    cases heq
    rw [serve, EStateM.final_of_ok hrun]
    simp only [revokeRoomAdmin, checkReplayKey, EStateM.check_bind_eq_ok, Except.bind_eq_ok] at hrun
    obtain ⟨_, -, _, -, _, ⟨_, hgroup, hunused⟩, _, -, _, -, hrun⟩ := hrun
    simp only [EStateM.bind_eq_ok, EStateM.check_eq_ok, EStateM.pure_eq_ok] at hrun
    obtain ⟨_, _, -, _, _, hinsert, _, _, ⟨-, rfl⟩, -, rfl⟩ := hrun
    exact ⟨requireGroup_unused hgroup hunused, onGroup_insertReplayKey hinsert⟩
  | buildAdminExpelTicket room actor author target used key =>
    obtain ⟨⟨_, server', hrun⟩, heq⟩ := Option.ite_none_right_eq_some.mp h
    cases heq
    rw [serve, EStateM.final_of_ok hrun]
    simp only [buildAdminExpelTicket, checkExpelAuthor, EStateM.check_bind_eq_ok,
      Except.bind_eq_ok] at hrun
    obtain ⟨_, -, _, -, _, -, _, ⟨_, hgroup, _, hunused, -⟩, hrun⟩ := hrun
    simp only [EStateM.bind_eq_ok, EStateM.pure_eq_ok] at hrun
    obtain ⟨_, _, -, _, _, hinsert, -, rfl⟩ := hrun
    exact ⟨requireGroup_unused hgroup hunused, onGroup_insertReplayKey hinsert⟩
  | _ => cases h

theorem usedKey_law (replayKey : Bytes32) : AdminLaw fun a => replayKey ∈ a.2 where
  add _ _ _ h := h
  erase _ _ _ _ h := h
  use _ _ _ h := OrdSet.mem_add.mpr (.inr h)

theorem administered_law : AdminLaw fun a => ∃ popKey, popKey ∈ a.1 where
  add _ _ _ := fun ⟨popKey, h⟩ => ⟨popKey, OrdSet.mem_add.mpr (.inr h)⟩
  erase keys _ popKey hlast := by
    rintro ⟨other, hother⟩
    by_contra hnone
    push Not at hnone
    have honly : ∀ k ∈ keys, k = popKey := by
      intro k hk
      by_contra hne
      exact hnone k (OrdMap.mem_erase.mpr ⟨hne, hk⟩)
    have hmem : popKey ∈ keys := honly other hother ▸ hother
    have hperm : keys.keys.Perm [popKey] := by
      refine (List.perm_ext_iff_of_nodup keys.keys_nodup (List.nodup_singleton _)).mpr fun k => ?_
      rw [OrdMap.mem_keys, List.mem_singleton]
      exact ⟨honly k, fun heq => heq ▸ hmem⟩
    have hlength := hperm.length_eq
    rw [OrdMap.keys, List.length_map] at hlength
    exact hlast hmem hlength
  use _ _ _ h := h

/-- A proof of an administrator that was accepted for a request is accepted for
no later one, whatever the server does in between. -/
theorem admin_proof_used_once {env : ServerEnv} {request later : ServerRequest}
    {server : CityGServer} {accepted : List ClientEpochBundle} {run : ServerRun}
    {proof : Bytes32 × Bytes32} (hused : usedProof env request server = some proof)
    (hrun : ServerRun.Follows env ⟨serve env request server, accepted⟩ run) :
    usedProof env later run.server ≠ some proof := by
  intro hagain
  have hremembered := (usedKey_law proof.2).follows hrun (usedProof_spec hused).2
  exact (usedProof_spec hagain).1 hremembered

/-- A room with an administrator has one in every later state. -/
theorem room_stays_administered {env : ServerEnv} {gid : Bytes} {run run' : ServerRun}
    (hstart : run.server.roster.hasExplicitRoomAdmins gid = true) (hrun : run.Follows env run') :
    run'.server.roster.hasExplicitRoomAdmins gid = true := by
  have hexists : ∀ server : CityGServer, server.roster.hasExplicitRoomAdmins gid = true ↔
      ∃ popKey, popKey ∈ (server.admins gid).1 := by
    intro server
    unfold GroupRoster.hasExplicitRoomAdmins
    rw [decide_eq_true_iff, OrdMap.isEmpty, List.isEmpty_eq_false_iff]
    constructor
    · intro hne
      obtain ⟨entry, hentry⟩ := List.exists_mem_of_ne_nil _ hne
      exact ⟨entry.1, OrdMap.mem_keys.mp (List.mem_map_of_mem hentry)⟩
    · rintro ⟨popKey, hmem⟩ hnil
      have hkey := OrdMap.mem_keys.mpr hmem
      simp [OrdMap.keys, admins, GroupState.admins, hnil] at hkey
  exact (hexists _).mpr (administered_law.follows hrun ((hexists _).mp hstart))

section Room

def administeredRoom : CityGServer :=
  serve roomEnv (.registerGroupWithAdmin roomGid (kemKey 1) (deviceKey 10)) roomServer

def grantToOther : ServerRequest :=
  .grantRoomAdmin roomGid (deviceKey 10) (deviceKey 12) (deviceLeaf 10)

set_option maxRecDepth 1000000 in
/-- Device 10 makes device 12 an administrator; the proof serves for nothing else. -/
theorem admin_proof_used_once_granted :
    usedProof roomEnv grantToOther administeredRoom = some (roomGid, deviceLeaf 10) ∧
      ∀ later, usedProof roomEnv later (serve roomEnv grantToOther administeredRoom) ≠
        some (roomGid, deviceLeaf 10) := by
  have hused : usedProof roomEnv grantToOther administeredRoom = some (roomGid, deviceLeaf 10) := by
    decide +kernel
  have hrun : ServerRun.Follows roomEnv ⟨serve roomEnv grantToOther administeredRoom, []⟩
      ⟨serve roomEnv grantToOther administeredRoom, []⟩ := .start rfl
  have hnever := fun later => @admin_proof_used_once _ _ later _ _ _ _ hused hrun
  dsimp only at hnever
  exact ⟨hused, hnever⟩

def removeSelf : ServerRequest :=
  .revokeRoomAdmin roomGid (deviceKey 10) (deviceKey 10) (deviceLeaf 10)

set_option maxRecDepth 1000000 in
/-- The only administrator asks to be removed. -/
theorem room_stays_administered_alone :
    administeredRoom.roster.hasExplicitRoomAdmins roomGid.val = true ∧
      (serve roomEnv removeSelf administeredRoom).roster.hasExplicitRoomAdmins roomGid.val = true := by
  have hstart : administeredRoom.roster.hasExplicitRoomAdmins roomGid.val = true := by decide +kernel
  have hrun : ServerRun.Follows roomEnv ⟨administeredRoom, []⟩
      ⟨serve roomEnv removeSelf administeredRoom, []⟩ := by
    refine .next (s := ⟨administeredRoom, []⟩) (.request removeSelf) (.start rfl) trivial ?_
    rw [ServerRun.step]
  have hlater := @room_stays_administered roomEnv roomGid.val ⟨administeredRoom, []⟩ _ hstart hrun
  dsimp only at hlater
  exact ⟨hstart, hlater⟩

end Room

end CityGServer

end CityG
