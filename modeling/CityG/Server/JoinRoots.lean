import CityG.Server.Memberships

/-!
# The join root of an accepted join

The anchor of a join binds the root of the leaves that join. The leaf that the
server adds is computed from the device key in the header.
-/

namespace CityG

def addedLeaves (bundle : ClientEpochBundle) (server server' : CityGServer) : List Bytes32 :=
  (server'.roster.members bundle.gid).filter fun leaf =>
    leaf ∉ (ServerRun.start server).parentMembers bundle

def ClientEpochBundle.deviceLeafId (codec : AnchorCodec) (bundle : ClientEpochBundle) :
    Option Bytes32 :=
  match bundle.headerMap.get? HDR_POP_ALG, bundle.headerMap.get? HDR_POP_PK with
  | some (.text popAlg), some (.bytes popPk) =>
    some (codec.computeLeafId .perGroup bundle.gid popAlg popPk)
  | _, _ => none

theorem membershipDelta_join {codec : AnchorCodec} {bundle : ClientEpochBundle}
    {delta : MembershipDelta} (hmerge : isMergeAnchor bundle.headerMap = false)
    (hpayload : HDR_SRX_PAYLOAD ∉ bundle.headerMap)
    (h : bundle.membershipDelta codec = .ok delta) :
    ∃ leaf, bundle.deviceLeafId codec = some leaf ∧ delta = ⟨[leaf], []⟩ := by
  have hnone : bundle.headerMap.get? HDR_SRX_PAYLOAD = none := OrdMap.not_mem_iff.mp hpayload
  have hheader : isMergeHeader bundle.headerMap = false := by
    rw [isMergeHeader, decide_eq_false_iff_not]
    intro hkey
    have hclass : classifyAnchorType bundle.headerMap = .merge := if_pos (.inr (.inr hkey))
    rw [isMergeAnchor, hclass] at hmerge
    cases hmerge
  simp only [ClientEpochBundle.membershipDelta, hnone, hheader, Bool.false_eq_true, if_false,
    Except.bind_eq_ok, Except.pure_eq_ok] at h
  obtain ⟨popAlg, halg, popPk, hpk, rfl⟩ := h
  refine ⟨codec.computeLeafId .perGroup bundle.gid popAlg popPk, ?_, rfl⟩
  have hget : bundle.headerMap.get? HDR_POP_ALG = some (.text popAlg) := by
    unfold joinPopAlg at halg
    split at halg
    · next text htext =>
        simp only [Except.bind_eq_ok, Except.pure_eq_ok] at halg
        obtain ⟨_, -, rfl⟩ := halg
        exact htext
    · cases halg
    · cases halg
  have hget' : bundle.headerMap.get? HDR_POP_PK = some (.bytes popPk) := by
    unfold joinPopPk at hpk
    split at hpk
    · next pk hbytes =>
        simp only [Except.bind_eq_ok, Except.pure_eq_ok] at hpk
        obtain ⟨_, -, rfl⟩ := hpk
        exact hbytes
    · cases hpk
    · cases hpk
  rw [ClientEpochBundle.deviceLeafId, hget, hget']

theorem eq_singleton_of_pairwise_lt {α : Type*} [LinearOrder α] {l : List α} {a : α}
    (hsorted : l.Pairwise (· < ·)) (hmem : ∀ x, x ∈ l ↔ x = a) : l = [a] := by
  cases l with
  | nil => exact absurd ((hmem a).mpr rfl) List.not_mem_nil
  | cons x rest =>
    obtain rfl := (hmem x).mp List.mem_cons_self
    cases rest with
    | nil => rfl
    | cons y rest =>
      have hy := (hmem y).mp (List.mem_cons_of_mem _ List.mem_cons_self)
      have hlt := (List.pairwise_cons.mp hsorted).1 y List.mem_cons_self
      exact absurd hlt (hy ▸ lt_irrefl x)

theorem addedLeaves_join {env : ServerEnv} {bundle : ClientEpochBundle}
    {server server' : CityGServer} {outcome : ServerOutcome}
    (h : CityGServer.acceptEpoch env bundle server = .ok outcome server')
    (hjoin : isMergeAnchor bundle.headerMap = false) :
    ∃ leaf, bundle.deviceLeafId env.codec = some leaf ∧
      addedLeaves bundle server server' = [leaf] := by
  obtain ⟨prepared, accepted, barrier, group, newRoot, hepoch⟩ := acceptEpoch_ok h
  have hheader : JoinHeader bundle.headerMap := by
    rcases hepoch.join_or_merge with hj | ⟨_, hm⟩
    · exact hj.header
    · exact Bool.noConfusion (hjoin.symm.trans hm.header.merge)
  obtain ⟨leaf, hleaf, hdelta⟩ := membershipDelta_join hjoin hheader.no_srx
    (prepareBundle_ok hepoch.prepare).delta
  obtain ⟨base, hbase, hfits, hlatest, -⟩ := hepoch.applied
  refine ⟨leaf, hleaf, ?_⟩
  have hparent : (ServerRun.start server).parentMembers bundle = base.members := by
    rw [ServerRun.parentMembers, ServerRun.start, hbase]
    rfl
  have hmembers : server'.roster.members bundle.gid = (base.applyDelta prepared.delta).members.keys := by
    rw [GroupRoster.members_eq, hlatest]
    rfl
  rw [addedLeaves, hparent, hmembers]
  refine eq_singleton_of_pairwise_lt ((OrdMap.keys_sorted _).filter _) ?_
  intro x
  rw [List.mem_filter, OrdMap.mem_keys, decide_eq_true_iff, GroupMembership.applyDelta,
    OrdSet.mem_addAll, OrdSet.mem_eraseAll, hdelta, List.mem_singleton]
  constructor
  · rintro ⟨heq | ⟨-, hmember⟩, hnot⟩
    · exact heq
    · exact absurd hmember hnot
  · rintro rfl
    exact ⟨.inl rfl, hfits.joined_not_mem x (by rw [hdelta]; exact List.mem_cons_self)⟩

/-- The join root of an accepted join is the root of the leaves that the server
adds exactly if it is the leaf of the device in the header; nothing compares the
two. -/
theorem join_root_names_added_iff {env : ServerEnv} {bundle : ClientEpochBundle}
    {server server' : CityGServer} {outcome : ServerOutcome}
    (h : CityGServer.acceptEpoch env bundle server = .ok outcome server')
    (hjoin : isMergeAnchor bundle.headerMap = false) :
    canonicalSetRoot env.merkle (addedLeaves bundle server server') =
        .ok bundle.anchor.joinDeltaRoot ↔
      bundle.deviceLeafId env.codec = some bundle.anchor.joinDeltaRoot := by
  obtain ⟨leaf, hleaf, hadded⟩ := addedLeaves_join h hjoin
  rw [hadded, hleaf, canonicalSetRoot, Except.ok.injEq, Option.some.injEq]

section Room
open Bytes32 (fill)

def ticketedRoom : List ServerOp :=
  [.request (.registerGroup roomGid (kemKey 1)),
    .request (.buildJoinTicket roomGid (some (deviceLeaf 10)) ⟨kemKey 9, fill 77⟩)]

theorem join_root_names_added_firstJoin :
    ∃ run ∈ Run.exec (ServerRun.step roomEnv) (.start roomServer) ticketedRoom,
      ∃ outcome server',
        CityGServer.acceptEpoch roomEnv (firstJoin.join 20) run.server = .ok outcome server' ∧
        isMergeAnchor (firstJoin.join 20).headerMap = false ∧
        canonicalSetRoot roomMerkle (addedLeaves (firstJoin.join 20) run.server server') =
          .ok (deviceLeaf 10) := by
  obtain ⟨run, hrun, outcome, server', haccept⟩ :
      ∃ run ∈ Run.exec (ServerRun.step roomEnv) (.start roomServer) ticketedRoom,
        (CityGServer.acceptEpoch roomEnv (firstJoin.join 20)).Succeeds run.server := by
    decide +kernel
  have hjoin : isMergeAnchor (firstJoin.join 20).headerMap = false := by decide +kernel
  have hleaf : (firstJoin.join 20).deviceLeafId roomCodec = some (deviceLeaf 10) := by
    decide +kernel
  exact ⟨run, hrun, outcome, server', haccept, hjoin,
    (join_root_names_added_iff haccept hjoin).mpr hleaf⟩

def foreignRootJoin : ClientEpochBundle :=
  RoomEpoch.join { fsEc := 5, device := 10, joinRoot := fill 99 } 20

/-- The join is accepted and adds the device, which its join root does not name. -/
theorem join_under_foreign_root :
    ∃ run ∈ Run.exec (ServerRun.step roomEnv) (.start roomServer) ticketedRoom,
      ∃ run' ∈ ServerRun.step roomEnv run (.acceptEpoch foreignRootJoin),
        run'.accepted.length = 1 ∧ isMergeAnchor foreignRootJoin.headerMap = false ∧
        addedLeaves foreignRootJoin run.server run'.server = [deviceLeaf 10] ∧
        canonicalSetRoot roomMerkle [deviceLeaf 10] ≠ .ok foreignRootJoin.anchor.joinDeltaRoot := by
  decide +kernel

end Room

end CityG
