import CityG.Accept.SrxChain
import CityG.RosterRevoked
import CityG.Server.Epoch
import CityG.Server.Run

/-!
# Membership sets over the runs of a server

An accepted epoch builds its set from the snapshot of the root it names and
makes it the latest. A leaf that joined on another branch is not in it.
-/

namespace CityG

open EStateM (Preserves)

namespace GroupState

/-- The stored sets stay, and nobody is newly revoked. -/
structure KeepsMembers (state state' : GroupState) : Prop where
  latestRoot : state'.latestRoot = state.latestRoot
  snapshots : state'.snapshots = state.snapshots
  revoked : ∀ leaf ∈ state'.revoked, leaf ∈ state.revoked

namespace KeepsMembers

theorem refl (state : GroupState) : KeepsMembers state state := ⟨rfl, rfl, fun _ h => h⟩

theorem trans {a b c : GroupState} (h : KeepsMembers a b) (h' : KeepsMembers b c) :
    KeepsMembers a c :=
  ⟨h'.latestRoot.trans h.latestRoot, h'.snapshots.trans h.snapshots,
    fun leaf hleaf => h.revoked leaf (h'.revoked leaf hleaf)⟩

variable {state state' : GroupState}

theorem latestSnapshot (h : KeepsMembers state state') :
    state'.latestSnapshot = state.latestSnapshot := by
  rw [GroupState.latestSnapshot, h.latestRoot, h.snapshots, GroupState.latestSnapshot]

theorem baseSnapshot (h : KeepsMembers state state') (baseRoot : Bytes32) :
    state'.baseSnapshot baseRoot = state.baseSnapshot baseRoot := by
  rw [GroupState.baseSnapshot, h.snapshots, GroupState.baseSnapshot]

theorem of_withoutHistory (h : state'.withoutHistory = state.withoutHistory) :
    KeepsMembers state state' := by
  have hroot := congrArg GroupState.latestRoot h
  have hsnapshots := congrArg GroupState.snapshots h
  have hrevoked := congrArg GroupState.revoked h
  exact ⟨hroot, hsnapshots, fun leaf hleaf => hrevoked ▸ hleaf⟩

theorem of_pruneJoinHistory (h : pruneJoinHistory state = .ok state') :
    KeepsMembers state state' := by
  obtain ⟨_, rfl⟩ := pruneJoinHistory_ok h
  exact ⟨rfl, rfl, fun _ h => h⟩

theorem of_adjusts (h : state.Adjusts state') : KeepsMembers state state' := by
  induction h with
  | refl state => exact .refl state
  | trans _ _ ih ih' => exact ih.trans ih'
  | history h => exact of_withoutHistory h
  | joinHistory h => exact of_pruneJoinHistory h
  | kbroad | maxBytes | slots | nextIndex | pending | admins => exact ⟨rfl, rfl, fun _ h => h⟩

theorem of_initializes {env : ServerEnv} (h : state.Initializes env state') :
    KeepsMembers state state' := by
  induction h with
  | trans _ _ ih ih' => exact ih.trans ih'
  | adjusts h => exact of_adjusts h
  | bootstrap => exact ⟨rfl, rfl, fun _ h => h⟩

end KeepsMembers

theorem KeepsOffSlots.keepsMembers {state state' : GroupState} (h : KeepsOffSlots state state') :
    KeepsMembers state state' := by
  obtain ⟨_, _, _, rfl⟩ := h
  exact ⟨rfl, rfl, fun _ h => h⟩

section Edits
variable {state : GroupState}

theorem activateSlotLease_keepsMembers (leaf : Bytes32) (lease : SlotLease) :
    Preserves state.KeepsMembers (activateSlotLease leaf lease) := by
  refine .bind (fun s hs => hs.trans (reserveSlotLease_offSlots s leaf lease).keepsMembers)
    fun _ => .modify fun s hs => hs.trans ⟨rfl, rfl, fun l hl => ?_⟩
  exact (OrdMap.mem_erase.mp hl).2

theorem activateSlotLeases_keepsMembers (leases : List (Bytes32 × SlotLease)) :
    Preserves state.KeepsMembers (activateSlotLeases leases) := by
  induction leases with
  | nil => exact .pure _
  | cons e rest ih => exact .bind (activateSlotLease_keepsMembers e.1 e.2) fun _ => ih

theorem admitLeaves_keepsMembers (fields : MemberFields) (leaves : List Bytes32) :
    Preserves state.KeepsMembers (admitLeaves fields leaves) := by
  induction leaves with
  | nil => exact .pure _
  | cons leaf rest ih =>
    refine .bind (.bind (.check _) fun lease => ?_) fun _ => ih
    refine .bind (activateSlotLease_keepsMembers leaf lease) fun _ => .bind (.check _) fun _ => ?_
    exact .modify fun s hs => hs.trans ⟨rfl, rfl, fun _ h => h⟩

theorem retireLeaves_keepsMembers (leaves : List Bytes32) :
    Preserves state.KeepsMembers (retireLeaves leaves) := by
  induction leaves with
  | nil => exact .pure _
  | cons leaf rest ih =>
    refine .bind (.bind ?_ fun _ => .bind (.check _) fun _ => ?_) fun _ => ih
    · exact fun s hs => hs.trans (releaseSlotLease_offSlots s leaf).keepsMembers
    · exact .modify fun s hs => hs.trans ⟨rfl, rfl, fun _ h => h⟩

theorem changeMembers_keepsMembers (fields : MemberFields) (delta : MembershipDelta) :
    Preserves state.KeepsMembers (changeMembers fields delta) := by
  unfold changeMembers
  split
  · exact .pure _
  · refine .bind (admitLeaves_keepsMembers fields _) fun _ => ?_
    refine .bind (retireLeaves_keepsMembers _) fun _ => ?_
    intro s hs
    refine hs.trans (.of_adjusts ?_)
    exact Adjusts.update (fun _ _ => .joinHistory) s (.refl s)

theorem finalizeJoin_keepsMembers (state : GroupState) (token : Option Bytes32)
    (popPk : Option Bytes) : state.KeepsMembers (state.finalizeJoin token popPk) := by
  unfold finalizeJoin
  dsimp only
  generalize (if token.isSome then popPk.bind _ else none : Option Bytes32) = author
  cases author.bind state.pendingJoinFinalizeAuth.get? with
  | some record =>
    refine ⟨rfl, rfl, fun leaf hleaf => ?_⟩
    exact (OrdSet.mem_eraseAll.mp hleaf).2
  | none => exact .refl state

theorem commitTree_keepsMembers (env : ServerEnv) (gid : Bytes)
    (validation : Option BarrierUpdateValidationOutcome) :
    Preserves state.KeepsMembers (commitTree env gid validation) := by
  have hcore : ∀ {α : Type} {x : EStateM CityGError GroupState α}, KeepsCore x →
      Preserves state.KeepsMembers x :=
    fun h s hs => hs.trans (.of_withoutHistory (h s))
  cases validation with
  | none => exact .pure _
  | some validation =>
    refine .bind (.check _) fun _ => .bind (.check _) fun _ => ?_
    refine .bind (.modify fun s hs => hs.trans ⟨rfl, rfl, fun _ h => h⟩) fun _ => ?_
    refine .bind (hcore (.ensureCurrent _ _ _)) fun _ => .bind (.check _) fun _ => ?_
    exact .bind (hcore (.recordWithMetadata _ _ _ _)) fun _ => hcore (.record _ _ _)

theorem recordCurrentUpdate_keepsMembers (header : HeaderMap) (before state : GroupState)
    (validation : Option BarrierUpdateValidationOutcome) :
    state.KeepsMembers (recordCurrentUpdate header before validation state) := by
  unfold recordCurrentUpdate
  split
  · exact ⟨rfl, rfl, fun _ h => h⟩
  · exact .refl state

end Edits

end GroupState

section Epoch
variable {env : ServerEnv} {bundle : ClientEpochBundle} {server server' : CityGServer}
  {prepared : Prepared} {accepted : AcceptanceContext} {barrier : BarrierGroupState}
  {group : GroupState} {newRoot : Bytes32}

theorem refreshHistory_keepsMembers {state : GroupState} :
    Preserves state.KeepsMembers (refreshHistory env bundle) :=
  fun s hs => hs.trans (.of_withoutHistory (refreshHistory_keepsCore s))

theorem AcceptedEpoch.applied
    (h : AcceptedEpoch env bundle server server' prepared accepted barrier group newRoot) :
    ∃ base, (server.roster.group bundle.gid).baseSnapshot bundle.anchor.parentRoot = some base ∧
      GroupState.Fits prepared.delta base ∧
      (server'.roster.group bundle.gid).latestSnapshot = some (base.applyDelta prepared.delta) ∧
      ∀ leaf ∈ (server'.roster.group bundle.gid).revoked, leaf ∈ prepared.delta.revoked ∨
        leaf ∉ prepared.delta.joined ∧ leaf ∈ (server.roster.group bundle.gid).revoked := by
  obtain ⟨activated, member, changed, fields, token, hsteps⟩ := commitBundle_ok h.commit
  obtain ⟨record, -, happlied⟩ := hsteps.record
  obtain ⟨applied⟩ := GroupState.applyDelta_ok happlied
  have hprepared := prepareBundle_ok h.prepare
  -- before the delta
  have hrefreshed : (server.roster.group bundle.gid).KeepsMembers prepared.group :=
    refreshHistory_keepsMembers.of_ok (.refl _) hprepared.refreshed
  have hactivated : prepared.group.KeepsMembers activated :=
    (GroupState.activateSlotLeases_keepsMembers _).of_ok (.refl _) hsteps.activate
  have hrecorded : activated.KeepsMembers
      ((record.map (activated.withBarrierState barrier).putMergeRecord).getD
        (activated.withBarrierState barrier)) := by
    cases record <;> exact ⟨rfl, rfl, fun _ h => h⟩
  have hbefore := ((hrefreshed.trans hactivated).trans hrecorded).trans
    (GroupState.recordCurrentUpdate_keepsMembers bundle.headerMap prepared.before _
      prepared.validation)
  -- and after it
  have hchanged : member.KeepsMembers changed :=
    (GroupState.changeMembers_keepsMembers _ _).of_ok (.refl _) hsteps.change
  have hcommitted : changed.KeepsMembers group :=
    (GroupState.commitTree_keepsMembers _ _ _).of_ok
      (GroupState.finalizeJoin_keepsMembers _ _ _) hsteps.tree
  have hmarked : group.KeepsMembers (server'.roster.group bundle.gid) := by
    rw [h.roster, GroupRoster.group_insert, if_pos rfl]
    unfold markRotation
    split
    · exact .refl group
    · exact ⟨rfl, rfl, fun _ h => h⟩
  have hafter := (hchanged.trans hcommitted).trans hmarked
  refine ⟨applied.base, ?_, applied.fits, ?_, ?_⟩
  · rw [← hbefore.baseSnapshot]
    exact applied.base_eq
  · rw [hafter.latestSnapshot]
    exact applied.latest_eq
  · intro leaf hleaf
    have hmember := hafter.revoked leaf hleaf
    rw [applied.revoked_eq, OrdSet.mem_addAll, OrdSet.mem_eraseAll] at hmember
    exact hmember.imp id fun ⟨hnot, hrevoked⟩ => ⟨hnot, hbefore.revoked leaf hrevoked⟩

end Epoch

def ClientEpochBundle.delta (codec : AnchorCodec) (bundle : ClientEpochBundle) : MembershipDelta :=
  match bundle.membershipDelta codec with
  | .ok delta => delta
  | .error _ => {}

/-- A leaf that one of the epochs added to the group and no later one revoked;
the newest epoch is the first. -/
def Added (codec : AnchorCodec) (gid : Bytes) (accepted : List ClientEpochBundle) (leaf : Bytes32) :
    Prop :=
  ∃ later bundle earlier, accepted = later ++ bundle :: earlier ∧ bundle.gid = gid ∧
    leaf ∈ (bundle.delta codec).joined ∧
    ∀ next ∈ later, next.gid = gid → leaf ∉ (next.delta codec).revoked

theorem not_added_nil {codec : AnchorCodec} {gid : Bytes} {leaf : Bytes32} :
    ¬ Added codec gid [] leaf := by
  rintro ⟨later, bundle, earlier, heq, -⟩
  exact List.append_ne_nil_of_right_ne_nil later (List.cons_ne_nil bundle earlier) heq.symm

theorem added_cons {codec : AnchorCodec} {gid : Bytes} {bundle : ClientEpochBundle}
    {accepted : List ClientEpochBundle} {leaf : Bytes32} :
    Added codec gid (bundle :: accepted) leaf ↔
      bundle.gid = gid ∧ leaf ∈ (bundle.delta codec).joined ∨
        Added codec gid accepted leaf ∧
          (bundle.gid = gid → leaf ∉ (bundle.delta codec).revoked) := by
  constructor
  · rintro ⟨later, epoch, earlier, heq, hgid, hjoined, hlater⟩
    cases later with
    | nil =>
      cases heq
      exact .inl ⟨hgid, hjoined⟩
    | cons first rest =>
      cases heq
      refine .inr ⟨⟨rest, epoch, earlier, rfl, hgid, hjoined, ?_⟩, hlater _ List.mem_cons_self⟩
      exact fun next hnext => hlater next (List.mem_cons_of_mem _ hnext)
  · rintro (⟨hgid, hjoined⟩ | ⟨⟨later, epoch, earlier, rfl, hgid, hjoined, hlater⟩, hfirst⟩)
    · exact ⟨[], bundle, accepted, rfl, hgid, hjoined, nofun⟩
    · refine ⟨bundle :: later, epoch, earlier, rfl, hgid, hjoined, ?_⟩
      intro next hnext
      rcases List.mem_cons.mp hnext with rfl | hnext
      · exact hfirst
      · exact hlater next hnext

instance decidableAdded (codec : AnchorCodec) (gid : Bytes) (leaf : Bytes32) :
    ∀ accepted, Decidable (Added codec gid accepted leaf)
  | [] => .isFalse not_added_nil
  | _ :: accepted =>
    have := decidableAdded codec gid leaf accepted
    decidable_of_iff _ added_cons.symm

theorem GroupRoster.members_eq (roster : GroupRoster) (gid : Bytes) :
    roster.members gid =
      ((roster.group gid).latestSnapshot.map fun set => set.members.keys).getD [] := by
  unfold GroupRoster.members GroupRoster.group
  cases roster.get? gid with
  | none => rfl
  | some state =>
    rw [Option.bind_some, Option.getD_some]
    cases state.latestSnapshot <;> rfl

namespace ServerRun

def parentMembers (run : ServerRun) (bundle : ClientEpochBundle) : OrdSet Bytes32 :=
  (((run.server.roster.group bundle.gid).baseSnapshot bundle.anchor.parentRoot).map
    GroupMembership.members).getD .empty

/-- The parent of an epoch lacks no member of the latest set that was added and
not revoked since, unless the epoch itself adds or revokes it. -/
def ParentCovers (env : ServerEnv) (run : ServerRun) : ServerOp → Prop
  | .request _ => True
  | .acceptEpoch bundle =>
    ∀ leaf ∈ run.server.roster.members bundle.gid, Added env.codec bundle.gid run.accepted leaf →
      leaf ∈ run.parentMembers bundle ∨ leaf ∈ (bundle.delta env.codec).joined ∨
        leaf ∈ (bundle.delta env.codec).revoked

instance (env : ServerEnv) (run : ServerRun) : ∀ op, Decidable (ParentCovers env run op)
  | .request _ => .isTrue trivial
  | .acceptEpoch bundle => inferInstanceAs (Decidable (∀ leaf ∈ run.server.roster.members bundle.gid,
      Added env.codec bundle.gid run.accepted leaf → leaf ∈ run.parentMembers bundle ∨
        leaf ∈ (bundle.delta env.codec).joined ∨ leaf ∈ (bundle.delta env.codec).revoked))

/-- Every leaf added and not revoked since is in the latest set. -/
def HoldsAdded (env : ServerEnv) (run : ServerRun) : Prop :=
  ∀ gid leaf, Added env.codec gid run.accepted leaf → leaf ∈ run.server.roster.members gid

theorem holdsAdded_accept {env : ServerEnv} {run : ServerRun} {bundle : ClientEpochBundle}
    {server : CityGServer} {outcome : ServerOutcome} (hholds : run.HoldsAdded env)
    (hcovers : run.ParentCovers env (.acceptEpoch bundle))
    (haccept : CityGServer.acceptEpoch env bundle run.server = .ok outcome server) :
    HoldsAdded env ⟨server, bundle :: run.accepted⟩ := by
  obtain ⟨prepared, accepted, barrier, group, newRoot, hepoch⟩ := acceptEpoch_ok haccept
  obtain ⟨base, hbase, hfits, hlatest, -⟩ := hepoch.applied
  have hdelta : bundle.delta env.codec = prepared.delta := by
    unfold ClientEpochBundle.delta
    rw [(prepareBundle_ok hepoch.prepare).delta]
  intro gid leaf hadded
  by_cases hgid : bundle.gid = gid
  · subst hgid
    rw [GroupRoster.members_eq, hlatest, Option.map_some, Option.getD_some, OrdMap.mem_keys]
    rw [GroupMembership.applyDelta, OrdSet.mem_addAll, OrdSet.mem_eraseAll]
    rw [added_cons, hdelta] at hadded
    rcases hadded with ⟨-, hjoined⟩ | ⟨hearlier, hkept⟩
    · exact .inl hjoined
    have hparent := hcovers leaf (hholds _ leaf hearlier) hearlier
    rw [parentMembers, hbase, hdelta] at hparent
    rcases hparent with hmember | hjoined | hrevoked
    · exact .inr ⟨hkept rfl, hmember⟩
    · exact .inl hjoined
    · exact absurd hrevoked (hkept rfl)
  · -- another group keeps its set
    have hother : server.roster.members gid = run.server.roster.members gid := by
      rw [GroupRoster.members_eq, GroupRoster.members_eq, hepoch.roster, GroupRoster.group_insert,
        if_neg (Ne.symm hgid)]
    rw [hother]
    rcases added_cons.mp hadded with ⟨heq, -⟩ | ⟨hearlier, -⟩
    · exact absurd heq hgid
    · exact hholds gid leaf hearlier

theorem holdsAdded_step {env : ServerEnv} {run run' : ServerRun} {op : ServerOp}
    (hholds : run.HoldsAdded env) (hcovers : run.ParentCovers env op)
    (hstep : run.step env op = some run') : run'.HoldsAdded env := by
  cases op with
  | request request =>
    cases hstep
    intro gid leaf hadded
    have hkeeps := GroupState.KeepsMembers.of_initializes
      ((CityGServer.serve_manages env request run.server).group_initializes gid)
    rw [GroupRoster.members_eq, hkeeps.latestSnapshot, ← GroupRoster.members_eq]
    exact hholds gid leaf hadded
  | acceptEpoch bundle =>
    cases haccept : CityGServer.acceptEpoch env bundle run.server with
    | ok outcome server =>
      rw [step, haccept] at hstep
      cases hstep
      exact holdsAdded_accept hholds hcovers haccept
    | error e server =>
      rw [step, haccept] at hstep
      cases hstep
      rw [acceptEpoch_error haccept]
      exact hholds

/-- In a run whose epochs all name a parent that covers the latest set, no leaf
is lost without being revoked. -/
theorem added_leaves_remain {env : ServerEnv} {server : CityGServer} {run : ServerRun}
    (h : Run.Reach (fun r => r = start server) (step env) (ParentCovers env) run) (gid : Bytes)
    (leaf : Bytes32) (hadded : Added env.codec gid run.accepted leaf) :
    leaf ∈ run.server.roster.members gid := by
  have hholds : run.HoldsAdded env := by
    refine h.invariant ?_ fun _ _ _ => holdsAdded_step
    rintro _ rfl gid leaf hnone
    exact absurd hnone not_added_nil
  exact hholds gid leaf hadded

end ServerRun

section Room
open Bytes32 (fill)

def roomPayload (leaf : Byte) : Value :=
  .array [.null, .null, .null, .null, .array [], .null, .array [.bytes (fill leaf).val], .null, .null]

def roomReader : Bytes → Option Value
  | [0] => some (hpEnvelope BARRIER_HP_CONTEXT_AUTHOR_LOCAL)
  | [leaf] => some (roomPayload leaf)
  | _ => none

def roomCover (slot generation key : Byte) (ciphertexts : List NodeCiphertextWire) :
    KemTreeCoverPayloadWire :=
  ⟨slot.val, generation.val, [1 + slot.val, 0], none, ciphertexts, [⟨0, List.replicate 1184 key⟩]⟩

def roomWire : WireDecoder where
  barrierUpdate
    | version :: prev :: nMax :: roots :: before :: after :: payload =>
      some ⟨"barrier-v1", version.val, prev.val, nMax.val, (fill roots).val, (fill before).val,
        (fill after).val, payload⟩
    | _ => none
  coverPayload
    | [slot, generation, key] => some (roomCover slot generation key [])
    | [slot, generation, key, target, hash] => some (roomCover slot generation key
        [⟨0, target.val, List.replicate 16 hash, List.replicate 1088 0, List.replicate 48 0⟩])
    | _ => none
  historyCommitment
    | [view, id, prev, seq] => some ⟨(fill view).val, (fill id).val, (fill prev).val, seq.val⟩
    | _ => none

def roomCodec : AnchorCodec :=
  { sampleCodec with fromReader := roomReader, wire := roomWire }

def roomMerkle : MerkleHash :=
  ⟨fun a b => fill (Fin.ofNat 256 ((a.val.headD 0).val + 2 * (b.val.headD 0).val + 100)),
    fun _ _ _ _ _ _ => .zero⟩

def roomProofs : AnchorProofs :=
  { lenientProofs with
    merkle := roomMerkle
    parseSrxPayload := fun value =>
      match value with
      | .array [_, _, _, _, _, _, .array [.bytes leaf], _, _] =>
        match toBytes32 leaf with
        | some l => .ok ⟨[], [], [⟨leaf, leaf, []⟩], [], none, [l], none, []⟩
        | none => freezeWith freezeSrxInvalid
      | _ => freezeWith freezeSrxInvalid }

def roomEnv : ServerEnv where
  codec := roomCodec
  verifiers := roomProofs
  historyAuthority := fun _ _ _ => .ok ()
  ticketArtifacts := fun _ _ _ _ _ _ _ => .ok ([], [])

def roomGid : Bytes32 := fill 1

def roomServer : CityGServer where
  ctx := { jumpContext with barrierGroups := .empty }
  roster := OrdMap.empty.insert roomGid.val { nMax := 2 }
  barrierLeafCapacityRefusalPercent := 100
  journal := []
  replaying := false

def kemKey (b : Byte) : Bytes := List.replicate 1184 b
def deviceKey (device : Byte) : Bytes := List.replicate 2592 device

def deviceLeaf (device : Byte) : Bytes32 :=
  roomCodec.computeLeafId .perGroup roomGid.val "ML-DSA-65" (deviceKey device)

structure RoomEpoch where
  fsEc : Nat
  device : Byte
  version : Nat := 0
  parentRoot : Bytes32 := .zero
  joinRoot : Bytes32 := .zero
  revoked : Bytes32 × Bytes32 := (.zero, .zero)
  kbroad : Byte := 1
  devPrev : Bytes32 := .zero
  update : Bytes := []
  /-- The leaf that the payload revokes. -/
  srx : Option Bytes32 := none

namespace RoomEpoch
variable (e : RoomEpoch)

def seedCtx : Bytes := [Fin.ofNat 256 e.fsEc]

def weid : Bytes32 :=
  roomCodec.deriveWeEpochId roomGid.val e.parentRoot.val (roomCodec.computeSeedCtxHash e.seedCtx)

def parts : AnchorInstanceParts :=
  ⟨roomGid.val, [], (roomCodec.tsweSaltHash roomGid.val e.parentRoot.val).val, e.parentRoot.val,
    e.joinRoot.val, e.revoked.1.val, e.revoked.2.val, none⟩

def xk : Bytes32 := roomCodec.xkHash ⟨e.parts, e.weid, e.seedCtx, none⟩

def rho : Bytes32 := roomCodec.deriveRhoCommitFromPop (List.replicate 4627 0) e.xk

def digest : Bytes32 :=
  if e.update = [] then .zero else sumHash "barrier/update/digest" (.bytes e.update)

def devCommit : Bytes32 :=
  AcceptanceContext.fsDevChain sumHash
    ⟨deviceKey e.device, e.fsEc, e.devPrev, .zero, e.version, e.digest⟩

def srxProof : Option (Bytes32 × Bytes) := e.srx.map fun _ => (fill 9, [1])

def srxFields : List (Nat × Value) :=
  match e.srx with
  | none => []
  | some leaf =>
    [(HDR_SRX_COMMIT, .bytes (sumHash "srx/commit" (.bytes [leaf.val.headD 0])).val),
      (HDR_SRX_PAYLOAD, .bytes [leaf.val.headD 0]), (HDR_SRX_ROOT_SW, .bytes (fill 9).val),
      (HDR_SRX_SMALLWOOD, .bytes [1])]

def fields (rho : Bytes32) (envelopeContext : String) : List (Nat × Value) :=
  commonFields e.fsEc e.version envelopeContext ++
    [(HDR_SEED_CTX_HASH, .bytes (roomCodec.computeSeedCtxHash e.seedCtx).val),
      (HDR_RHO_COMMIT, .bytes rho.val),
      (HDR_SEED_BUNDLE_COMMIT, .bytes (roomCodec.computeSeedBundleCommit e.seedCtx rho roomGid.val []
        e.parentRoot).val),
      (HDR_KBROAD_PUB, .bytes (kemKey e.kbroad)), (HDR_POP_PK, .bytes (deviceKey e.device)),
      (HDR_PARENT_ROOT, .bytes e.parentRoot.val), (HDR_JOIN_DELTA_ROOT, .bytes e.joinRoot.val),
      (HDR_REVOKED_SINCE_ROOT, .bytes e.revoked.1.val), (HDR_REVOKED_ROOT, .bytes e.revoked.2.val),
      (HDR_PROOFS_COMMIT, .bytes (roomCodec.computeProofsCommitBytes [1] [1] e.srxProof).val),
      (HDR_FS_DEV_PREV_COMMIT, .bytes e.devPrev.val), (HDR_FS_DEV_COMMIT, .bytes e.devCommit.val)] ++
    e.srxFields

def bundle (rho : Bytes32) (header : List (Nat × Value)) : ClientEpochBundle :=
  let binding : HpBindingInputs := ⟨"crs", "params", roomCodec.computeSeedCtxHash e.seedCtx,
    roomCodec.computeSeedCommit e.seedCtx roomGid.val [] e.weid, rho, e.xk, .zero⟩
  ⟨⟨roomGid.val, [], e.parts.tsweSaltHash, e.parentRoot, e.joinRoot, e.revoked.1, e.revoked.2, none,
    e.seedCtx⟩, OrdMap.ofList header, roomCodec.proveHpK binding, binding, none, [], e.weid⟩

def join (leafKey : Byte) : ClientEpochBundle :=
  e.bundle e.rho (e.fields e.rho BARRIER_HP_CONTEXT_AUTHOR_LOCAL ++
    [(HDR_POP_ALG, .text "ML-DSA-65"), (HDR_POP_SIG, .bytes (List.replicate 4627 0)),
      (HDR_BARRIER_LEAF_PK, .bytes (kemKey leafKey))])

def merge (first pivot : RoomEpoch) (reason : Nat) (commitment : Bytes)
    (extra : List (Nat × Value)) : ClientEpochBundle :=
  e.bundle first.rho (e.fields first.rho BARRIER_HP_CONTEXT_BARRIER_RECOVERY ++
    [(HDR_MH_HEADS, .array [.bytes pivot.weid.val]), (HDR_ROLLUP_PIVOT_WEID, .bytes pivot.weid.val),
      (HDR_ROLLUP_FS_MODE, .text "fs-purge"), (HDR_FS_EVOLUTION_BOUNDARY, .bool true),
      (HDR_FS_CHECKPOINT_EC, .ofNat pivot.fsEc), (HDR_BARRIER_UPDATE, .bytes e.update),
      (HDR_BARRIER_UPDATE_REASON, .ofNat reason),
      (HDR_BARRIER_HISTORY_COMMITMENT, .bytes commitment)] ++ extra)

end RoomEpoch

def firstJoin : RoomEpoch := { fsEc := 5, device := 10, joinRoot := deviceLeaf 10 }

def secondJoin (parentRoot : Bytes32) : RoomEpoch :=
  { fsEc := 6, device := 11, parentRoot := parentRoot, joinRoot := deviceLeaf 11 }

def roomJoins (parentRoot : Bytes32) : List ServerOp :=
  [.request (.registerGroup roomGid (kemKey 1)),
    .request (.buildJoinTicket roomGid (some (deviceLeaf 10)) ⟨kemKey 9, fill 77⟩),
    .request (.buildJoinTicket roomGid (some (deviceLeaf 11)) ⟨kemKey 9, fill 78⟩),
    .acceptEpoch (firstJoin.join 20), .acceptEpoch ((secondJoin parentRoot).join 21)]

/-- The second join on the empty room takes the first device out of the set. -/
theorem added_leaf_lost :
    ∃ run ∈ Run.exec (ServerRun.step roomEnv) (.start roomServer) (roomJoins .zero),
      run.accepted.length = 2 ∧ Added roomCodec roomGid.val run.accepted (deviceLeaf 10) ∧
        run.server.roster.members roomGid.val = [deviceLeaf 11] := by
  decide +kernel

theorem added_leaves_remain_in_turn :
    ∃ run ∈ Run.exec (Run.guarded (ServerRun.step roomEnv) (ServerRun.ParentCovers roomEnv))
        (.start roomServer) (roomJoins (deviceLeaf 10)),
      run.accepted.length = 2 ∧ Added roomCodec roomGid.val run.accepted (deviceLeaf 10) ∧
        deviceLeaf 10 ∈ run.server.roster.members roomGid.val := by
  obtain ⟨run, hrun, hlength, hadded⟩ : ∃ run ∈ Run.exec (Run.guarded (ServerRun.step roomEnv)
      (ServerRun.ParentCovers roomEnv)) (.start roomServer) (roomJoins (deviceLeaf 10)),
      run.accepted.length = 2 ∧ Added roomCodec roomGid.val run.accepted (deviceLeaf 10) := by
    decide +kernel
  have hreach : Run.Reach (fun r => r = ServerRun.start roomServer) (ServerRun.step roomEnv)
      (ServerRun.ParentCovers roomEnv) run := Run.reach_of_exec (.start rfl) hrun
  exact ⟨run, hrun, hlength, hadded,
    ServerRun.added_leaves_remain hreach roomGid.val (deviceLeaf 10) hadded⟩

end Room

end CityG
