import CityG.BarrierSecrecy
import CityG.Server.Memberships

/-!
# Who may expel a member

The set of administrators is looked at only when the update of a merge starts at
a slot that is not the author's. Whom the merge revokes is said by its SRX
payload, which nothing ties to that slot.
-/

namespace CityG

open EStateM (Keeps check)

def GroupState.identities (state : GroupState) : OrdMap Bytes32 Bytes × OrdSet Bytes × Nat :=
  (state.leafDevicePk, state.roomAdminPopKeys, state.nMax)

theorem KeepsOffSlots.identities {state state' : GroupState} (h : state.KeepsOffSlots state') :
    state'.identities = state.identities := by
  obtain ⟨_, _, _, rfl⟩ := h
  rfl

theorem activateSlotLeases_identities (leases : List (Bytes32 × SlotLease)) :
    Keeps GroupState.identities (activateSlotLeases leases) := by
  induction leases with
  | nil => exact .pure _
  | cons e rest ih =>
    refine .bind (.bind ?_ fun _ => .modify fun _ => rfl) fun _ => ih
    exact fun state => KeepsOffSlots.identities (GroupState.reserveSlotLease_offSlots state _ _)

theorem rehydrate_keeps {dec : WireDecoder} {header : HeaderMap} {state state' : GroupState}
    (h : rehydrateReplayJoinFinalizeAuth dec header state = .ok state') :
    state'.identities = state.identities ∧ state'.leafSlotLeases = state.leafSlotLeases := by
  simp only [rehydrateReplayJoinFinalizeAuth, Except.bind_eq_ok, Except.pure_eq_ok] at h
  obtain ⟨record, -, rfl⟩ := h
  cases record <;> exact ⟨rfl, rfl⟩

section Before
variable {env : ServerEnv} {bundle : ClientEpochBundle} {replaying : Bool} {group : GroupState}
  {prepared : Prepared}

theorem stateBefore_ok {leases : List (Bytes32 × SlotLease)} {before : GroupState}
    (h : stateBefore env bundle replaying leases group = .ok before) :
    ∃ activated, activateSlotLeases leases group = .ok () activated ∧
      before.identities = activated.identities ∧
      before.leafSlotLeases = activated.leafSlotLeases := by
  simp only [stateBefore, Except.bind_eq_ok, EStateM.toExcept_eq_ok] at h
  obtain ⟨⟨_, activated⟩, hactivated, h⟩ := h
  refine ⟨activated, hactivated, ?_⟩
  split at h
  · exact rehydrate_keeps h
  · cases h
    exact ⟨rfl, rfl⟩

theorem PreparedBundle.before_identities
    (h : PreparedBundle env bundle replaying group prepared) :
    prepared.before.identities = group.identities := by
  have hcore := Keeps.of_ok refreshHistory_keepsCore h.refreshed
  have hrefreshed : prepared.group.identities = group.identities := by
    have hidentities := congrArg GroupState.identities hcore
    exact hidentities
  obtain ⟨activated, hactivated, hbefore⟩ := stateBefore_ok h.before
  rw [hbefore.1, (activateSlotLeases_identities _).of_ok hactivated, hrefreshed]

theorem PreparedBundle.before_leases (h : PreparedBundle env bundle replaying group prepared)
    (hdevices : group.leafDevicePk.isEmpty = false) :
    prepared.before.leafSlotLeases = group.leafSlotLeases := by
  have hcore := Keeps.of_ok refreshHistory_keepsCore h.refreshed
  have hrefreshed : prepared.group.leafSlotLeases = group.leafSlotLeases := by
    have hleases := congrArg GroupState.leafSlotLeases hcore
    exact hleases
  have hknown : hasExistingGroupState group = true := by
    simp [hasExistingGroupState, hdevices]
  have hleases := h.leases
  rw [deriveImplicitGenesisSlotLeases, if_pos (.inr hknown)] at hleases
  obtain ⟨activated, hactivated, hbefore⟩ := stateBefore_ok h.before
  rw [← Except.pure_eq_ok.mp hleases] at hactivated
  obtain ⟨-, rfl⟩ := EStateM.pure_eq_ok.mp hactivated
  rw [hbefore.2, hrefreshed]

end Before

section Author
variable {state : GroupState} {header : HeaderMap} {revoked : List Bytes32} {reason : Nat}
  {parsed : ParsedBarrierUpdate} {author : GroupState.UpdateAuthor}

def headerDevice (header : HeaderMap) : Option Bytes :=
  (header.get? HDR_POP_PK).bind Value.asBytes

def GroupState.deviceSlots (state : GroupState) (device : Bytes) : List Nat :=
  (state.leafDevicePk.entries.filter fun e => e.2 = device).filterMap fun e =>
    (state.leafSlotLeases.get? e.1).map (·.slotIndex)

theorem authorLeaves_slots {device : Bytes} {leaves : List Bytes32} {slots : OrdSet Nat}
    (h : state.authorLeaves device = .ok (leaves, slots)) :
    ∀ slot ∈ slots, slot ∈ state.deviceSlots device := by
  -- the fold only meets entries of the device
  refine Except.foldlM_invariant (b := ([], OrdMap.empty)) (fun rest author =>
    (∀ e ∈ rest, e ∈ state.leafDevicePk.entries.filter fun e => e.2 = device) ∧
      ∀ slot ∈ author.2, slot ∈ state.deviceSlots device) ?_ ⟨fun _ he => he, ?_⟩ h |>.2
  · rintro e rest author author' ⟨hentries, hslots⟩ hstep
    simp only [Except.bind_eq_ok, Except.pure_eq_ok, requireActiveSlotLease,
      Except.ofOption_eq_ok] at hstep
    obtain ⟨lease, hlease, rfl⟩ := hstep
    refine ⟨fun e' he' => hentries e' (List.mem_cons_of_mem _ he'), ?_⟩
    intro slot hslot
    rcases OrdSet.mem_add.mp hslot with rfl | hslot
    · refine List.mem_filterMap.mpr ⟨e, hentries e List.mem_cons_self, ?_⟩
      rw [hlease, Option.map_some]
    · exact hslots slot hslot
  · exact fun slot hslot => absurd hslot (OrdMap.not_mem_empty slot)

theorem updateAuthor_ok (h : state.updateAuthor header revoked reason parsed = .ok author) :
    ∃ device, headerDevice header = some device ∧ state.leafDevicePk.isEmpty = false ∧
      (parsed.updaterSlotIndex ∈ state.deviceSlots device ∨ device ∈ state.roomAdminPopKeys) := by
  simp only [GroupState.updateAuthor, Except.bind_eq_ok, Except.ofOption_eq_ok,
    Except.ensure_eq_ok] at h
  obtain ⟨device, hdevice, ⟨leaves, slots⟩, hleaves, _, -, _, ⟨hsize, hslot, -⟩, -⟩ := h
  refine ⟨device, hdevice, ?_, ?_⟩
  · by_contra hempty
    -- a device that nobody uses has no slot
    have hentries : state.leafDevicePk.entries = [] := by
      simpa [OrdMap.isEmpty] using hempty
    rw [GroupState.authorLeaves, hentries] at hleaves
    cases hleaves
    cases hsize
  · rcases hslot with hslot | hadmin
    · exact .inl (authorLeaves_slots hleaves _ hslot)
    · rw [GroupState.targetedAdminRevocation, decide_eq_true_iff] at hadmin
      exact .inr hadmin.2.2.2

end Author

def RevokesOther (codec : AnchorCodec) (state : GroupState) (bundle : ClientEpochBundle) : Prop :=
  ∃ leaf ∈ (bundle.delta codec).revoked,
    state.leafDevicePk.get? leaf ≠ headerDevice bundle.headerMap

instance (codec : AnchorCodec) (state : GroupState) (bundle : ClientEpochBundle) :
    Decidable (RevokesOther codec state bundle) :=
  inferInstanceAs (Decidable (∃ leaf ∈ (bundle.delta codec).revoked, _))

def StartsAtOwnSlot (dec : WireDecoder) (state : GroupState) (header : HeaderMap) : Prop :=
  match headerDevice header, parseBarrierUpdate dec header state.nMax with
  | some device, .ok (some parsed) => parsed.updaterSlotIndex ∈ state.deviceSlots device
  | _, _ => False

instance (dec : WireDecoder) (state : GroupState) (header : HeaderMap) :
    Decidable (StartsAtOwnSlot dec state header) := by
  unfold StartsAtOwnSlot
  split <;> infer_instance

/-- From another slot than its own, only an administrator expels somebody. -/
theorem expelled_by_room_admin {env : ServerEnv} {bundle : ClientEpochBundle}
    {server server' : CityGServer} {outcome : ServerOutcome}
    (haccept : CityGServer.acceptEpoch env bundle server = .ok outcome server')
    (hother : RevokesOther env.codec (server.roster.group bundle.gid) bundle)
    (hslot : ¬ StartsAtOwnSlot env.wire (server.roster.group bundle.gid) bundle.headerMap) :
    ∃ device, headerDevice bundle.headerMap = some device ∧
      server.roster.isRoomAdmin bundle.gid device = true := by
  obtain ⟨prepared, accepted, barrier, group, newRoot, hepoch⟩ := acceptEpoch_ok haccept
  have hprepared := prepareBundle_ok hepoch.prepare
  obtain ⟨leaf, hleaf, -⟩ := hother
  rw [ClientEpochBundle.delta, hprepared.delta] at hleaf
  rcases hepoch.join_or_merge with hjoin | ⟨validation, hmerge⟩
  · rw [hjoin.revoked] at hleaf
    exact absurd hleaf List.not_mem_nil
  have hvalidated := hprepared.validated
  rw [hmerge.validation] at hvalidated
  obtain ⟨reason, -, hparsed, _, _, author, _, hupdate⟩ :=
    validateBarrierUpdateAgainstRoster_ok hvalidated
  obtain ⟨device, hdevice, hknown, hauthor⟩ := updateAuthor_ok hupdate.author_ok
  have hidentities := hprepared.before_identities
  simp only [GroupState.identities, Prod.mk.injEq] at hidentities
  obtain ⟨hdevices, hadmins, hnMax⟩ := hidentities
  rw [hdevices] at hknown
  refine ⟨device, hdevice, ?_⟩
  rcases hauthor with hown | hadmin
  · -- the slots of the author are the same in the group
    rw [GroupState.deviceSlots, hdevices, hprepared.before_leases hknown] at hown
    rw [StartsAtOwnSlot, hdevice, ← hnMax, hparsed] at hslot
    exact absurd hown hslot
  · rw [hadmins] at hadmin
    exact decide_eq_true hadmin

section Room
open Bytes32 (fill)

def headByte (hash : Bytes32) : Byte := hash.val.headD 0

def roomTreeByte (entries : PkEntries) : Byte :=
  match computeBarrierTreeHash sumHash 2 entries with
  | .ok hash => headByte hash
  | .error _ => 0

def roomRootsByte (roots : Bytes32 × Bytes32) : Byte :=
  headByte (computeRevocationRootsHash sumHash roots.1 roots.2)

def roomRoot (leaves : List Bytes32) : Bytes32 :=
  match canonicalSetRoot roomMerkle leaves with
  | .ok root => root
  | .error _ => .zero

def administeredJoins (admin : Byte) : List ServerOp :=
  .request (.registerGroupWithAdmin roomGid (kemKey 1) (deviceKey admin)) ::
    (roomJoins (deviceLeaf 10)).tail

def expel (cover : Bytes) : RoomEpoch where
  fsEc := 7
  device := 10
  version := 1
  parentRoot := roomRoot [deviceLeaf 10, deviceLeaf 11]
  revoked := (deviceLeaf 11, deviceLeaf 11)
  devPrev := firstJoin.devCommit
  update := [1, 0, 2, roomRootsByte (deviceLeaf 11, deviceLeaf 11),
    roomTreeByte [[], kemKey 20, []], roomTreeByte [kemKey 30, kemKey 20, []]] ++ cover
  srx := some (deviceLeaf 11)

def ownExpulsion : ClientEpochBundle :=
  (expel [0, 0, 30]).merge firstJoin firstJoin 0 [161, 185, 20, 2] []

/-- From the slot 1 of the expelled device, with a ciphertext for slot 0. -/
def adminExpulsion : ClientEpochBundle :=
  (expel [1, 0, 30, 1, headByte (computeBarrierPkhash sumHash (kemKey 20))]).merge firstJoin
    firstJoin 0 [161, 185, 20, 2] [(HDR_BARRIER_FULL_VERIFICATION_WITNESS, .bytes [1])]

set_option maxRecDepth 1000000 in
/-- Where device 12 is the administrator, device 10 expels device 11 by a merge
of its own. -/
theorem member_expelled_by_member :
    ∃ run ∈ Run.exec (ServerRun.step roomEnv) (.start roomServer) (administeredJoins 12),
      run.server.roster.hasExplicitRoomAdmins roomGid.val = true ∧
      RevokesOther roomCodec (run.server.roster.group roomGid.val) ownExpulsion ∧
      headerDevice ownExpulsion.headerMap = some (deviceKey 10) ∧
      run.server.roster.isRoomAdmin roomGid.val (deviceKey 10) = false ∧
      (CityGServer.acceptEpoch roomEnv ownExpulsion).Succeeds run.server := by
  decide +kernel

set_option maxRecDepth 1000000 in
theorem expelled_by_room_admin_targeted :
    ∃ run ∈ Run.exec (ServerRun.step roomEnv) (.start roomServer) (administeredJoins 10),
      (CityGServer.acceptEpoch roomEnv adminExpulsion).Succeeds run.server ∧
      ∃ device, headerDevice adminExpulsion.headerMap = some device ∧
        run.server.roster.isRoomAdmin roomGid.val device = true := by
  obtain ⟨run, hrun, ⟨outcome, server', haccept⟩, hother, hslot⟩ :
      ∃ run ∈ Run.exec (ServerRun.step roomEnv) (.start roomServer) (administeredJoins 10),
        (CityGServer.acceptEpoch roomEnv adminExpulsion).Succeeds run.server ∧
        RevokesOther roomCodec (run.server.roster.group roomGid.val) adminExpulsion ∧
        ¬ StartsAtOwnSlot roomWire (run.server.roster.group roomGid.val)
          adminExpulsion.headerMap := by
    decide +kernel
  exact ⟨run, hrun, ⟨outcome, server', haccept⟩, expelled_by_room_admin haccept hother hslot⟩

end Room

end CityG
