import CityG.Server.Expulsion

/-!
# The revoked root of an accepted revocation

Acceptance checks that the leaves of an SRX payload are in the set behind the
revoked root of the header. The server keeps a revoked set of its own, and
nothing compares the two.
-/

namespace CityG

open EStateM (check Keeps Preserves)

variable {header : HeaderMap} {state : GroupState}

theorem processAnchorOr_accepts {codec : AnchorCodec} {verifiers : AnchorProofs}
    {anchor : AnchorInstance} {hpProof witness : Bytes} {binding : HpBindingInputs}
    {ctx after : AcceptanceContext} {result : AnchorAcceptanceResult}
    (h : processAnchorOr codec verifiers anchor header hpProof binding witness ctx =
      .ok result after) :
    ∃ outcome accepted, acceptAnchor codec verifiers
      ⟨anchor.toAnchorInstanceParts, anchor.weEpochId, header⟩ ctx = .ok outcome accepted := by
  simp only [processAnchorOr, acceptAnchorOr, EStateM.bind_eq_ok, EStateM.check_eq_ok] at h
  obtain ⟨_, _, ⟨_, _, ⟨_, rfl⟩, outcome, accepted, haccept, _⟩, _⟩ := h
  exact ⟨outcome, accepted, haccept⟩

theorem acceptAnchor_payload {codec : AnchorCodec} {verifiers : AnchorProofs} {input : AnchorInput}
    {ctx after : AcceptanceContext} {outcome : AcceptanceOutcome}
    (hmerge : isMergeAnchor input.header = true) (hpayload : HDR_SRX_PAYLOAD ∈ input.header)
    (h : acceptAnchor codec verifiers input ctx = .ok outcome after) :
    isReclaimJoinFinalize input.header = false := by
  obtain ⟨st, staged, related, committed, root, hdone⟩ := acceptAnchor_merge_done hmerge h
  have hsrx := hdone.srx
  rw [stagedSrx, mergeSrx, EStateM.check_bind_eq_ok] at hsrx
  obtain ⟨_, hkeys, -⟩ := hsrx
  simp only [ensureMergeSrxKeys, Except.bind_eq_ok, Except.ensure_eq_ok] at hkeys
  obtain ⟨_, -, hkeys⟩ := hkeys
  split at hkeys
  · next hrequired => exact (srxRequired_iff.mp hrequired).2
  · exact absurd hpayload ((Except.ensure_eq_ok.mp hkeys) _ (by decide))

theorem AcceptedEpoch.payload_not_reclaim {env : ServerEnv} {bundle : ClientEpochBundle}
    {server server' : CityGServer} {prepared : Prepared} {accepted : AcceptanceContext}
    {barrier : BarrierGroupState} {group : GroupState} {newRoot : Bytes32}
    (h : AcceptedEpoch env bundle server server' prepared accepted barrier group newRoot)
    (hmerge : isMergeAnchor bundle.headerMap = true)
    (hpayload : HDR_SRX_PAYLOAD ∈ bundle.headerMap) :
    isReclaimJoinFinalize bundle.headerMap = false := by
  obtain ⟨acceptance, haccepted, -⟩ := h.anchor
  rw [acceptBundleAnchor, Except.mapError_eq_ok, EStateM.toExcept_eq_ok] at haccepted
  obtain ⟨_, _, haccept⟩ := processAnchorOr_accepts haccepted
  exact acceptAnchor_payload hmerge hpayload haccept

namespace GroupState

/-- Devices, tickets and leases are given up, never gained; a lease that was
released in between is one of a retired leaf. -/
structure Retires (leaves : List Bytes32) (state state' : GroupState) : Prop where
  devices : ∀ leaf device, state'.leafDevicePk.get? leaf = some device →
    state.leafDevicePk.get? leaf = some device
  pending : ∀ leaf record, state'.pendingJoinFinalizeAuth.get? leaf = some record →
    state.pendingJoinFinalizeAuth.get? leaf = some record
  leases : ∀ leaf lease, state'.leafSlotLeases.get? leaf = some lease →
    state.leafSlotLeases.get? leaf = some lease
  released : ∀ leaf lease, state'.revokedSlotLeases.get? leaf = some lease →
    state.revokedSlotLeases.get? leaf = some lease ∨
      leaf ∈ leaves ∧ state.leafSlotLeases.get? leaf = some lease

theorem Retires.refl (leaves : List Bytes32) (state : GroupState) : Retires leaves state state :=
  ⟨fun _ _ h => h, fun _ _ h => h, fun _ _ h => h, fun _ _ h => .inl h⟩

variable {leaves : List Bytes32} {state state' : GroupState}

theorem Retires.trans {a b c : GroupState} (h : Retires leaves a b) (h' : Retires leaves b c) :
    Retires leaves a c where
  devices leaf device hget := h.devices leaf device (h'.devices leaf device hget)
  pending leaf record hget := h.pending leaf record (h'.pending leaf record hget)
  leases leaf lease hget := h.leases leaf lease (h'.leases leaf lease hget)
  released leaf lease hget := by
    rcases h'.released leaf lease hget with hreleased | ⟨hleaf, hlease⟩
    · exact h.released leaf lease hreleased
    · exact .inr ⟨hleaf, h.leases leaf lease hlease⟩

theorem releaseSlotLease_ok {leaf : Bytes32} {lease : SlotLease}
    (h : releaseSlotLease leaf state = .ok (some lease) state') :
    state.leafSlotLeases.get? leaf = some lease ∧ ∃ generations free, state' =
      { state with
        slotGenerations := generations
        freeSlots := free
        leafSlotLeases := state.leafSlotLeases.erase leaf } := by
  have hrun : releaseSlotLease leaf state = _ := EStateM.bind_of_ok (t := state) rfl
  replace hrun := hrun.trans (EStateM.bind_of_ok (t := state.ensureSlotAllocatorInitialized) rfl)
  rw [h] at hrun
  cases hleaf : state.ensureSlotAllocatorInitialized.leafSlotLeases.get? leaf with
  | none =>
    rw [hleaf] at hrun
    cases hrun
  | some found =>
    rw [hleaf] at hrun
    cases hrun
    exact ⟨hleaf, _, _, rfl⟩

theorem retireLeaf_retires {leaf : Bytes32} (hleaf : leaf ∈ leaves)
    (h : retireLeaf leaf state = .ok () state') :
    Retires leaves state state' ∧ state'.revoked = state.revoked := by
  simp only [retireLeaf, EStateM.bind_eq_ok, EStateM.check_eq_ok, EStateM.modify_eq_ok,
    Except.ofOption_eq_ok] at h
  obtain ⟨_, released, hreleased, lease, _, ⟨rfl, rfl⟩, rfl⟩ := h
  obtain ⟨hlease, _, _, rfl⟩ := releaseSlotLease_ok hreleased
  refine ⟨⟨?_, ?_, ?_, ?_⟩, rfl⟩
  · intro l device hget
    rw [recordRevocation, OrdMap.get?_erase] at hget
    exact (Option.ite_none_left_eq_some.mp hget).2
  · intro l record hget
    rw [recordRevocation, OrdMap.get?_erase] at hget
    exact (Option.ite_none_left_eq_some.mp hget).2
  · intro l found hget
    rw [recordRevocation, OrdMap.get?_erase] at hget
    exact (Option.ite_none_left_eq_some.mp hget).2
  · intro l found hget
    rw [recordRevocation, OrdMap.get?_insert] at hget
    split at hget
    · next heq =>
        cases hget
        exact .inr ⟨heq ▸ hleaf, heq ▸ hlease⟩
    · exact .inl hget

theorem retireLeaves_retires : ∀ {retired : List Bytes32}
    {state state' : GroupState}, (∀ leaf ∈ retired, leaf ∈ leaves) →
    retireLeaves retired state = .ok () state' →
      Retires leaves state state' ∧ state'.revoked = state.revoked := by
  intro retired
  induction retired with
  | nil =>
    intro state state' _ h
    obtain ⟨-, rfl⟩ := EStateM.pure_eq_ok.mp h
    exact ⟨.refl leaves state, rfl⟩
  | cons leaf rest ih =>
    intro state state' hmem h
    rw [retireLeaves, EStateM.bind_eq_ok] at h
    obtain ⟨_, next, hleaf, hrest⟩ := h
    obtain ⟨hfirst, hrevoked⟩ := retireLeaf_retires (hmem leaf List.mem_cons_self) hleaf
    obtain ⟨hlater, hrevoked'⟩ := ih (fun l hl => hmem l (List.mem_cons_of_mem _ hl)) hrest
    exact ⟨hfirst.trans hlater, hrevoked'.trans hrevoked⟩

theorem Retires.of_eq (hdevices : state'.leafDevicePk = state.leafDevicePk)
    (hpending : state'.pendingJoinFinalizeAuth = state.pendingJoinFinalizeAuth)
    (hleases : state'.leafSlotLeases = state.leafSlotLeases)
    (hreleased : state'.revokedSlotLeases = state.revokedSlotLeases) :
    Retires leaves state state' :=
  ⟨fun _ _ h => hdevices ▸ h, fun _ _ h => hpending ▸ h, fun _ _ h => hleases ▸ h,
    fun _ _ h => .inl (hreleased ▸ h)⟩

theorem Retires.of_withoutHistory (h : state'.withoutHistory = state.withoutHistory) :
    Retires leaves state state' := by
  have hdevices := congrArg GroupState.leafDevicePk h
  have hpending := congrArg GroupState.pendingJoinFinalizeAuth h
  have hleases := congrArg GroupState.leafSlotLeases h
  have hreleased := congrArg GroupState.revokedSlotLeases h
  exact .of_eq hdevices hpending hleases hreleased

theorem changeMembers_retires {fields : MemberFields} {delta : MembershipDelta}
    (hjoined : delta.joined = []) (h : changeMembers fields delta state = .ok () state') :
    Retires delta.revoked state state' ∧ state'.revoked = state.revoked := by
  unfold changeMembers at h
  split at h
  · obtain ⟨-, rfl⟩ := EStateM.pure_eq_ok.mp h
    exact ⟨.refl _ _, rfl⟩
  · rw [hjoined] at h
    simp only [admitLeaves, EStateM.bind_eq_ok, EStateM.pure_eq_ok, EStateM.update_eq_ok] at h
    obtain ⟨_, _, ⟨-, rfl⟩, _, retired, hretired, hpruned⟩ := h
    obtain ⟨history, rfl⟩ := pruneJoinHistory_ok hpruned
    obtain ⟨hretires, hrevoked⟩ := retireLeaves_retires (fun _ h => h) hretired
    exact ⟨hretires.trans (.of_eq rfl rfl rfl rfl), hrevoked⟩

theorem applyDelta_retires {H : MerkleHash} {baseRoot root : Bytes32} {delta : MembershipDelta}
    (h : state.applyDelta H baseRoot delta = (state', .ok root)) : Retires leaves state state' := by
  obtain ⟨_, _, _, _, rfl⟩ := applyDelta_edits h
  exact .of_eq rfl rfl rfl rfl

end GroupState

theorem authorLeaves_eq {device : Bytes} {leaves : List Bytes32} {slots : OrdSet Nat}
    (h : state.authorLeaves device = .ok (leaves, slots)) :
    leaves = (state.leafDevicePk.entries.filter fun e => e.2 = device).map Prod.fst := by
  have hfold := Except.foldlM_invariant (b := (([], OrdMap.empty) : List Bytes32 × OrdSet Nat))
    (fun rest author => author.1 ++ rest.map Prod.fst =
      (state.leafDevicePk.entries.filter fun e => e.2 = device).map Prod.fst) ?_ rfl h
  · simpa using hfold
  · intro e rest author author' hinv hstep
    simp only [Except.bind_eq_ok, Except.pure_eq_ok] at hstep
    obtain ⟨lease, -, rfl⟩ := hstep
    simpa using hinv

theorem UpdateAccepted.redeemed {hL : HashL} {delta : MembershipDelta} {reason : Nat}
    {byLeaf : OrdMap Nat Bytes} {revoked : OrdSet Nat} {author : GroupState.UpdateAuthor}
    {base : Option PkEntries} {outcome : BarrierUpdateValidationOutcome} {token : Bytes32}
    (h : UpdateAccepted hL state header delta reason byLeaf revoked author base outcome)
    (htoken : parseJoinFinalizeAuthToken header = .ok (some token)) (hreason : reason ≠ 0) :
    ∃ record, state.pendingJoinFinalizeAuth.get? author.leafId = some record ∧
      record.lease.slotIndex ∉ committedRevokedSlotIndices state ∧
      ∀ leaf device, headerDevice header = some device →
        state.leafDevicePk.get? leaf = some device → leaf = author.leafId := by
  have hauthor := h.author_ok
  simp only [GroupState.updateAuthor, Except.bind_eq_ok, Except.ofOption_eq_ok, Except.ensure_eq_ok,
    Except.pure_eq_ok, htoken, Except.ok.injEq] at hauthor
  obtain ⟨device, hdevice, ⟨leaves, slots⟩, hleaves, _, rfl, _, ⟨-, -, hone, hslot⟩, leafId, hhead,
    rfl⟩ := hauthor
  have hcheck := h.token_ok
  unfold GroupState.checkFinalizeToken at hcheck
  dsimp only at hcheck hone hhead
  split at hcheck
  · next heq => cases heq
  · next heq =>
      -- a join finalisation
      cases heq
      rw [Except.ensure_eq_ok, GroupState.ticketRedeemed] at hcheck
      split at hcheck
      · next record hrecord =>
          rw [decide_eq_true_iff] at hcheck
          refine ⟨record, hrecord, ?_, ?_⟩
          · intro hrevoked
            rw [hcheck.2] at hrevoked
            cases (hslot hrevoked).1
          · intro leaf device' hdevice' hleaf
            obtain rfl := Option.some.inj (hdevice.symm.trans hdevice')
            have hmem : leaf ∈ leaves := by
              rw [authorLeaves_eq hleaves]
              refine List.mem_map.mpr ⟨(leaf, device), List.mem_filter.mpr ⟨?_, by simp⟩, rfl⟩
              exact OrdMap.mem_entries_iff.mpr hleaf
            obtain ⟨only, rfl⟩ := List.length_eq_one_iff.mp hone
            cases hhead
            exact List.mem_singleton.mp hmem
      · cases hcheck
  · exact absurd rfl hreason
  · next heq => cases heq
  · cases hcheck

theorem mem_of_token {token : Bytes32} (h : parseJoinFinalizeAuthToken header = .ok (some token)) :
    HDR_JOIN_FINALIZE_AUTH ∈ header := by
  by_contra hnot
  have hget := OrdMap.not_mem_iff.mp hnot
  rw [parseJoinFinalizeAuthToken, headerBytes32Opt, headerOptionalBytes, hget] at h
  cases h

theorem reason_of_parse {reason : Nat} (h : parseBarrierUpdateReason header = .ok (some reason)) :
    (header.get? HDR_BARRIER_UPDATE_REASON).bind Value.asU64 = some reason := by
  unfold parseBarrierUpdateReason at h
  split at h
  · split_ifs at h
    cases h
  · split at h
    · next found hfound =>
        split_ifs at h
        rw [hfound]
        exact congrArg some (Option.some.inj (Except.ok.inj h))
    · cases h

/-- Without joins the state that an update is checked against is the group's,
up to a ticket found again in a replay. -/
theorem PreparedBundle.before_eq {env : ServerEnv} {bundle : ClientEpochBundle} {replaying : Bool}
    {group : GroupState} {prepared : Prepared}
    (h : PreparedBundle env bundle replaying group prepared) (hjoined : prepared.delta.joined = []) :
    prepared.implicitLeases = [] ∧ (prepared.before = prepared.group ∨
      ∃ record, prepared.before = prepared.group.insertPendingNew record) := by
  have hleases := h.leases
  have hmissing : missingLease group prepared.delta.joined = false := by
    simp [missingLease, hjoined]
  rw [deriveImplicitGenesisSlotLeases, if_pos (.inl hmissing), Except.pure_eq_ok] at hleases
  refine ⟨hleases.symm, ?_⟩
  have hbefore := h.before
  rw [← hleases] at hbefore
  simp only [stateBefore, activateSlotLeases, Except.bind_eq_ok, EStateM.toExcept_eq_ok,
    EStateM.pure_eq_ok] at hbefore
  obtain ⟨⟨_, _⟩, ⟨-, rfl⟩, hbefore⟩ := hbefore
  split at hbefore
  · simp only [rehydrateReplayJoinFinalizeAuth, Except.bind_eq_ok, Except.pure_eq_ok] at hbefore
    obtain ⟨record, -, hrecord⟩ := hbefore
    cases record with
    | none => exact .inl hrecord.symm
    | some record => exact .inr ⟨record, hrecord.symm⟩
  · exact .inl (Except.pure_eq_ok.mp hbefore).symm

/-- The author redeems no ticket for the slot of a leaf that the payload
revokes. -/
def RedeemsElsewhere (codec : AnchorCodec) (state : GroupState) (bundle : ClientEpochBundle) :
    Prop :=
  HDR_JOIN_FINALIZE_AUTH ∈ bundle.headerMap →
    ∀ ticket ∈ state.pendingJoinFinalizeAuth.entries,
      state.leafDevicePk.get? ticket.1 = headerDevice bundle.headerMap →
      ∀ leaf ∈ (bundle.delta codec).revoked,
        (state.leafSlotLeases.get? leaf).map (·.slotIndex) ≠ some ticket.2.lease.slotIndex

instance (codec : AnchorCodec) (state : GroupState) (bundle : ClientEpochBundle) :
    Decidable (RedeemsElsewhere codec state bundle) :=
  inferInstanceAs (Decidable (_ → _))

theorem finalizeJoin_revoked {token : Option Bytes32} {device : Option Bytes}
    (h : ∀ leaf pk record, token.isSome = true → device = some pk →
      state.leafDevicePk.get? leaf = some pk →
      state.pendingJoinFinalizeAuth.get? leaf = some record →
      ∀ revoked lease, state.revokedSlotLeases.get? revoked = some lease →
        lease.slotIndex ≠ record.lease.slotIndex) :
    (state.finalizeJoin token device).revoked = state.revoked := by
  unfold GroupState.finalizeJoin
  dsimp only
  split
  · next record hrecord =>
      obtain ⟨author, hauthor, hpending⟩ := Option.bind_eq_some_iff.mp hrecord
      split_ifs at hauthor with htoken
      obtain ⟨pk, hdevice, hfind⟩ := Option.bind_eq_some_iff.mp hauthor
      obtain ⟨e, he, rfl⟩ := Option.map_eq_some_iff.mp hfind
      have hentry : state.leafDevicePk.get? e.1 = some pk := by
        have hpk : e.2 = pk := by simpa using List.find?_some he
        rw [← hpk]
        exact OrdMap.mem_entries_iff.mp (List.mem_of_find?_eq_some he)
      have hnone := h e.1 pk record htoken hdevice hentry hpending
      have hempty : (state.revokedSlotLeases.filter
          fun r => r.2.slotIndex == record.lease.slotIndex).keys = [] := by
        refine List.eq_nil_iff_forall_not_mem.mpr fun leaf hleaf => ?_
        obtain ⟨lease, hlease⟩ := OrdMap.mem_keys_iff.mp hleaf
        rw [OrdMap.get?_filter] at hlease
        obtain ⟨hget, hslot⟩ := Option.filter_eq_some_iff.mp hlease
        exact hnone leaf lease hget (by simpa using hslot)
      change state.revoked.eraseAll (state.revokedSlotLeases.filter
        fun r => r.2.slotIndex == record.lease.slotIndex).keys = state.revoked
      rw [hempty]
      rfl
  · rfl

section Epoch
variable {env : ServerEnv} {bundle : ClientEpochBundle} {server server' : CityGServer}
  {prepared : Prepared} {accepted : AcceptanceContext} {barrier : BarrierGroupState}
  {group : GroupState} {newRoot : Bytes32}

theorem requiredJoinBarrierLeafPk_merge {header : HeaderMap} {joined : List Bytes32}
    {ekLeaf : Option Bytes} (hheader : MergeHeader header)
    (h : requiredJoinBarrierLeafPk header joined = .ok ekLeaf) : joined = [] := by
  unfold requiredJoinBarrierLeafPk at h
  split at h
  · next hnil => exact hnil
  · rw [OrdMap.not_mem_iff.mp hheader.no_leafPk] at h
    cases h

theorem commitTree_keepsRevoked (env : ServerEnv) (gid : Bytes)
    (validation : Option BarrierUpdateValidationOutcome) :
    Keeps GroupState.revoked (commitTree env gid validation) := by
  have hcore : ∀ {α : Type} {x : EStateM CityGError GroupState α}, KeepsCore x →
      Keeps GroupState.revoked x := by
    intro α x h s
    have hrevoked := congrArg GroupState.revoked (h s)
    exact hrevoked
  cases validation with
  | none => exact .pure _
  | some validation =>
    refine .bind (.check _) fun _ => .bind (.check _) fun _ => ?_
    refine .bind (.modify fun _ => rfl) fun _ => ?_
    refine .bind (hcore (.ensureCurrent _ _ _)) fun _ => .bind (.check _) fun _ => ?_
    exact .bind (hcore (.recordWithMetadata _ _ _ _)) fun _ => hcore (.record _ _ _)

theorem GroupRoster.revoked_eq (roster : GroupRoster) (gid : Bytes) :
    roster.revoked gid = (roster.group gid).revoked.keys := by
  unfold GroupRoster.revoked GroupRoster.group
  cases roster.get? gid <;> rfl

/-- The ticket that a payload's epoch redeems is on a slot without revoked
leases, before and after the leaves of the payload were retired. -/
theorem AcceptedEpoch.redeems_elsewhere
    (h : AcceptedEpoch env bundle server server' prepared accepted barrier group newRoot)
    (hpayload : HDR_SRX_PAYLOAD ∈ bundle.headerMap)
    {validation : BarrierUpdateValidationOutcome} (hmerge : Merge bundle prepared validation)
    (hjoined : prepared.delta.joined = [])
    (helsewhere : RedeemsElsewhere env.codec (server.roster.group bundle.gid) bundle)
    {changed : GroupState}
    (hretires : (server.roster.group bundle.gid).Retires prepared.delta.revoked changed)
    {token : Option Bytes32} (htoken : parseJoinFinalizeAuthToken bundle.headerMap = .ok token) :
    (changed.finalizeJoin token (headerDevice bundle.headerMap)).revoked = changed.revoked := by
  have hprepared := prepareBundle_ok h.prepare
  have hcore := Keeps.of_ok refreshHistory_keepsCore hprepared.refreshed
  refine finalizeJoin_revoked fun leaf pk record hsome hdevice hleaf hpending released lease hlease => ?_
  obtain ⟨token, rfl⟩ := Option.isSome_iff_exists.mp hsome
  replace hleaf := hretires.devices leaf pk hleaf
  replace hpending := hretires.pending leaf record hpending
  rcases hretires.released released lease hlease with hbefore | ⟨hrevoked, hactive⟩
  · -- a revoked lease of the group: the ticket's slot was checked against it
    have hvalidated := hprepared.validated
    rw [hmerge.validation] at hvalidated
    obtain ⟨reason, hparse, -, _, _, author, _, hupdate⟩ :=
      validateBarrierUpdateAgainstRoster_ok hvalidated
    have hreason : reason ≠ 0 := by
      rintro rfl
      have hreclaim := h.payload_not_reclaim hmerge.header.merge hpayload
      rw [isReclaimJoinFinalize, decide_eq_false_iff_not] at hreclaim
      exact hreclaim ⟨mem_of_token htoken, reason_of_parse hparse⟩
    obtain ⟨found, hfound, hslot, hunique⟩ := hupdate.redeemed htoken hreason
    have hdevices := congrArg GroupState.leafDevicePk hcore
    have htickets := congrArg GroupState.pendingJoinFinalizeAuth hcore
    have hleases := congrArg GroupState.revokedSlotLeases hcore
    have hkept : prepared.group.pendingJoinFinalizeAuth.get? leaf = some record := by
      rw [← hpending]
      exact congrArg (·.get? leaf) htickets
    have hsame : prepared.before.leafDevicePk = (server.roster.group bundle.gid).leafDevicePk ∧
        prepared.before.revokedSlotLeases = (server.roster.group bundle.gid).revokedSlotLeases ∧
        prepared.before.pendingJoinFinalizeAuth.get? leaf = some record := by
      rcases (hprepared.before_eq hjoined).2 with heq | ⟨ticket, heq⟩
      · rw [heq]
        exact ⟨hdevices, hleases, hkept⟩
      · rw [heq]
        refine ⟨hdevices, hleases, ?_⟩
        rw [GroupState.insertPendingNew, OrdMap.get?_insertNew]
        split
        · next hsame =>
            rw [← hsame, hkept]
            rfl
        · exact hkept
    obtain ⟨hdevices, hleases, hticket⟩ := hsame
    obtain rfl := hunique leaf pk hdevice (by rw [hdevices]; exact hleaf)
    obtain rfl := Option.some.inj (hfound.symm.trans hticket)
    intro heq
    refine hslot (OrdSet.mem_ofList.mpr (List.mem_map.mpr ⟨lease, ?_, heq⟩))
    rw [hleases]
    exact OrdMap.mem_values_iff.mpr ⟨released, hbefore⟩
  · -- the lease of a leaf that this payload revokes
    intro heq
    refine helsewhere (mem_of_token htoken) (leaf, record) (OrdMap.mem_entries_iff.mpr hpending) ?_
      released ?_ ?_
    · rw [hleaf, hdevice]
    · rw [ClientEpochBundle.delta, hprepared.delta]
      exact hrevoked
    · rw [hactive, Option.map_some, heq]

theorem AcceptedEpoch.revoked_eq
    (h : AcceptedEpoch env bundle server server' prepared accepted barrier group newRoot)
    (hpayload : HDR_SRX_PAYLOAD ∈ bundle.headerMap)
    (helsewhere : RedeemsElsewhere env.codec (server.roster.group bundle.gid) bundle) :
    (server'.roster.group bundle.gid).revoked =
      (server.roster.group bundle.gid).revoked.addAll prepared.delta.revoked := by
  obtain ⟨validation, hmerge⟩ := h.join_or_merge.resolve_left fun hjoin =>
    hjoin.header.no_srx hpayload
  have hprepared := prepareBundle_ok h.prepare
  obtain ⟨activated, member, changed, fields, token, hsteps⟩ := commitBundle_ok h.commit
  have hjoined := requiredJoinBarrierLeafPk_merge hmerge.header hsteps.ekLeaf
  -- up to the delta
  have hcore := Keeps.of_ok refreshHistory_keepsCore hprepared.refreshed
  have hrevoked := congrArg GroupState.revoked hcore
  have hactivated := hsteps.activate
  rw [(hprepared.before_eq hjoined).1] at hactivated
  obtain ⟨-, rfl⟩ := EStateM.pure_eq_ok.mp hactivated
  obtain ⟨record, -, hdelta⟩ := hsteps.record
  generalize hrecorded : GroupState.recordCurrentUpdate bundle.headerMap prepared.before
    prepared.validation _ = recorded at hdelta
  have hrecord : prepared.group.Retires prepared.delta.revoked recorded ∧
      recorded.revoked = prepared.group.revoked := by
    rw [← hrecorded]
    unfold GroupState.recordCurrentUpdate
    cases record <;> split <;> exact ⟨.of_eq rfl rfl rfl rfl, rfl⟩
  -- the delta and its leaves
  obtain ⟨applied⟩ := GroupState.applyDelta_ok hdelta
  obtain ⟨hchanged, hkept⟩ := GroupState.changeMembers_retires hjoined hsteps.change
  have hretires : (server.roster.group bundle.gid).Retires prepared.delta.revoked changed :=
    (((GroupState.Retires.of_withoutHistory hcore).trans hrecord.1).trans
      (GroupState.applyDelta_retires hdelta)).trans hchanged
  -- and the rest of the commit
  have hfinal := h.redeems_elsewhere hpayload hmerge hjoined helsewhere hretires hsteps.token_eq
  have hpopPk : fields.popPk = headerDevice bundle.headerMap := hsteps.popPk
  have htree := (commitTree_keepsRevoked _ _ _).of_ok hsteps.tree
  have hmarked : (markRotation prepared.delta group).revoked = group.revoked := by
    unfold markRotation
    split <;> rfl
  rw [h.roster, GroupRoster.group_insert, if_pos rfl, hmarked, htree, hpopPk, hfinal, hkept,
    applied.revoked_eq, hrecord.2, hjoined]
  exact congrArg (·.addAll prepared.delta.revoked) hrevoked

end Epoch

/-- The revoked root of a header is the root of the leaves. -/
def NamesRevoked (H : MerkleHash) (header : HeaderMap) (revoked : List Bytes32) : Prop :=
  match canonicalSetRoot H revoked with
  | .ok root => (header.get? HDR_REVOKED_ROOT).bind Value.asBytes = some root.val
  | .error _ => False

instance (H : MerkleHash) (header : HeaderMap) (revoked : List Bytes32) :
    Decidable (NamesRevoked H header revoked) := by
  unfold NamesRevoked
  split <;> infer_instance

/-- After an accepted payload the revoked root names the server's revoked set
exactly if it named the set before, with the leaves of the payload. -/
theorem revoked_root_names_set_iff {env : ServerEnv} {bundle : ClientEpochBundle}
    {server server' : CityGServer} {outcome : ServerOutcome}
    (haccept : CityGServer.acceptEpoch env bundle server = .ok outcome server')
    (hpayload : HDR_SRX_PAYLOAD ∈ bundle.headerMap)
    (helsewhere : RedeemsElsewhere env.codec (server.roster.group bundle.gid) bundle) :
    NamesRevoked env.merkle bundle.headerMap (server'.roster.revoked bundle.gid) ↔
      NamesRevoked env.merkle bundle.headerMap ((server.roster.group bundle.gid).revoked.addAll
        (bundle.delta env.codec).revoked).keys := by
  obtain ⟨prepared, accepted, barrier, group, newRoot, hepoch⟩ := acceptEpoch_ok haccept
  rw [GroupRoster.revoked_eq, hepoch.revoked_eq hpayload helsewhere, ClientEpochBundle.delta,
    (prepareBundle_ok hepoch.prepare).delta]

section Room
open Bytes32 (fill)

set_option maxRecDepth 1000000 in
theorem revoked_root_names_set_ownExpulsion :
    ∃ run ∈ Run.exec (ServerRun.step roomEnv) (.start roomServer) (roomJoins (deviceLeaf 10)),
      ∃ outcome server',
        CityGServer.acceptEpoch roomEnv ownExpulsion run.server = .ok outcome server' ∧
        NamesRevoked roomMerkle ownExpulsion.headerMap (server'.roster.revoked roomGid.val) := by
  obtain ⟨run, hrun, ⟨outcome, server', haccept⟩, hpayload, helsewhere, hnames⟩ :
      ∃ run ∈ Run.exec (ServerRun.step roomEnv) (.start roomServer) (roomJoins (deviceLeaf 10)),
        (CityGServer.acceptEpoch roomEnv ownExpulsion).Succeeds run.server ∧
        HDR_SRX_PAYLOAD ∈ ownExpulsion.headerMap ∧
        RedeemsElsewhere roomCodec (run.server.roster.group roomGid.val) ownExpulsion ∧
        NamesRevoked roomMerkle ownExpulsion.headerMap
          ((run.server.roster.group roomGid.val).revoked.addAll
            (ownExpulsion.delta roomCodec).revoked).keys := by
    decide +kernel
  exact ⟨run, hrun, outcome, server', haccept,
    (revoked_root_names_set_iff haccept hpayload helsewhere).mpr hnames⟩

/-- The payloads of this room show their leaf beside one that nobody revoked. -/
def crowdedEnv : ServerEnv :=
  { roomEnv with
    verifiers := { roomProofs with
      parseSrxPayload := fun value => do
        let srx ← roomProofs.parseSrxPayload value
        pure { srx with
          revokedSinceMemInRevoked := srx.sinceLeafIds.map fun leaf =>
            ⟨leaf.val, (roomRoot [leaf, fill 255]).val, [⟨(fill 255).val, 0⟩]⟩ } } }

def crowdedRoots : Bytes32 × Bytes32 := (deviceLeaf 11, roomRoot [deviceLeaf 11, fill 255])

def crowdedExpulsion : ClientEpochBundle :=
  RoomEpoch.merge { expel [] with
    revoked := crowdedRoots
    update := [1, 0, 2, roomRootsByte crowdedRoots, roomTreeByte [[], kemKey 20, []],
      roomTreeByte [kemKey 30, kemKey 20, []], 0, 0, 30] }
    firstJoin firstJoin 0 [161, 185, 20, 2] []

set_option maxRecDepth 1000000 in
/-- The revocation is accepted under a root that also names a leaf the server
does not hold as revoked. -/
theorem revoked_root_names_stranger :
    ∃ run ∈ Run.exec (ServerRun.step crowdedEnv) (.start roomServer) (roomJoins (deviceLeaf 10)),
      ∃ run' ∈ ServerRun.step crowdedEnv run (.acceptEpoch crowdedExpulsion),
        run'.accepted.length = 3 ∧ HDR_SRX_PAYLOAD ∈ crowdedExpulsion.headerMap ∧
        run'.server.roster.revoked roomGid.val = [deviceLeaf 11] ∧
        NamesRevoked roomMerkle crowdedExpulsion.headerMap [deviceLeaf 11, fill 255] ∧
        ¬ NamesRevoked roomMerkle crowdedExpulsion.headerMap
          (run'.server.roster.revoked roomGid.val) := by
  decide +kernel

end Room

end CityG
