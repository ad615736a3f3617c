import CityG.BarrierCover
import CityG.BarrierValidate

/-!
# Revoked leaves learn no new path secret

In the tree an accepted update starts from, a revoked leaf and its ancestors
are blank. Ciphertexts go to non-blank nodes only, so none goes to a node whose
key the revoked occupant could hold.
-/

namespace CityG

open HeapTree (Above leftChild rightChild)

theorem isBlank_set_nil (pk : PkEntries) (v w : Nat) :
    isBlank (pk.set w []) v = (decide (v = w) || isBlank pk v) := by
  unfold isBlank
  rw [List.getD_eq_getElem?_getD, List.getD_eq_getElem?_getD, List.getElem?_set]
  by_cases hvw : v = w
  · subst hvw
    by_cases hlt : v < pk.length <;> simp [hlt]
  · simp [hvw, Ne.symm hvw]

theorem isBlank_foldl_set_nil (pk : PkEntries) (nodes : List Nat) (v : Nat) :
    isBlank (nodes.foldl (fun pk node => pk.set node []) pk) v =
      (decide (v ∈ nodes) || isBlank pk v) := by
  induction nodes generalizing pk with
  | nil => simp
  | cons w rest ih =>
    rw [List.foldl_cons, ih, isBlank_set_nil]
    by_cases hvw : v = w <;> simp [hvw]

theorem isBlank_blankLeafAndPath (pk : PkEntries) (leaf v : Nat) :
    isBlank (blankLeafAndPath pk leaf) v = true ↔ Above v leaf ∨ isBlank pk v = true := by
  rw [blankLeafAndPath, clearBarrierPath, if_pos rfl, isBlank_foldl_set_nil, directPathNodes]
  simp [HeapTree.mem_path]

variable {pk : PkEntries} {slot v : Nat} {hL : HashL} {parsed : ParsedBarrierUpdate}
  {state : GroupState} {header : HeaderMap} {revoked : List Bytes32}

theorem isBlank_insertJoinsAndBlankRevoked {nMax : Nat} {byLeaf : OrdMap Nat Bytes}
    {revokedIndices : OrdSet Nat} (hslot : slot ∈ revokedIndices)
    (hv : Above v (leafNode nMax slot)) :
    isBlank (insertJoinsAndBlankRevoked nMax byLeaf revokedIndices pk) v = true := by
  unfold insertJoinsAndBlankRevoked
  generalize byLeaf.entries.foldl _ pk = joined
  have hkeys := OrdMap.mem_keys.mpr hslot
  suffices hfold : ∀ (slots : List Nat) (pk : PkEntries), (slot ∈ slots ∨ isBlank pk v = true) →
      isBlank (slots.foldl (fun pk slot => blankLeafAndPath pk (leafNode nMax slot)) pk) v = true
    from hfold _ _ (.inl hkeys)
  intro slots
  induction slots with
  | nil => simp
  | cons s rest ih =>
    intro pk h
    apply ih
    rw [isBlank_blankLeafAndPath]
    rcases h with h | h
    · rcases List.mem_cons.mp h with rfl | h
      · exact .inr (.inl hv)
      · exact .inl h
    · exact .inr (.inr h)

theorem not_blank_of_mem_resolutionFrom {leafBase fuel t : Nat}
    (h : t ∈ resolutionFrom pk leafBase fuel v) : isBlank pk t = false := by
  induction fuel generalizing v with
  | zero => simp [resolutionFrom] at h
  | succ fuel ih =>
    unfold resolutionFrom at h
    split_ifs at h with _ hb
    · simp at h
    · rw [List.mem_singleton.mp h]
      exact hb
    · simp at h
    · exact (List.mem_append.mp h).elim ih ih

theorem not_blank_of_mem_expectedPairsFrom {leafBase : Nat} {path : List Nat}
    {pairs : List (Nat × Nat)} (h : expectedPairsFrom pk leafBase path = .ok pairs) :
    ∀ p ∈ pairs, isBlank pk p.2 = false := by
  induction path generalizing pairs with
  | nil =>
    obtain rfl := Except.pure_eq_ok.mp h
    simp
  | cons child rest ih =>
    cases rest with
    | nil =>
      obtain rfl := Except.pure_eq_ok.mp h
      simp
    | cons source rest =>
      simp only [expectedPairsFrom, Except.bind_eq_ok, Except.pure_eq_ok] at h
      obtain ⟨sibling, -, later, hlater, rfl⟩ := h
      intro p hp
      rcases List.mem_append.mp hp with hp | hp
      · obtain ⟨t, ht, rfl⟩ := List.mem_map.mp hp
        exact not_blank_of_mem_resolutionFrom ((List.mem_insertionSort _).mp ht)
      · exact ih hlater p hp

theorem not_blank_of_verified {nMax : Nat}
    (h : verifyBarrierUpdatePairsAndTargets hL pk parsed nMax = .ok ()) :
    ∀ ct ∈ parsed.nodeCiphertexts, isBlank pk ct.targetNode = false := by
  simp only [verifyBarrierUpdatePairsAndTargets, collectExpectedPairs, Except.bind_eq_ok,
    Except.pure_eq_ok, Except.ensure_eq_ok] at h
  obtain ⟨_, ⟨pairs, hpairs, rfl⟩, _, hcts, -⟩ := h
  intro ct hct
  have hmem : (ct.sourceNode, ct.targetNode) ∈ pairs := by
    rw [← List.mem_insertionSort pairLE, ← hcts]
    exact List.mem_map_of_mem hct
  exact not_blank_of_mem_expectedPairsFrom hpairs _ hmem

structure UpdateAccepted (hL : HashL) (state : GroupState) (header : HeaderMap)
    (delta : MembershipDelta) (reason : Nat) (byLeaf : OrdMap Nat Bytes) (revoked : OrdSet Nat)
    (author : GroupState.UpdateAuthor) (base : Option PkEntries)
    (outcome : BarrierUpdateValidationOutcome) : Prop where
  joins : state.joinSet header delta.joined outcome.parsed = .ok byLeaf
  revokedIndices : state.revokedIndices delta.revoked = .ok revoked
  author_ok : state.updateAuthor header delta.revoked reason outcome.parsed = .ok author
  base_ok : ∃ base₀, state.snapshotBase byLeaf revoked = .ok base₀ ∧
    state.reclaimBase reason outcome.parsed author byLeaf revoked base₀ = .ok base
  reason_ok : state.checkReasonAllowed reason outcome.parsed
    (decide (outcome.parsed.updaterSlotIndex ∈ byLeaf)) = .ok ()
  token_ok : state.checkFinalizeToken reason outcome.parsed author
    (decide (outcome.parsed.updaterSlotIndex ∈ byLeaf)) = .ok ()
  roots_ok : ∃ revokedSinceRoot revokedRoot,
    headerBytes32 header HDR_REVOKED_SINCE_ROOT "barrier_update malformed" = .ok revokedSinceRoot ∧
    headerBytes32 header HDR_REVOKED_ROOT "barrier_update malformed" = .ok revokedRoot ∧
    outcome.parsed.revocationRootsHash = computeRevocationRootsHash hL revokedSinceRoot revokedRoot
  pre_eq : outcome.snapshotPre = base.getD state.barrierPkEntries
  targets_ok : verifyBarrierUpdatePairsAndTargets hL outcome.snapshotPre outcome.parsed
    state.treeNMax = .ok ()
  post_ok : writeNewPublicKeys outcome.snapshotPre outcome.parsed.newPublicKeys =
    .ok outcome.snapshotPost
  hashes_ok : ∃ before, hashBefore hL state base = .ok before ∧
    hashAfter hL state base outcome.snapshotPost outcome.parsed.newPublicKeys before =
      .ok (outcome.parsed.kemTreeHashAfter, outcome.hashCachePost)

theorem writeNewPublicKeys_length {pk' : PkEntries} {keys : List (Nat × Bytes)}
    (h : writeNewPublicKeys pk keys = .ok pk') : pk'.length = pk.length := by
  refine Except.foldlM_invariant (fun _ written => written.length = pk.length) ?_ rfl h
  intro key rest written written' hlength hstep
  obtain ⟨_, -, hset⟩ := Except.bind_eq_ok.mp hstep
  rw [← Except.pure_eq_ok.mp hset, List.length_set, hlength]

theorem validateParsedUpdate_ok {delta : MembershipDelta} {reason : Nat}
    {supplied : Option HistoryCommitment} {outcome : BarrierUpdateValidationOutcome}
    (h : validateParsedUpdate hL state header delta reason supplied parsed = .ok outcome) :
    outcome.parsed = parsed ∧ ∃ byLeaf revoked author base,
      UpdateAccepted hL state header delta reason byLeaf revoked author base outcome := by
  simp only [validateParsedUpdate, Except.bind_eq_ok, Except.ensure_eq_ok, Except.pure_eq_ok] at h
  obtain ⟨_, _, _, _, _, _, byLeaf, hjoins, revoked, hrevoked, base₀, hbase₀, author, hauthor, base,
    hbase, _, _, _, hreason, _, htoken, before, hbefore, _, _, since, hsince, root, hroot, _,
    hroots, _, htargets, post, hpost, after, hafter, _, hhash, rfl⟩ := h
  refine ⟨rfl, byLeaf, revoked, author, base, hjoins, hrevoked, hauthor, ⟨base₀, hbase₀, hbase⟩,
    hreason, htoken, ⟨since, root, hsince, hroot, hroots⟩, rfl, htargets, hpost, before, hbefore, ?_⟩
  rw [← hhash]
  exact hafter

theorem validateBarrierUpdateAgainstRoster_ok {dec : WireDecoder} {delta : MembershipDelta}
    {outcome : BarrierUpdateValidationOutcome}
    (h : validateBarrierUpdateAgainstRoster hL dec state header delta = .ok (some outcome)) :
    ∃ reason, parseBarrierUpdateReason header = .ok (some reason) ∧
      parseBarrierUpdate dec header state.nMax = .ok (some outcome.parsed) ∧
      ∃ byLeaf revoked author base,
        UpdateAccepted hL state header delta reason byLeaf revoked author base outcome := by
  rw [validateBarrierUpdateAgainstRoster, Except.mapError_eq_ok] at h
  simp only [validateBarrierUpdate, Except.bind_eq_ok] at h
  obtain ⟨_, _, reason, hreason, supplied, _, h⟩ := h
  cases reason with
  | none => simp at h
  | some reason =>
    simp only [Except.bind_eq_ok] at h
    obtain ⟨parsed, hparsed, h⟩ := h
    cases parsed with
    | none => simp at h
    | some parsed =>
      simp only [Except.map_eq_ok, Option.some.injEq] at h
      obtain ⟨_, hvalid, rfl⟩ := h
      obtain ⟨rfl, haccepted⟩ := validateParsedUpdate_ok hvalid
      exact ⟨reason, hreason, hparsed, haccepted⟩

namespace GroupState

def RevokedSlot (state : GroupState) (revoked : List Bytes32) (slot : Nat) : Prop :=
  (∃ leaf lease, state.revokedSlotLeases.get? leaf = some lease ∧ lease.slotIndex = slot) ∨
    ∃ leaf ∈ revoked, ∃ lease, state.leafSlotLeases.get? leaf = some lease ∧ lease.slotIndex = slot

def Reclaims (state : GroupState) (header : HeaderMap) (slot : Nat) : Prop :=
  parseBarrierUpdateReason header = .ok (some 0) ∧
    (∃ leaf lease, state.revokedSlotLeases.get? leaf = some lease ∧ lease.slotIndex = slot) ∧
    ∃ leaf popPk record, header.get? HDR_POP_PK = some (.bytes popPk) ∧
      state.leafDevicePk.get? leaf = some popPk ∧
      state.pendingJoinFinalizeAuth.get? leaf = some record ∧
      parseJoinFinalizeAuthToken header = .ok (some record.token) ∧ record.lease.slotIndex = slot

end GroupState

theorem mem_committedRevokedSlotIndices :
    slot ∈ committedRevokedSlotIndices state ↔
      ∃ leaf lease, state.revokedSlotLeases.get? leaf = some lease ∧ lease.slotIndex = slot := by
  simp only [committedRevokedSlotIndices, OrdSet.mem_ofList, List.mem_map, OrdMap.mem_values_iff]
  constructor
  · rintro ⟨lease, ⟨leaf, hlease⟩, hslot⟩
    exact ⟨leaf, lease, hlease, hslot⟩
  · rintro ⟨leaf, lease, hlease, hslot⟩
    exact ⟨lease, ⟨leaf, hlease⟩, hslot⟩

theorem mem_revokedIndices {indices : OrdSet Nat} (h : state.revokedIndices revoked = .ok indices)
    (hslot : state.RevokedSlot revoked slot) : slot ∈ indices := by
  -- A slot is collected already or still to come.
  let inv : List Bytes32 → OrdSet Nat → Prop := fun rest indices =>
    slot ∈ indices ∨ ∃ leaf ∈ rest, ∃ lease,
      state.leafSlotLeases.get? leaf = some lease ∧ lease.slotIndex = slot
  have hstart : inv revoked (committedRevokedSlotIndices state) :=
    hslot.imp mem_committedRevokedSlotIndices.mpr id
  have hend : inv [] indices := by
    apply Except.foldlM_invariant inv _ hstart h
    rintro leaf rest before after hinv hstep
    simp only [requireActiveSlotLease, Except.bind_eq_ok, Except.ofOption_eq_ok,
      Except.pure_eq_ok] at hstep
    obtain ⟨lease, hlease, rfl⟩ := hstep
    rcases hinv with hmem | ⟨leaf', hleaf', lease', hlease', hidx⟩
    · exact .inl (OrdSet.mem_add.mpr (.inr hmem))
    · rcases List.mem_cons.mp hleaf' with rfl | hrest
      · obtain rfl := Option.some.inj (hlease.symm.trans hlease')
        exact .inl (OrdSet.mem_add.mpr (.inl hidx.symm))
      · exact .inr ⟨leaf', hrest, lease', hlease', hidx⟩
  exact hend.resolve_right (by simp)

theorem updateAuthor_device {reason : Nat} {author : GroupState.UpdateAuthor}
    (h : state.updateAuthor header revoked reason parsed = .ok author) :
    ∃ popPk, header.get? HDR_POP_PK = some (.bytes popPk) ∧
      state.leafDevicePk.get? author.leafId = some popPk ∧
      parseJoinFinalizeAuthToken header = .ok author.finalizeToken := by
  simp only [GroupState.updateAuthor, Except.bind_eq_ok, Except.ofOption_eq_ok, Except.ensure_eq_ok,
    Except.pure_eq_ok] at h
  obtain ⟨popPk, hpop, leaves, hleaves, token, htoken, _, _, leafId, hhead, rfl⟩ := h
  obtain ⟨value, hvalue, hbytes⟩ := Option.bind_eq_some_iff.mp hpop
  have hpk : value = .bytes popPk := by
    cases value <;> simp_all [Value.asBytes]
  refine ⟨popPk, hpk ▸ hvalue, ?_, htoken⟩
  -- Only leaves of the device are collected.
  let inv : List (Bytes32 × Bytes) → List Bytes32 × OrdSet Nat → Prop := fun rest found =>
    (∀ e ∈ rest, state.leafDevicePk.get? e.1 = some popPk) ∧
      ∀ leaf ∈ found.1, state.leafDevicePk.get? leaf = some popPk
  have hend : inv [] leaves := by
    apply Except.foldlM_invariant inv _ _ hleaves
    · rintro e rest before after ⟨hrest, hfound⟩ hstep
      simp only [Except.bind_eq_ok, Except.pure_eq_ok] at hstep
      obtain ⟨_, _, rfl⟩ := hstep
      refine ⟨fun d hd => hrest d (List.mem_cons_of_mem _ hd), ?_⟩
      intro leaf hleaf
      rcases List.mem_append.mp hleaf with hleaf | hleaf
      · exact hfound leaf hleaf
      · rw [List.mem_singleton.mp hleaf]
        exact hrest e List.mem_cons_self
    · refine ⟨?_, by simp⟩
      rintro ⟨leaf, pk⟩ he
      rw [List.mem_filter, OrdMap.mem_entries_iff] at he
      have hpk := of_decide_eq_true he.2
      simp only at hpk
      exact hpk ▸ he.1
  exact hend.2 leafId (List.mem_of_head? hhead)

theorem reclaims_of_token_ok {author : GroupState.UpdateAuthor} {joiner : Bool}
    (hreason : parseBarrierUpdateReason header = .ok (some 0))
    (hauthor : state.updateAuthor header revoked 0 parsed = .ok author)
    (hsome : author.finalizeToken.isSome)
    (htoken : state.checkFinalizeToken 0 parsed author joiner = .ok ()) :
    state.Reclaims header parsed.updaterSlotIndex := by
  obtain ⟨popPk, hpop, hdevice, hparse⟩ := updateAuthor_device hauthor
  obtain ⟨token, heq⟩ := Option.isSome_iff_exists.mp hsome
  unfold GroupState.checkFinalizeToken at htoken
  simp only [heq, Except.ensure_eq_ok] at htoken
  obtain ⟨_, _, hcommitted, hredeemed⟩ := htoken
  unfold GroupState.ticketRedeemed at hredeemed
  split at hredeemed
  next record hrecord =>
    obtain ⟨rfl, hslot⟩ := of_decide_eq_true hredeemed
    exact ⟨hreason, mem_committedRevokedSlotIndices.mp hcommitted, author.leafId, popPk, record,
      hpop, hdevice, hrecord, heq ▸ hparse, hslot⟩
  next => cases hredeemed

theorem snapshotBase_blank {byLeaf : OrdMap Nat Bytes} {revoked : OrdSet Nat}
    {base : Option PkEntries} (h : state.snapshotBase byLeaf revoked = .ok base)
    (hslot : slot ∈ revoked) (hv : Above v (leafNode state.treeNMax slot)) :
    isBlank (base.getD state.barrierPkEntries) v = true := by
  have hne : revoked.isEmpty = false := by
    rw [OrdMap.isEmpty, List.isEmpty_eq_false_iff]
    intro hnil
    have hkeys := OrdMap.mem_keys.mpr hslot
    simp [OrdMap.keys, hnil] at hkeys
  rw [GroupState.snapshotBase, if_neg (by simp [GroupState.canBorrowSnapshotBase, hne])] at h
  simp only [Except.bind_eq_ok, Except.pure_eq_ok] at h
  obtain ⟨pk, _, rfl⟩ := h
  exact isBlank_insertJoinsAndBlankRevoked hslot hv

/-- In the tree an accepted update starts from, every revoked slot and all its
ancestors are blank, and no ciphertext goes to one of them. The one exception is
the slot that the author reclaims. -/
theorem revoked_slot_learns_no_secret (hL : HashL) (dec : WireDecoder) (state : GroupState)
    (header : HeaderMap) (delta : MembershipDelta) (outcome : BarrierUpdateValidationOutcome)
    (h : validateBarrierUpdateAgainstRoster hL dec state header delta = .ok (some outcome))
    (slot : Nat) (hslot : state.RevokedSlot delta.revoked slot)
    (hreclaim : ¬ state.Reclaims header slot) :
    (∀ v, Above v (leafNode state.treeNMax slot) → isBlank outcome.snapshotPre v = true) ∧
      ∀ ct ∈ outcome.parsed.nodeCiphertexts, ¬ Above ct.targetNode (leafNode state.treeNMax slot) := by
  obtain ⟨reason, hreason, _, byLeaf, revoked, author, base, hacc⟩ :=
    validateBarrierUpdateAgainstRoster_ok h
  have hmem := mem_revokedIndices hacc.revokedIndices hslot
  obtain ⟨base₀, hbase₀, hbase⟩ := hacc.base_ok
  have hblank : ∀ v, Above v (leafNode state.treeNMax slot) →
      isBlank outcome.snapshotPre v = true := by
    intro v hv
    rw [hacc.pre_eq]
    unfold GroupState.reclaimBase at hbase
    split_ifs at hbase with hcond
    · obtain ⟨rfl, hsome, _⟩ := hcond
      have hne : slot ≠ outcome.parsed.updaterSlotIndex := by
        rintro rfl
        exact hreclaim (reclaims_of_token_ok hreason hacc.author_ok hsome hacc.token_ok)
      exact snapshotBase_blank hbase (OrdMap.mem_erase.mpr ⟨hne, hmem⟩) hv
    · obtain rfl := Except.ok.inj hbase
      exact snapshotBase_blank hbase₀ hmem hv
  refine ⟨hblank, ?_⟩
  intro ct hct habove
  have hfalse := not_blank_of_verified hacc.targets_ok ct hct
  rw [hblank _ habove] at hfalse
  cases hfalse

def refreshState : GroupState where
  latestRoot := some Bytes32.zero
  snapshots := .ofList [(Bytes32.zero, ⟨.ofList [Bytes32.fill 1, Bytes32.fill 3]⟩)]
  leafSlotLeases := .ofList [(Bytes32.fill 1, ⟨0, 0⟩), (Bytes32.fill 3, ⟨2, 0⟩)]
  revokedSlotLeases := .ofList [(Bytes32.fill 2, ⟨1, 0⟩)]
  leafDevicePk := .ofList [(Bytes32.fill 1, [1])]
  nMax := 4
  barrierInitialized := true
  barrierVersion := 1
  barrierPkEntries := [[9], [9], [9], [1], [2], [3], []]

def refreshHeader : HeaderMap :=
  .ofList [(HDR_POP_PK, .bytes [1]), (HDR_REVOKED_SINCE_ROOT, .bytes Bytes32.zero.val),
    (HDR_REVOKED_ROOT, .bytes Bytes32.zero.val), (HDR_BARRIER_UPDATE, .bytes [0]),
    (HDR_BARRIER_UPDATE_REASON, .ofNat 1)]

def refreshDecoder : WireDecoder where
  barrierUpdate _ := some ⟨"barrier-v1", 2, 1, 4, Bytes32.zero.val, Bytes32.zero.val,
    Bytes32.zero.val, []⟩
  coverPayload _ := some
    { updaterSlotIndex := 0
      updaterSlotGeneration := 0
      pathNodes := [3, 1, 0]
      revokedLeafIndicesHint := none
      nodeCiphertexts :=
        [⟨0, 2, List.replicate 16 0, List.replicate 1088 0, List.replicate 48 0⟩]
      newPublicKeys := [⟨0, List.replicate 1184 5⟩, ⟨1, List.replicate 1184 6⟩] }
  historyCommitment _ := none

def refreshOutcome : BarrierUpdateValidationOutcome where
  parsed :=
    { prevBarrierVersion := 1
      updaterSlotIndex := 0
      updaterSlotGeneration := 0
      treeSize := 4
      revocationRootsHash := Bytes32.zero
      kemTreeHashBefore := Bytes32.zero
      kemTreeHashAfter := Bytes32.zero
      pathNodes := [3, 1, 0]
      nodeCiphertexts := [⟨0, 2, List.replicate 16 0⟩]
      newPublicKeys := [(0, List.replicate 1184 5), (1, List.replicate 1184 6)] }
  snapshotPre := [[], [], [9], [1], [], [3], []]
  snapshotPost := [List.replicate 1184 5, List.replicate 1184 6, [9], [1], [], [3], []]
  hashCachePost := some (.range 7 fun _ => Bytes32.zero)

theorem revoked_slot_learns_no_secret_refresh :
    (∀ v, Above v 4 → isBlank refreshOutcome.snapshotPre v = true) ∧
      ∀ ct ∈ refreshOutcome.parsed.nodeCiphertexts, ¬ Above ct.targetNode 4 := by
  have hvalid : validateBarrierUpdateAgainstRoster (fun _ _ => Bytes32.zero) refreshDecoder
      refreshState refreshHeader {} = .ok (some refreshOutcome) := by decide +kernel
  have hrevoked : refreshState.RevokedSlot [] 1 := .inl ⟨Bytes32.fill 2, ⟨1, 0⟩, by decide, rfl⟩
  have hkept : ¬ refreshState.Reclaims refreshHeader 1 := fun h => absurd h.1 (by decide)
  exact revoked_slot_learns_no_secret _ _ _ _ _ _ hvalid 1 hrevoked hkept

end CityG
