import CityG.BarrierHistory

/-!
# Checking a barrier update against the roster

The server rebuilds the tree the update must start from, with the joins that no
update has taken up yet and without the revoked leaves. It then compares the
update's hashes, ciphertext targets and new keys with that tree.
-/

namespace CityG

structure BarrierUpdateValidationOutcome where
  parsed : ParsedBarrierUpdate
  snapshotPre : PkEntries
  snapshotPost : PkEntries
  hashCachePost : Option BarrierHashCache
  deriving DecidableEq

def updaterInvalid : CityGError := .freeze freezeBarrierUpdaterInvalid

def mapBarrierUpdateValidationError : CityGError → CityGError
  | .invalidInput _ => .freeze freezeBarrierUpdateMalformed
  | other => other

def clearBarrierPath (pk : PkEntries) (leafNode : Nat) (includeLeaf : Bool) : PkEntries :=
  (if includeLeaf then directPathNodes leafNode else (directPathNodes leafNode).tail).foldl
    (fun pk node => pk.set node []) pk

def blankInternalPathFromLeaf (pk : PkEntries) (leafNode : Nat) : PkEntries :=
  clearBarrierPath pk leafNode false

def blankLeafAndPath (pk : PkEntries) (leafNode : Nat) : PkEntries :=
  clearBarrierPath pk leafNode true

def insertJoinsAndBlankRevoked (nMax : Nat) (byLeaf : OrdMap Nat Bytes)
    (revokedIndices : OrdSet Nat) (pk : PkEntries) : PkEntries :=
  let joined := byLeaf.entries.foldl (fun pk e =>
    blankInternalPathFromLeaf (pk.set (leafNode nMax e.1) e.2) (leafNode nMax e.1)) pk
  revokedIndices.keys.foldl (fun pk slot => blankLeafAndPath pk (leafNode nMax slot)) joined

namespace GroupState
variable (state : GroupState)

def treeNMax : Nat := max state.nMax 1

def activeLeaves : OrdSet Bytes32 :=
  match state.latestSnapshot with
  | some snapshot => snapshot.members
  | none => .empty

def canBorrowSnapshotBase (byLeaf : OrdMap Nat Bytes) (revokedIndices : OrdSet Nat) : Bool :=
  state.barrierInitialized ∧ state.barrierPkEntries.length = 2 * state.treeNMax - 1 ∧
    byLeaf.isEmpty ∧ revokedIndices.isEmpty

def committedEntries : Except CityGError PkEntries :=
  if state.barrierInitialized then buildPkEntriesView state
  else buildAllBlankPkEntries state.treeNMax

def snapshotBase (byLeaf : OrdMap Nat Bytes) (revokedIndices : OrdSet Nat) :
    Except CityGError (Option PkEntries) :=
  if state.canBorrowSnapshotBase byLeaf revokedIndices then .ok none
  else do
    let pk ← state.committedEntries
    pure (some (insertJoinsAndBlankRevoked state.treeNMax byLeaf revokedIndices pk))

/-- Members whose join no update has taken up yet, by slot. At genesis that is
every member. -/
def unresolvedJoins (parsed : ParsedBarrierUpdate) : Except CityGError (OrdMap Nat Bytes) :=
  if parsed.prevBarrierVersion = 0 ∧ state.barrierVersion = 0 then do
    let snapshot ← Except.ofOption (.freeze freezeBarrierGenesisRequired) state.latestSnapshot
    snapshot.members.keys.foldlM (fun byLeaf leaf => do
      let lease ← requireActiveSlotLease state leaf
      checkedInsertUnique byLeaf lease.slotIndex ((state.leafBarrierPublic.get? leaf).getD [])
        "duplicate active cover leaf allocation") .empty
  else
    state.joinHistory.foldlM (fun byLeaf record =>
      if parsed.prevBarrierVersion < record.barrierVersion ∧ record.leafId ∈ state.activeLeaves then
        checkedInsertUnique byLeaf record.slotIndex record.ekLeaf
          "duplicate active cover leaf allocation"
      else .ok byLeaf) .empty

def joinSet (header : HeaderMap) (joined : List Bytes32) (parsed : ParsedBarrierUpdate) :
    Except CityGError (OrdMap Nat Bytes) := do
  let byLeaf ← state.unresolvedJoins parsed
  let joinEk := ((header.get? HDR_BARRIER_LEAF_PK).bind Value.asBytes).getD []
  joined.foldlM (fun byLeaf leaf => do
    let lease ← requirePendingOrActiveSlotLease state leaf
    checkedInsertUnique byLeaf lease.slotIndex joinEk "duplicate active cover leaf allocation")
    byLeaf

def revokedIndices (revoked : List Bytes32) : Except CityGError (OrdSet Nat) :=
  revoked.foldlM (fun indices leaf => do
    let lease ← requireActiveSlotLease state leaf
    pure (OrdSet.add indices lease.slotIndex)) (committedRevokedSlotIndices state)

structure UpdateAuthor where
  leafId : Bytes32
  finalizeToken : Option Bytes32

def authorLeaves (popPk : Bytes) : Except CityGError (List Bytes32 × OrdSet Nat) :=
  (state.leafDevicePk.entries.filter fun e => e.2 = popPk).foldlM (fun author e => do
    let lease ← requireActiveSlotLease state e.1
    pure (author.1 ++ [e.1], OrdSet.add author.2 lease.slotIndex)) ([], .empty)

/-- A room administrator revokes the occupant of the updater slot. -/
def targetedAdminRevocation (header : HeaderMap) (revoked : List Bytes32) (reason : Nat)
    (parsed : ParsedBarrierUpdate) (popPk : Bytes) (authorLeafIds : List Bytes32) : Bool :=
  reason = 0 ∧
    (∃ leaf ∈ revoked, leaf ≠ authorLeafIds.headD Bytes32.zero ∧
      (state.leafSlotLeases.get? leaf).map (·.slotIndex) = some parsed.updaterSlotIndex) ∧
    HDR_BARRIER_FULL_VERIFICATION_WITNESS ∈ header ∧ popPk ∈ state.roomAdminPopKeys

/-- The one member whose device signed, on the updater slot. A revoked slot
updates only to be reclaimed. -/
def updateAuthor (header : HeaderMap) (revoked : List Bytes32) (reason : Nat)
    (parsed : ParsedBarrierUpdate) : Except CityGError UpdateAuthor := do
  let popPk ← Except.ofOption updaterInvalid ((header.get? HDR_POP_PK).bind Value.asBytes)
  let author ← state.authorLeaves popPk
  let token ← parseJoinFinalizeAuthToken header
  Except.ensure (author.2.size = 1 ∧
    (parsed.updaterSlotIndex ∈ author.2 ∨
      state.targetedAdminRevocation header revoked reason parsed popPk author.1) ∧
    author.1.length = 1 ∧
    (parsed.updaterSlotIndex ∈ committedRevokedSlotIndices state → reason = 0 ∧ token.isSome))
    updaterInvalid
  let leafId ← Except.ofOption updaterInvalid author.1.head?
  pure ⟨leafId, token⟩

/-- The base again without the reclaimed slot among the revoked ones. -/
def reclaimBase (reason : Nat) (parsed : ParsedBarrierUpdate) (author : UpdateAuthor)
    (byLeaf : OrdMap Nat Bytes) (revokedIndices : OrdSet Nat) (base : Option PkEntries) :
    Except CityGError (Option PkEntries) :=
  if reason = 0 ∧ author.finalizeToken.isSome ∧
      parsed.updaterSlotIndex ∈ committedRevokedSlotIndices state then
    state.snapshotBase byLeaf (revokedIndices.erase parsed.updaterSlotIndex)
  else .ok base

def revocationChanged (parsed : ParsedBarrierUpdate) : Bool :=
  state.barrierInitialized ∧ parsed.revocationRootsHash ≠ state.barrierRootsHash

def checkReasonAllowed (reason : Nat) (parsed : ParsedBarrierUpdate) (unresolvedJoiner : Bool) :
    Except CityGError Unit :=
  if state.revocationChanged parsed then
    Except.ensure (reason ≠ 1 ∧ reason ≠ 2) (.freeze freezeBarrierNonRevocationReasonForbidden)
  else if state.barrierInitialized then
    Except.ensure ((reason = 2 → unresolvedJoiner) ∧ (reason = 1 → unresolvedJoiner = false))
      (.freeze freezeBarrierProactiveForbidden)
  else .ok ()

def ticketRedeemed (author : UpdateAuthor) (token : Bytes32) (parsed : ParsedBarrierUpdate) : Bool :=
  match state.pendingJoinFinalizeAuth.get? author.leafId with
  | some record => record.token = token ∧ record.lease.slotIndex = parsed.updaterSlotIndex
  | none => false

def checkFinalizeToken (reason : Nat) (parsed : ParsedBarrierUpdate) (author : UpdateAuthor)
    (unresolvedJoiner : Bool) : Except CityGError Unit :=
  match reason, author.finalizeToken with
  | 2, none => .error updaterInvalid
  | 2, some token => Except.ensure (state.ticketRedeemed author token parsed) updaterInvalid
  | 0, some token =>
    Except.ensure (unresolvedJoiner ∧ state.revocationChanged parsed ∧
      parsed.updaterSlotIndex ∈ committedRevokedSlotIndices state ∧
      state.ticketRedeemed author token parsed) updaterInvalid
  | _, none => .ok ()
  | _, some _ => .error barrierUpdateMalformed

def checkHistoryCommitment (supplied : Option HistoryCommitment) : Except CityGError Unit :=
  if state.currentHistoryCommitment.historyViewId ≠ Bytes32.zero ∧
      state.currentHistoryCommitment.historyCommitmentId ≠ Bytes32.zero then do
    let supplied ← Except.ofOption barrierUpdateMalformed supplied
    Except.ensure (supplied = state.currentHistoryCommitment)
      (.freeze freezeBarrierTreeSnapshotAuthFailure)
  else .ok ()

end GroupState

section
variable (hL : HashL)

def verifyBarrierUpdatePairsAndTargets (pk : PkEntries) (parsed : ParsedBarrierUpdate)
    (treeNMax : Nat) : Except CityGError Unit := do
  let expectedPairs ← collectExpectedPairs pk parsed.pathNodes treeNMax
  Except.ensure (parsed.nodeCiphertexts.map (fun ct => (ct.sourceNode, ct.targetNode)) =
    expectedPairs) (.freeze freezeBarrierExpectedpairsFailure)
  parsed.nodeCiphertexts.foldlM (fun _ ct => do
    let targetPk ← Except.ofOption barrierUpdateMalformed pk[ct.targetNode]?
    Except.ensure (ct.targetPkHash = (computeBarrierPkhash hL targetPk).val.take 16)
      (.freeze freezeBarrierExpectedpairsFailure)) ()

def writeNewPublicKeys (pk : PkEntries) (keys : List (Nat × Bytes)) : Except CityGError PkEntries :=
  keys.foldlM (fun pk key => do
    Except.ensure (key.1 < pk.length) barrierUpdateMalformed
    pure (pk.set key.1 key.2)) pk

def hashBefore (state : GroupState) :
    Option PkEntries → Except CityGError (Bytes32 × BarrierHashCache)
  | none => .ok (state.kemTreeHashAfter, .empty)
  | some pk =>
    computeBarrierSubtreeHashCached hL state.treeNMax pk none pk.length 0 .empty

def hashAfter (state : GroupState) (base : Option PkEntries) (post : PkEntries)
    (keys : List (Nat × Bytes)) (before : Bytes32 × BarrierHashCache) :
    Except CityGError (Bytes32 × Option BarrierHashCache) :=
  if keys.isEmpty then .ok (before.1, state.barrierHashCache)
  else do
    let (hash, after, beforeCache) ← computeBarrierTreeHashWithChanges hL state.treeNMax post
      (OrdSet.ofList (keys.map Prod.fst)) (if base.isNone then state.barrierHashCache else none)
      before.2
    let merged := ((state.barrierHashCache.getD .empty).extend beforeCache).extend after
    pure (hash, if merged.size = 2 * state.treeNMax - 1 then some merged else none)

variable (dec : WireDecoder) (state : GroupState) (header : HeaderMap) (delta : MembershipDelta)

def validateParsedUpdate (reason : Nat) (supplied : Option HistoryCommitment)
    (parsed : ParsedBarrierUpdate) : Except CityGError BarrierUpdateValidationOutcome := do
  state.checkHistoryCommitment supplied
  ensureDistinctActiveSlotIndices state
  ensureJoinSlotIndicesAvailable state delta.joined
  let byLeaf ← state.joinSet header delta.joined parsed
  let revokedIndices ← state.revokedIndices delta.revoked
  let base ← state.snapshotBase byLeaf revokedIndices
  let author ← state.updateAuthor header delta.revoked reason parsed
  let base ← state.reclaimBase reason parsed author byLeaf revokedIndices base
  Except.ensure (parsed.updaterSlotIndex ≤ U32_MAX) barrierUpdateMalformed
  let unresolvedJoiner := decide (parsed.updaterSlotIndex ∈ byLeaf)
  state.checkReasonAllowed reason parsed unresolvedJoiner
  state.checkFinalizeToken reason parsed author unresolvedJoiner
  let before ← hashBefore hL state base
  Except.ensure (before.1 = parsed.kemTreeHashBefore) (.freeze freezeBarrierTreeHashChainFailure)
  let revokedSinceRoot ← headerBytes32 header HDR_REVOKED_SINCE_ROOT "barrier_update malformed"
  let revokedRoot ← headerBytes32 header HDR_REVOKED_ROOT "barrier_update malformed"
  Except.ensure (parsed.revocationRootsHash =
    computeRevocationRootsHash hL revokedSinceRoot revokedRoot) barrierUpdateMalformed
  let pre := base.getD state.barrierPkEntries
  verifyBarrierUpdatePairsAndTargets hL pre parsed state.treeNMax
  let post ← writeNewPublicKeys pre parsed.newPublicKeys
  let after ← hashAfter hL state base post parsed.newPublicKeys before
  Except.ensure (after.1 = parsed.kemTreeHashAfter) (.freeze freezeBarrierTreeHashChainFailure)
  pure ⟨parsed, pre, post, after.2⟩

def updateFits : Bool :=
  match header.get? HDR_BARRIER_UPDATE with
  | some (.bytes raw) => raw.length ≤ state.maxBarrierUpdateBytes
  | _ => true

def validateBarrierUpdate : Except CityGError (Option BarrierUpdateValidationOutcome) := do
  Except.ensure (updateFits state header) (.freeze freezeBarrierUpdateMalformed)
  let reason ← parseBarrierUpdateReason header
  let supplied ← parseBarrierHistoryCommitment dec header
  match reason with
  | none => do
    Except.ensure (HDR_BARRIER_HISTORY_COMMITMENT ∉ header) barrierUpdateMalformed
    pure none
  | some reason => do
    match ← parseBarrierUpdate dec header state.nMax with
    | none => pure none
    | some parsed => some <$> validateParsedUpdate hL state header delta reason supplied parsed

def validateBarrierUpdateAgainstRoster :
    Except CityGError (Option BarrierUpdateValidationOutcome) :=
  (validateBarrierUpdate hL dec state header delta).mapError mapBarrierUpdateValidationError

end

end CityG
