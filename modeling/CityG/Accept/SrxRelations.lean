import CityG.Accept.Proofs

/-!
# SRX relations of a merge

A payload verified before under the same key is not verified again. The cache
key covers the header but not the group's shadow root.
-/

namespace CityG

open Except (ensure ofOption)

def membershipArrayError : MsphfError → AcceptanceError
  | .witness .projEvalFail => .freeze freezeSrxSetConflictSubset
  | .witness _ => .freeze freezeHashMemMalformed
  | err => .ofMsphf err

def validateMembershipFrom (H : MerkleHash) (expectedRoot : Bytes32) (seen : List Bytes32) :
    List RawMembershipWitness → Except AcceptanceError (List ValidatedMembership)
  | [] => pure []
  | witness :: rest => do
    let entry ← (validateMembershipAgainst H witness expectedRoot).mapError membershipArrayError
    ensure (entry.leafId ∉ seen) (.freeze freezeSrxInvalid)
    let validated ← validateMembershipFrom H expectedRoot (entry.leafId :: seen) rest
    pure (entry :: validated)

def validateMembershipArray (H : MerkleHash) (witnesses : List RawMembershipWitness)
    (expectedRoot : Bytes32) : Except AcceptanceError (List ValidatedMembership) :=
  validateMembershipFrom H expectedRoot [] witnesses

def ensureMemCoverage (leaves : List Bytes32) (witnesses : List ValidatedMembership) :
    Except AcceptanceError Unit :=
  ensure (∀ leaf ∈ leaves, ∃ w ∈ witnesses, w.leafId = leaf) (.freeze freezeSrxSetConflictSubset)

def validateAnchorPoolFrom (prev : Option (Bytes ×ₗ Bytes)) :
    List RawMembershipWitness → Except AcceptanceError Unit
  | [] => pure ()
  | witness :: rest => do
    ensure (witness.leafId.length = 32 ∧ witness.root.length = 32)
      (.freeze freezeHashMemMalformed)
    ensure (witness.path.length ≤ 64) (.freeze freezeHashPathOversize)
    ensure (∀ key ∈ prev, key < toLex (witness.root, witness.leafId))
      (.freeze freezeSrxAnchorPoolUnsorted)
    validateAnchorPoolFrom (some (toLex (witness.root, witness.leafId))) rest

def validateAnchorPool (pool : List RawMembershipWitness) : Except AcceptanceError Unit :=
  validateAnchorPoolFrom none pool

def frontierFrom (H : MerkleHash) : Nat → List Bytes32 → List Bytes32
  | 0, _ => []
  | fuel + 1, level =>
    if level.length ≤ 1 then []
    else (if level.length % 2 = 1 then level.getLast?.toList else []) ++
      frontierFrom H fuel (HashTree.pairUp H.hashNode level)

def canonicalFrontier (H : MerkleHash) (leaves : List Bytes32) :
    Except AcceptanceError (List Bytes32) := do
  ensure (leaves.IsChain (· < ·)) (.freeze freezeSrxInvalid)
  pure (frontierFrom H leaves.length leaves)

/-- A frontier is optional, but a given one must be the canonical one. -/
def ensureFrontier (H : MerkleHash) (leaves : List Bytes32) :
    Option (List Bytes32) → Except AcceptanceError Unit
  | none => pure ()
  | some frontier => do
    let expected ← canonicalFrontier H leaves
    ensure (expected = frontier) (.freeze freezeSrxFrontierMismatch)

def ensureSetRoot (H : MerkleHash) (leaves : List Bytes32) (root : Bytes32) :
    Except AcceptanceError Unit := do
  let computed ← (canonicalSetRoot H leaves).mapError fun _ => .freeze freezeSrxInvalid
  ensure (computed = root) (.freeze freezeSrxInvalid)

structure SrxBinding where
  xkHash : Bytes32
  seedCommit : Bytes32
  rhoCommit : Bytes32
  hpCommit : Bytes32

section
variable (codec : AnchorCodec) (verifiers : AnchorProofs) (roots : AnchorRoots)

def verifySrxSets (srx : SrxPayload) : Except AcceptanceError Unit := do
  validateAnchorPool srx.anchorMemPool
  ensureSetRoot verifiers.merkle srx.joinLeafIds roots.joinDeltaRoot
  ensureSetRoot verifiers.merkle srx.sinceLeafIds roots.revokedSinceRoot
  ensureFrontier verifiers.merkle srx.joinLeafIds srx.joinFrontier
  ensureFrontier verifiers.merkle srx.sinceLeafIds srx.sinceFrontier
  let validatedParent ← validateAnchoredNonmemArray verifiers.merkle srx.joinNonmemParent
    srx.anchorMemPool roots.parentRoot freezeSrxSetConflictParent
  ensureNonmemCoverage srx.joinLeafIds validatedParent
  let validatedRevokedSince ← validateAnchoredNonmemArray verifiers.merkle
    srx.joinNonmemRevokedSince srx.anchorMemPool roots.revokedSinceRoot freezeSrxSetConflictRevoke
  ensureNonmemCoverage srx.joinLeafIds validatedRevokedSince
  let validatedSubset ← validateMembershipArray verifiers.merkle srx.revokedSinceMemInRevoked
    roots.revokedRoot
  ensureMemCoverage srx.sinceLeafIds validatedSubset

def smallwoodInputs (artifacts : ProofArtifacts) (srxRootSwBefore rootSw commit : Bytes32)
    (payload : Bytes) : SmallwoodInputs :=
  let payloadDigest := codec.hL "srx/payload/digest" (.bytes payload)
  { shadowRootBefore := srxRootSwBefore
    shadowRootAfter := rootSw
    parentRoot := roots.parentRoot
    joinRoot := roots.joinDeltaRoot
    revokedSinceRoot := roots.revokedSinceRoot
    revokedRoot := roots.revokedRoot
    srxCommit := commit
    srxPayloadDigest := payloadDigest
    srxBridgeCtx := codec.hL "srx/bridge/v1" (Value.ofFields
      [("parent_root", .bytes roots.parentRoot.val), ("join_root", .bytes roots.joinDeltaRoot.val),
        ("revoked_since_root", .bytes roots.revokedSinceRoot.val),
        ("revoked_root", .bytes roots.revokedRoot.val), ("srx_commit", .bytes commit.val),
        ("srx_payload_digest", .bytes payloadDigest.val), ("srx_root_sw", .bytes rootSw.val)])
    proofMode := artifacts.proofMode
    fsPolicyVersion := artifacts.fsPolicyVersion
    vrfId := artifacts.vrfId }

def verifySrxProof (artifacts : ProofArtifacts) (srxRootSwBefore commit : Bytes32)
    (payload : Bytes) : Except AcceptanceError Unit := do
  let srx ← ofOption (.freeze freezeSrxSmallwoodInvalid) artifacts.srx
  verifiers.smallwoodVerify
    (smallwoodInputs codec roots artifacts srxRootSwBefore srx.1 commit payload) srx.2

structure SrxRead where
  commit : Bytes32
  payload : Bytes
  srx : SrxPayload
  cacheKey : Bytes32

def readSrx (header : HeaderMap) (srxMaxBytes : Nat) (binding : SrxBinding) :
    Except AcceptanceError SrxRead := do
  ensureMergeSrxKeys header true
  let commit ← headerBytes32OrFreeze header HDR_SRX_COMMIT freezeSrxInvalid
  let payload ← headerBytesOr header HDR_SRX_PAYLOAD freezeSrxInvalid
  ensure (payload.length ≤ max srxMaxBytes MIN_SRX_MAX_BYTES) (.freeze freezeSrxInvalid)
  ensure (codec.hL "srx/commit" (.bytes payload) = commit) (.freeze freezeSrxCommitMismatch)
  let value ← ofOption (.freeze freezeSrxInvalid) (codec.fromReader payload)
  let srx ← verifiers.parseSrxPayload value
  ensure (payload.length ≤ max srxMaxBytes MIN_SRX_MAX_BYTES) (.freeze freezeSrxOversizeHint)
  let cacheKey ← codec.computeVckKey binding.xkHash binding.seedCommit binding.rhoCommit
    binding.hpCommit header
  pure ⟨commit, payload, srx, cacheKey⟩

def SrxRead.counts (read : SrxRead) : VckSrxState :=
  ⟨read.srx.joinLeafIds.length, read.srx.sinceLeafIds.length, read.srx.anchorMemPool.length,
    read.payload.length⟩

def ensureSrxRelations (header : HeaderMap) (srxMaxBytes : Nat) (binding : SrxBinding) (now : Nat)
    (artifacts : ProofArtifacts) (srxRootSwBefore : Bytes32) :
    EStateM AcceptanceError VckCache Unit := do
  let read ← EStateM.ofExcept (readSrx codec verifiers header srxMaxBytes binding)
  modify (·.prune now)
  let counts := read.counts
  let skip ← EStateM.ofExcept ((← get).trySkipSrx read.cacheKey counts.joinCount counts.sinceCount
    counts.anchorCount counts.payloadLen counts.payloadLen)
  if skip then pure ()
  else do
    EStateM.ofExcept (verifySrxSets verifiers roots read.srx)
    EStateM.ofExcept
      (verifySrxProof codec verifiers roots artifacts srxRootSwBefore read.commit read.payload)
    modify (·.recordSrx read.cacheKey counts now)

end

end CityG
