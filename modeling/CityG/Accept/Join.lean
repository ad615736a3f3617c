import CityG.Accept.SrxRelations

/-!
# The join pipeline

`accept_anchor_join` in the order of the source: the replay guard, the policy
version, the base timestamp and the sequence number are written while checks
are still to come. The device chain is verified twice, the second time right
before `joinCommit`.
-/

namespace CityG

open Except (ensure ofOption)
open EStateM (check)

abbrev AcceptM := EStateM AcceptanceError AcceptanceContext

inductive AcceptanceKind where
  | nonMerge
  | merge (retiredHeads : List Bytes32)
  deriving DecidableEq

structure AcceptanceOutcome where
  kind : AcceptanceKind
  weEpochId : Bytes32
  wid : Bytes32
  seedCtxHash : Bytes32
  seedCommit : Bytes32
  rhoCommit : Bytes32
  hpCommit : Bytes32
  xkHash : Bytes32
  acceptSeq : Nat
  acceptTime : Nat
  mhNote : Option String
  fsEpochCommit : Option Bytes32
  fsEc : Option Nat
  fsDevCommit : Option Bytes32
  deriving DecidableEq

/-- The policy version is fixed by the first anchor that carries one. -/
def ensureFsPolicyVersion (header : HeaderMap) : AcceptM Unit := do
  let version ← check fun _ => headerU64OrFreeze header HDR_FS_POLICY_VERSION freezeFsJoinMissing
  check fun ctx => ensure ((∀ expected ∈ ctx.allowedFsPolicyVersion, expected = toString version) ∧
      ∀ existing ∈ ctx.fsPolicyVersion, existing = toString version)
    (.freeze freezeFsPolicyVersionUnsupported)
  modify (·.setFsPolicyVersion (toString version))

/-- So is the base timestamp; without caps no anchor passes. -/
def ensureFsBaseTs (header : HeaderMap) : AcceptM Unit := do
  let baseTs ← check fun _ => headerU64OrFreeze header HDR_FS_EPOCH_BASE_TS freezeFsJoinMissing
  check fun ctx => ensure (∀ stored ∈ ctx.fsBaseTs, stored = baseTs) (.freeze freezeFsBaseMismatch)
  modify (·.setFsBaseTs baseTs)
  check fun ctx => ensure (ctx.fsCaps.windowPeriods ≠ 0) (.freeze freezeFsPolicyWindowIncompatible)

structure FsFields where
  fsEc : Nat
  fsEpochCommit : Bytes32
  fsDevPrevCommit : Bytes32
  fsDevCommit : Bytes32
  barrierVersion : Nat
  deriving DecidableEq

def FsFields.verification (fs : FsFields) (popPk : Bytes) (barrierUpdateDigest : Bytes32) :
    AcceptanceContext.DeviceChainVerification :=
  ⟨popPk, fs.fsEc, fs.fsDevPrevCommit, fs.fsDevCommit, fs.barrierVersion, barrierUpdateDigest⟩

structure AnchorIds where
  weEpochId : Bytes32
  seedCommit : Bytes32
  wid : Bytes32
  anchor : AnchorInstance
  xkHash : Bytes32

def deriveAnchorIds (codec : AnchorCodec) (parts : AnchorInstanceParts) (weEpochIdClaim : Bytes32)
    (parentRoot : Bytes32) (seedCtx : Bytes) (hpCommit : Option Bytes32) :
    Except AcceptanceError AnchorIds := do
  ensureTsweSalt codec parts parentRoot
  let seedCtxHash := codec.computeSeedCtxHash seedCtx
  let weEpochId := codec.deriveWeEpochId parts.gid parts.parentRoot seedCtxHash
  ensure (weEpochId = weEpochIdClaim) (.freeze freezeEpochidMismatch)
  let anchor : AnchorInstance := ⟨parts, weEpochId, seedCtx, hpCommit⟩
  pure ⟨weEpochId, codec.computeSeedCommit seedCtx parts.gid parts.cat weEpochId,
    codec.computeWindowId parts.gid parentRoot seedCtxHash, anchor, codec.xkHash anchor⟩

/-- `next_accept_seq`, which is used up even if the anchor fails later. -/
def takeAcceptSeq : AcceptM Nat := modifyGet fun ctx => (ctx.nextAcceptSeq, ctx.bumpAcceptSeq)

/-- The witness seeded by the joiner, if any, is used by one anchor. -/
def takeWitness : AcceptM (Option Bytes) :=
  modifyGet fun ctx => (ctx.pendingCapssWitness, ctx.takePendingCapssWitness)

section Join
variable (codec : AnchorCodec) (verifiers : AnchorProofs) (parts : AnchorInstanceParts)
  (header : HeaderMap)

def joinPrelude (ctx : AcceptanceContext) : Except AcceptanceError AnchorRoots := do
  ensureSuite codec ctx parts.gid header
  ensureJoinSrxKeysAbsent header
  let leafPk ← headerBytesOr header HDR_BARRIER_LEAF_PK freezeHashCbor
  ensure (leafPk.length = BARRIER_LEAF_PUBLIC_KEY_BYTES) (.freeze freezeHashCbor)
  ensureRoots parts header

/-- The guard remembers the commitment even if the anchor fails later. -/
def recordRho (now : Nat) : AcceptM Bytes32 := do
  let rhoCommit ← check fun _ => headerBytes32OrFreeze header HDR_RHO_COMMIT freezeRhoParity
  let recorded ← modifyGet fun ctx =>
    let result := ctx.rhoGuard.record parts.gid parts.parentRoot rhoCommit now
    (result.1, ctx.setRhoGuard result.2)
  check fun _ => ensure (recorded = true) (.freeze freezeRhoParity)
  pure rhoCommit

structure JoinSeed where
  seedCtx : Bytes
  seedCtxHash : Bytes32
  hpCommit : Bytes32
  seedBundleCommit : Bytes32
  popPk : Bytes

def joinSeed (parentRoot rhoCommit : Bytes32) : Except AcceptanceError JoinSeed := do
  let seedCtxHash ← headerBytes32OrFreeze header HDR_SEED_CTX_HASH freezeSeedctxMismatch
  let hpCommit ← headerBytes32OrFreeze header HDR_HP_COMMIT freezeFieldMissing
  let seedCtx := codec.buildAnchorSeedCtx header
  ensure (codec.computeSeedCtxHash seedCtx = seedCtxHash) (.freeze freezeSeedctxMismatch)
  let seedBundleCommit ← headerBytes32OrFreeze header HDR_SEED_BUNDLE_COMMIT freezeSeedctxMismatch
  ensure (codec.computeSeedBundleCommit seedCtx rhoCommit parts.gid parts.cat parentRoot =
    seedBundleCommit) (.freeze freezeSeedctxMismatch)
  let popPk ← headerBytesOrFreeze header HDR_POP_PK
  pure ⟨seedCtx, seedCtxHash, hpCommit, seedBundleCommit, popPk⟩

def joinFs (popPk : Bytes) (barrierUpdateDigest : Bytes32) : AcceptM FsFields := do
  check fun _ => ensure (HDR_FS_EC ∈ header) (.freeze freezeFsJoinMissing)
  ensureFsPolicyVersion header
  let fsEc ← check fun _ => headerU64OrFreeze header HDR_FS_EC freezeFsJoinMissing
  let fsEpochCommit ← check fun _ =>
    headerBytes32OrFreeze header HDR_FS_EPOCH_COMMIT freezeFsJoinMissing
  ensureFsBaseTs header
  let fsDevPrevCommit ← check fun _ =>
    headerBytes32OrFreeze header HDR_FS_DEV_PREV_COMMIT freezeFsJoinMissing
  let fsDevCommit ← check fun _ =>
    headerBytes32OrFreeze header HDR_FS_DEV_COMMIT freezeFsJoinMissing
  let barrierVersion ← check fun _ =>
    headerU64OrFreeze header HDR_BARRIER_VERSION freezeFsJoinMissing
  let fs : FsFields := ⟨fsEc, fsEpochCommit, fsDevPrevCommit, fsDevCommit, barrierVersion⟩
  check fun ctx => ctx.verifyDeviceChainState codec.hL parts.gid
    (fs.verification popPk barrierUpdateDigest)
  pure fs

def joinBootstrap (barrierVersion : Nat) (rhoCommit : Bytes32) (seed : JoinSeed) (ids : AnchorIds)
    (ctx : AcceptanceContext) : Except AcceptanceError Unit :=
  let isAllZero := fun bytes : Bytes => bytes.all (· == 0)
  if barrierVersion = 0 ∧ isAllZero parts.parentRoot ∧ isAllZero parts.revokedSincePrevRoot ∧
      isAllZero parts.revokedRoot then
    validateBootstrap codec header verifiers ids.anchor
      ⟨seed.hpCommit, seed.seedCtxHash, rhoCommit, seed.seedBundleCommit⟩ ctx.bootstrapPolicy
  else ensureBootstrapAbsent header

def capssInputs (rhoCommit : Bytes32) (seed : JoinSeed) (fs : FsFields) (ids : AnchorIds)
    (artifacts : ProofArtifacts) (crsId paramsId : String) : CapssInputs where
  seedCommit := ids.seedCommit
  seedBundleCommit := seed.seedBundleCommit
  rhoCommit := rhoCommit
  hpCommit := seed.hpCommit
  xkHash := ids.xkHash
  crsId := crsId
  paramsId := paramsId
  proofMode := artifacts.proofMode
  fsPolicyVersion := artifacts.fsPolicyVersion
  vrfId := artifacts.vrfId
  parentRoot := parts.parentRoot
  joinDeltaRoot := parts.joinDeltaRoot
  revokedSincePrevRoot := parts.revokedSincePrevRoot
  revokedRoot := parts.revokedRoot
  fsEpochCommit := fs.fsEpochCommit
  fsEc := fs.fsEc
  fsDevPrevCommit := fs.fsDevPrevCommit
  fsDevCommit := fs.fsDevCommit

def vrfCtx (rhoCommit : Bytes32) (seed : JoinSeed) (fs : FsFields) (ids : AnchorIds)
    (artifacts : ProofArtifacts) (crsId paramsId : String) : VrfCtx where
  xkHash := ids.xkHash
  rhoCommit := rhoCommit
  seedBundleCommit := seed.seedBundleCommit
  crsId := crsId
  hpCommit := seed.hpCommit
  paramsId := paramsId
  parentRoot := parts.parentRoot
  joinDeltaRoot := parts.joinDeltaRoot
  revokedSincePrevRoot := parts.revokedSincePrevRoot
  revokedRoot := parts.revokedRoot
  proofMode := artifacts.proofMode
  profileVersion := BASE_PROFILE_VERSION
  fsPolicyVersion := artifacts.fsPolicyVersion
  meorVrfId := artifacts.vrfId
  fsEpochCommit := fs.fsEpochCommit
  fsEc := fs.fsEc
  fsDevPrevCommit := fs.fsDevPrevCommit
  fsDevCommit := fs.fsDevCommit
  srxRootSw := none
  weEpochId := ids.weEpochId

def strictWitnessError : MsphfError → AcceptanceError
  | .witnessReplayMismatch _ => .freeze freezeCapssInvalid
  | err => .ofMsphf err

/-- The proofs of a join, after the pending witness was taken. No SRX payload
can be present here, so the join leaf is not looked up in one. -/
def joinProofs (pending : Option Bytes) (mode : LeafIdMode) (rhoCommit : Bytes32) (seed : JoinSeed)
    (fs : FsFields) (ids : AnchorIds) (popSig : Bytes) (artifacts : ProofArtifacts) :
    Except AcceptanceError Unit := do
  let crsId ← codec.headerStringOrFreeze header HDR_CRS_ID
  let paramsId ← codec.headerStringOrFreeze header HDR_PARAMS_ID
  verifiers.capssVerify (capssInputs parts rhoCommit seed fs ids artifacts crsId paramsId)
    artifacts.fsCapss
  let popAlg ← codec.headerStringOrFreeze header HDR_POP_ALG
  ensure (codec.deriveRhoCommitFromPop popSig ids.xkHash = rhoCommit) (.freeze freezeCapssInvalid)
  let witness ← (verifiers.recomputeCapssWitness
    ⟨crsId, paramsId, ids.seedCommit, seed.seedCtxHash, ids.xkHash, rhoCommit, popAlg, seed.popPk,
      ids.anchor, codec.computeLeafId mode parts.gid popAlg seed.popPk, popSig⟩).mapError
    strictWitnessError
  ensure (∀ p ∈ pending, p = witness) (.freeze freezeCapssInvalid)
  ensure (artifacts.vrfPi.length ≤ MAX_VRF_PROOF_BYTES ∧
      verifiers.vrfVerify artifacts.vrfPublic
        (vrfCtx parts rhoCommit seed fs ids artifacts crsId paramsId)
        (artifacts.maskA, artifacts.maskB) artifacts.vrfPi = true)
    (.freeze freezeVrfInvalid)

structure JoinChecked where
  roots : AnchorRoots
  rhoCommit : Bytes32
  seed : JoinSeed
  fs : FsFields
  ids : AnchorIds
  acceptSeq : Nat
  artifacts : ProofArtifacts

def joinChecks (weEpochIdClaim barrierUpdateDigest : Bytes32) (now : Nat) : AcceptM JoinChecked := do
  let roots ← check (joinPrelude codec parts header)
  let rhoCommit ← recordRho parts header now
  let seed ← check fun _ => joinSeed codec parts header roots.parentRoot rhoCommit
  let fs ← joinFs codec parts header seed.popPk barrierUpdateDigest
  let ids ← check fun _ => deriveAnchorIds codec parts weEpochIdClaim roots.parentRoot seed.seedCtx
    (some seed.hpCommit)
  let acceptSeq ← takeAcceptSeq
  check (joinBootstrap codec verifiers parts header fs.barrierVersion rhoCommit seed ids)
  check fun ctx => ensureJoinPop codec header verifiers ids.anchor ctx.leafIdMode
  let popSig ← check fun _ => headerBytesOr header HDR_POP_SIG freezePopInvalid
  check fun _ => verifyJoinPayloadHpEnvelope header none BARRIER_HP_CONTEXT_AUTHOR_LOCAL
  let artifacts ← check (ensureProofs codec header)
  let pending ← takeWitness
  check fun ctx => joinProofs codec verifiers parts header pending ctx.leafIdMode rhoCommit seed fs
    ids popSig artifacts
  pure ⟨roots, rhoCommit, seed, fs, ids, acceptSeq, artifacts⟩

end Join

def JoinChecked.headRecord (c : JoinChecked) (now : Nat) : HeadRecord where
  weEpochId := c.ids.weEpochId
  msphfHpCommit := c.seed.hpCommit
  seedCtxHash := c.seed.seedCtxHash
  rhoCommit := c.rhoCommit
  seedCommit := c.ids.seedCommit
  xkHash := c.ids.xkHash
  joinDeltaRoot := c.roots.joinDeltaRoot
  revokedSinceRoot := c.roots.revokedSinceRoot
  revokedRoot := c.roots.revokedRoot
  acceptSeq := c.acceptSeq
  acceptTime := now

/-- A join carries no SRX commitment and keeps the group's shadow root. -/
def JoinChecked.parity (c : JoinChecked) (parts : AnchorInstanceParts) (crsId paramsId : Bytes)
    (srxRootSw : Bytes32) (hpEnvelope : Bytes) : PivotParity where
  gid := parts.gid
  cat := parts.cat
  parentRoot := c.roots.parentRoot
  weEpochId := c.ids.weEpochId
  rhoCommit := c.rhoCommit
  seedCtxHash := c.seed.seedCtxHash
  seedCommit := c.ids.seedCommit
  hpCommit := c.seed.hpCommit
  xkHash := c.ids.xkHash
  joinDeltaRoot := c.roots.joinDeltaRoot
  revokedSinceRoot := c.roots.revokedSinceRoot
  revokedRoot := c.roots.revokedRoot
  acceptSeq := c.acceptSeq
  crsId := crsId
  paramsId := paramsId
  policyVersion := toString c.artifacts.fsPolicyVersion
  proofMode := c.artifacts.proofMode
  vrfId := c.artifacts.vrfId
  vrfProof := c.artifacts.vrfPi
  vrfPublic := c.artifacts.vrfPublic
  maskA := c.artifacts.maskA
  maskB := c.artifacts.maskB
  fsCapss := c.artifacts.fsCapss
  proofsCommit := c.artifacts.commit
  srxCommit := none
  srxRootSw := some srxRootSw
  isJoin := true
  hpEnvelope := hpEnvelope
  fsEpochCommit := some c.fs.fsEpochCommit
  fsEc := some c.fs.fsEc
  fsDevCommit := some c.fs.fsDevCommit

def JoinChecked.outcome (c : JoinChecked) (mhNote : Option String) (now : Nat) :
    AcceptanceOutcome where
  kind := .nonMerge
  weEpochId := c.ids.weEpochId
  wid := c.ids.wid
  seedCtxHash := c.seed.seedCtxHash
  seedCommit := c.ids.seedCommit
  rhoCommit := c.rhoCommit
  hpCommit := c.seed.hpCommit
  xkHash := c.ids.xkHash
  acceptSeq := c.acceptSeq
  acceptTime := now
  mhNote := mhNote
  fsEpochCommit := some c.fs.fsEpochCommit
  fsEc := some c.fs.fsEc
  fsDevCommit := some c.fs.fsDevCommit

def onWindow (x : EStateM FreezeError MultiHeadWindow Unit) : AcceptM Unit :=
  EStateM.zoom (·.mhWindow) (fun w ctx => ctx.setMhWindow w) AcceptanceError.freeze x

def headerHpEnvelope (codec : AnchorCodec) (header : HeaderMap) : Bytes :=
  ((header.get? HDR_HP_BYTES).map codec.toCbor).getD []

/-- The chain of the device and the counter of the group move before the
window can still refuse the head. -/
def joinCommit (codec : AnchorCodec) (parts : AnchorInstanceParts) (header : HeaderMap)
    (mhNote : Option String) (now : Nat) (c : JoinChecked) : AcceptM AcceptanceOutcome := do
  modify (·.advanceDeviceChain parts.gid c.seed.popPk c.fs.fsDevCommit c.fs.fsEc)
  modify (·.recordAcceptedEc parts.gid c.fs.fsEc)
  onWindow (MultiHeadWindow.acceptHead c.ids.wid.val (c.headRecord now) now)
  let crsId ← check fun _ => codec.headerValueBytes header HDR_CRS_ID freezeMsphfCrsInvalid
  let paramsId ← check fun _ => codec.headerValueBytes header HDR_PARAMS_ID freezeParamsIdInvalid
  modify fun ctx => ctx.setPivotStore (ctx.pivotStore.insert
    (c.parity parts crsId paramsId (ctx.groupSrxRootSw parts.gid) (headerHpEnvelope codec header))
    now)
  pure (c.outcome mhNote now)

def acceptAnchorJoin (codec : AnchorCodec) (verifiers : AnchorProofs) (parts : AnchorInstanceParts)
    (weEpochIdClaim : Bytes32) (header : HeaderMap) (mhNote : Option String)
    (barrierUpdateDigest : Bytes32) (now : Nat) : AcceptM AcceptanceOutcome := do
  let c ← joinChecks codec verifiers parts header weEpochIdClaim barrierUpdateDigest now
  check fun ctx => ctx.verifyDeviceChainState codec.hL parts.gid
    (c.fs.verification c.seed.popPk barrierUpdateDigest)
  joinCommit codec parts header mhNote now c

end CityG
