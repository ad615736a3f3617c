import CityG.Accept.Join

/-!
# The merge pipeline

`accept_anchor_merge` in the order of the source. The device chain, and with it
the caps on the epoch counter, is verified only when the header names a device.
-/

namespace CityG

open Except (ensure ofOption)
open EStateM (check)

section Merge
variable (codec : AnchorCodec) (verifiers : AnchorProofs) (parts : AnchorInstanceParts)
  (header : HeaderMap)

def mergePrelude (ctx : AcceptanceContext) : Except AcceptanceError Unit := do
  ensureSuite codec ctx parts.gid header
  ensureMergeJoinKeysAbsent header
  ensure (HDR_KBROAD_REPLAY ∉ header) (.freeze freezeHashCbor)

structure MergeFs extends FsFields where
  fsCheckpointEc : Nat
  localHpCommit : Bytes32
  popPk : Option Bytes
  barrierUpdateDigest : Bytes32

def readMergeFs : Except AcceptanceError MergeFs := do
  let fsCheckpointEc ← headerU64OrFreeze header HDR_FS_CHECKPOINT_EC freezeFsJoinMissing
  let fsEc ← headerU64OrFreeze header HDR_FS_EC freezeFsJoinMissing
  let _ ← headerU64OrFreeze header HDR_BARRIER_UPDATE_REASON freezeFsJoinMissing
  let barrierVersion ← headerU64OrFreeze header HDR_BARRIER_VERSION freezeFsJoinMissing
  let fsEpochCommit ← headerBytes32OrFreeze header HDR_FS_EPOCH_COMMIT freezeFsJoinMissing
  let fsDevPrevCommit ← headerBytes32OrFreeze header HDR_FS_DEV_PREV_COMMIT freezeFsJoinMissing
  let fsDevCommit ← headerBytes32OrFreeze header HDR_FS_DEV_COMMIT freezeFsJoinMissing
  let localHpCommit ← headerBytes32OrFreeze header HDR_HP_COMMIT freezeFieldMissing
  let barrierUpdateDigest ← Accept.computeBarrierUpdateDigest codec.hL header
  pure ⟨⟨fsEc, fsEpochCommit, fsDevPrevCommit, fsDevCommit, barrierVersion⟩, fsCheckpointEc,
    localHpCommit, (header.get? HDR_POP_PK).bind Value.asBytes, barrierUpdateDigest⟩

/-- The chain check of a merge, which a header without device key skips. -/
def verifyMergeDevice (fs : MergeFs) (ctx : AcceptanceContext) : Except AcceptanceError Unit :=
  match fs.popPk with
  | some popPk => ctx.verifyDeviceChainState codec.hL parts.gid
      (fs.verification popPk fs.barrierUpdateDigest)
  | none => pure ()

def ensurePurge : Except AcceptanceError Unit := do
  ensure ((header.get? HDR_FS_EVOLUTION_BOUNDARY).bind Value.asBool = some true)
    (.freeze freezeMhHeadsInvalid)
  ensure ((header.get? HDR_ROLLUP_FS_MODE).bind Value.asText = some "fs-purge")
    (.freeze freezeMhHeadsInvalid)
  ensure (∀ value ∈ header.get? HDR_FS_PURGE_TIMES, value.isMap = true) (.freeze freezeHashCbor)

structure MergeSeed where
  rhoCommit : Bytes32
  seedCtx : Bytes
  seedCtxHash : Bytes32
  seedBundleCommit : Bytes32

def mergeSeed : Except AcceptanceError MergeSeed := do
  let rhoCommit ← headerBytes32OrFreeze header HDR_RHO_COMMIT freezeRhoParity
  let seedCtxHash ← headerBytes32OrFreeze header HDR_SEED_CTX_HASH freezeSeedctxMismatch
  let seedCtx := codec.buildAnchorSeedCtx header
  ensure (codec.computeSeedCtxHash seedCtx = seedCtxHash) (.freeze freezeSeedctxMismatch)
  let seedBundleCommit ← headerBytes32OrFreeze header HDR_SEED_BUNDLE_COMMIT freezeSeedctxMismatch
  pure ⟨rhoCommit, seedCtx, seedCtxHash, seedBundleCommit⟩

structure MergePivot where
  widOld : Bytes
  pivotWeid : Bytes32
  pivotRecord : HeadRecord

def findPivot (mhHeads : List Bytes32) (w : MultiHeadWindow) : Except AcceptanceError MergePivot := do
  ensure (isSortedUnique mhHeads = true) (.freeze freezeMhHeadsInvalid)
  let widOld ← ofOption (.freeze freezeMhHeadsInvalid) (mhHeads.head?.bind w.findHeadWindow)
  ensure (∀ head ∈ mhHeads, (w.findHead widOld head).isSome = true) (.freeze freezeMhHeadsInvalid)
  let pivotWeid ← headerBytes32OrFreeze header HDR_ROLLUP_PIVOT_WEID freezeMhHeadsInvalid
  ensure (pivotWeid ∈ mhHeads) (.freeze freezeMhHeadsInvalid)
  let pivotRecord ← ofOption (.freeze freezeMhHeadsInvalid) (w.findHead widOld pivotWeid)
  pure ⟨widOld, pivotWeid, pivotRecord⟩

def checkPivotSeed (parentRoot : Bytes32) (seed : MergeSeed) (pivot : MergePivot) :
    Except AcceptanceError Unit := do
  ensure (seed.rhoCommit = pivot.pivotRecord.rhoCommit) (.freeze freezeMsphfRhoParity)
  ensure (codec.computeSeedBundleCommit seed.seedCtx seed.rhoCommit parts.gid parts.cat parentRoot =
    seed.seedBundleCommit) (.freeze freezeSeedctxMismatch)

abbrev ParityMap := OrdMap Bytes32 PivotParity

def takeParities (parentRoot : Bytes32) (now : Nat) : AcceptM ParityMap := do
  modify fun ctx => ctx.setPivotStore (ctx.pivotStore.prune now)
  check fun ctx => pure (OrdMap.ofList
    ((ctx.pivotStore.list parts.gid parentRoot).map fun p => (p.weEpochId, p)))

def useLocalHpTransport : Bool :=
  match header.get? HDR_HP_BYTES with
  | some (.array (.text mode :: _)) => mode = BARRIER_HP_MODE
  | _ => false

def mergeEnvelope (pivotParity : PivotParity) : Except AcceptanceError Value := do
  ensure (pivotParity.hpEnvelope ≠ []) (.freeze freezeFieldMissing)
  let pivotEnvelope ← ofOption (.freeze freezeHashCbor) (codec.fromReader pivotParity.hpEnvelope)
  pure ((header.get? HDR_HP_BYTES).getD pivotEnvelope)

/-- A merge repeats the proofs of its pivot. -/
def checkPivotProofs (artifacts : ProofArtifacts) (pivotParity : PivotParity) :
    Except AcceptanceError Unit := do
  ensure (artifacts.fsCapss = pivotParity.fsCapss) (.freeze freezeCapssInvalid)
  ensure (artifacts.vrfPi = pivotParity.vrfProof ∧ artifacts.maskA = pivotParity.maskA ∧
      artifacts.maskB = pivotParity.maskB ∧ artifacts.vrfPublic = pivotParity.vrfPublic)
    (.freeze freezeVrfInvalid)
  ensure (toString artifacts.fsPolicyVersion = pivotParity.policyVersion ∧
      artifacts.proofMode = pivotParity.proofMode ∧ artifacts.vrfId = pivotParity.vrfId)
    (.freeze freezeSuiteForbidden)

def parityOf (parities : ParityMap) (weid : Bytes32) : Except AcceptanceError PivotParity :=
  ofOption (.freeze freezeMhHeadsInvalid) (parities.get? weid)

def headEc (parities : ParityMap) (head : Bytes32) : Except AcceptanceError Nat := do
  let parity ← parityOf parities head
  ofOption (.freeze freezeFsJoinMissing) parity.fsEc

/-- The checkpoint is the largest counter among the heads, does not fall back
behind the last checkpoint and does not pass the last accepted counter. -/
def checkCheckpoint (mhHeads : List Bytes32) (parities : ParityMap) (fsCheckpointEc : Nat)
    (ctx : AcceptanceContext) : Except AcceptanceError Unit := do
  let ecs ← Except.mapList (headEc parities) mhHeads
  let maxFsEc ← ofOption (.freeze freezeMhHeadsInvalid) ecs.max?
  ensure (fsCheckpointEc = maxFsEc) (.freeze freezeFsCheckpointBackdate)
  ensure (ctx.lastCheckpointEc parts.gid ≤ fsCheckpointEc)
    (.freeze freezeFsCheckpointMonotonicity)
  ensure (fsCheckpointEc ≤ ctx.lastAcceptedEc parts.gid) (.freeze freezeFsCheckpointBackdate)

def isReclaimJoinFinalize : Bool :=
  HDR_JOIN_FINALIZE_AUTH ∈ header ∧
    (header.get? HDR_BARRIER_UPDATE_REASON).bind Value.asU64 = some 0

/-- New revocation roots need an SRX payload, except in the reclaim path. -/
def srxRequired (roots : AnchorRoots) (pivotRecord : HeadRecord) : Bool :=
  (roots.revokedSinceRoot ≠ pivotRecord.revokedSinceRoot ∨
    roots.revokedRoot ≠ pivotRecord.revokedRoot) ∧ isReclaimJoinFinalize header = false

def onVckCache (x : EStateM AcceptanceError VckCache Unit) : AcceptM Unit :=
  EStateM.zoom (·.vckCache) (fun cache ctx => ctx.setVckCache cache) id x

def mergeSrx (required : Bool) (roots : AnchorRoots) (binding : SrxBinding) (now : Nat)
    (artifacts : ProofArtifacts) : AcceptM Bytes32 := do
  check fun _ => ensureMergeSrxKeys header required
  modify (·.ensureGroupSrxRootSw parts.gid)
  let srxRootSwBefore ← check fun ctx => pure (ctx.groupSrxRootSw parts.gid)
  let srxMaxBytes ← check fun ctx => pure ctx.srxMaxBytes
  if required then do
    onVckCache (ensureSrxRelations codec verifiers roots header srxMaxBytes binding now artifacts
      srxRootSwBefore)
    pure srxRootSwBefore
  else pure srxRootSwBefore

structure Rollup where
  provenanceCommit : Option Bytes32
  epochReplay : Option (List RollupEpochEntry)
  vckCommit : Option Bytes32

def readEpochReplay : Except AcceptanceError (Option (List RollupEpochEntry)) :=
  match header.get? HDR_ROLLUP_EPOCH_REPLAY with
  | some value => some <$> parseRollupEpochReplay value
  | none => pure none

/-- Provenance and replay come together; a VCK commitment needs both. -/
def readRollup : Except AcceptanceError Rollup := do
  let provenanceCommit ← headerOptionalBytes32 header HDR_ROLLUP_PROVENANCE_COMMIT freezeHashCbor
  let epochReplay ← readEpochReplay header
  let vckCommit ← headerOptionalBytes32 header HDR_ROLLUP_VCK_COMMIT freezeHashCbor
  ensure (vckCommit.isSome → provenanceCommit.isSome) (.freeze freezeMhHeadsInvalid)
  ensure (provenanceCommit.isSome ∨ epochReplay.isSome ∨ vckCommit.isSome →
      provenanceCommit.isSome ∧ epochReplay.isSome) (.freeze freezeMhHeadsInvalid)
  pure ⟨provenanceCommit, epochReplay, vckCommit⟩

def checkReplayEntry (parities : ParityMap) (entry : Bytes32 × RollupEpochEntry) :
    Except AcceptanceError Unit := do
  let replay := entry.2
  ensure (replay.weid = entry.1) (.freeze freezeHashCbor)
  let parity ← parityOf parities entry.1
  ensure (parity.xkHash = replay.xkHash ∧ parity.parentRoot = replay.parentRoot ∧
      parity.joinDeltaRoot = replay.joinDeltaRoot ∧
      parity.revokedSinceRoot = replay.revokedSinceRoot ∧
      parity.revokedRoot = replay.revokedRoot ∧ parity.isJoin = replay.isJoin)
    (.freeze freezeMhHeadsInvalid)
  if replay.isJoin then do
    validateBarrierHpEnvelopeBytes codec parity.hpEnvelope
    ensure (parity.hpEnvelope ≠ []) (.freeze freezeFieldMissing)
  else pure ()

def checkReplay (mhHeads : List Bytes32) (parities : ParityMap) :
    Option (List RollupEpochEntry) → Except AcceptanceError Unit
  | none => pure ()
  | some entries => do
    ensure (entries.length = mhHeads.length) (.freeze freezeMhHeadsInvalid)
    let _ ← Except.mapList (checkReplayEntry codec parities) (mhHeads.zip entries)

def headVck (parities : ParityMap) (head : Bytes32) :
    Except AcceptanceError (Bytes32 × PivotParity) := do
  let parity ← parityOf parities head
  let vck ← codec.computeVckFromParity parity
  pure (vck, parity)

def rollupHash (label : String) (values : List Value) : Bytes32 :=
  codec.hL label (.bytes (codec.toCbor (.array values)))

def checkProvenance (mhHeads : List Bytes32) (parities : ParityMap) (rollup : Rollup) :
    Except AcceptanceError Unit :=
  match rollup.provenanceCommit with
  | none => pure ()
  | some commit => do
    let vcks ← Except.mapList (headVck codec parities) mhHeads
    ensure (rollupHash codec "msphf/rollup/prov" ((mhHeads.zip vcks).map fun e =>
        .array [.bytes e.1.val, .bytes e.2.1.val, .bytes e.2.2.xkHash.val]) = commit)
      (.freeze freezeMhHeadsInvalid)
    ensure (∀ vckCommit ∈ rollup.vckCommit,
        rollupHash codec "msphf/rollup/vck" (vcks.map fun e => .bytes e.1.val) = vckCommit)
      (.freeze freezeMhHeadsInvalid)

def checkRollup (mhHeads : List Bytes32) (parities : ParityMap) : Except AcceptanceError Unit := do
  let rollup ← readRollup header
  checkReplay codec mhHeads parities rollup.epochReplay
  checkProvenance codec mhHeads parities rollup

def mergeFs : AcceptM MergeFs := do
  check (mergePrelude codec parts header)
  ensureFsPolicyVersion header
  ensureFsBaseTs header
  let fs ← check fun _ => readMergeFs codec header
  check (verifyMergeDevice codec parts fs)
  pure fs

structure MergeChecked where
  roots : AnchorRoots
  seed : MergeSeed
  pivot : MergePivot
  ids : AnchorIds
  acceptSeq : Nat
  artifacts : ProofArtifacts
  parities : ParityMap
  pivotParity : PivotParity

def mergeArtifacts (ctx : AcceptanceContext) : Except AcceptanceError ProofArtifacts := do
  ensureBootstrapAbsent header
  let artifacts ← ensureProofs codec header ctx
  ensure (artifacts.vrfPi ≠ [] ∧ artifacts.vrfPi.length ≤ MAX_VRF_PROOF_BYTES)
    (.freeze freezeVrfInvalid)
  pure artifacts

def mergeChecks (weEpochIdClaim : Bytes32) (mhHeads : List Bytes32) (now : Nat) :
    AcceptM MergeChecked := do
  check fun _ => ensurePurge header
  let roots ← check fun _ => ensureRoots parts header
  let seed ← check fun _ => mergeSeed codec header
  let pivot ← check fun ctx => findPivot header mhHeads ctx.mhWindow
  check fun _ => checkPivotSeed codec parts roots.parentRoot seed pivot
  let ids ← check fun _ => deriveAnchorIds codec parts weEpochIdClaim roots.parentRoot seed.seedCtx
    none
  let acceptSeq ← takeAcceptSeq
  let artifacts ← check (mergeArtifacts codec header)
  let parities ← takeParities parts roots.parentRoot now
  let pivotParity ← check fun _ => parityOf parities pivot.pivotWeid
  let envelope ← check fun _ => mergeEnvelope codec header pivotParity
  check fun _ => verifyJoinPayloadHpEnvelope header (some envelope)
    BARRIER_HP_CONTEXT_BARRIER_RECOVERY
  check fun _ => checkPivotProofs artifacts pivotParity
  pure ⟨roots, seed, pivot, ids, acceptSeq, artifacts, parities, pivotParity⟩

def MergeChecked.srxBinding (c : MergeChecked) : SrxBinding :=
  ⟨c.ids.xkHash, c.ids.seedCommit, c.seed.rhoCommit, c.pivot.pivotRecord.msphfHpCommit⟩

def MergeChecked.hpCommit (c : MergeChecked) (fs : MergeFs) : Bytes32 :=
  if useLocalHpTransport header then fs.localHpCommit else c.pivot.pivotRecord.msphfHpCommit

def MergeChecked.headRecord (c : MergeChecked) (fs : MergeFs) (now : Nat) : HeadRecord where
  weEpochId := c.ids.weEpochId
  msphfHpCommit := c.hpCommit header fs
  seedCtxHash := c.seed.seedCtxHash
  rhoCommit := c.seed.rhoCommit
  seedCommit := c.ids.seedCommit
  xkHash := c.ids.xkHash
  joinDeltaRoot := c.roots.joinDeltaRoot
  revokedSinceRoot := c.roots.revokedSinceRoot
  revokedRoot := c.roots.revokedRoot
  acceptSeq := c.acceptSeq
  acceptTime := now

structure MergeSrxFields where
  srxCommit : Option Bytes32
  srxRootSw : Bytes32

def MergeChecked.parity (c : MergeChecked) (fs : MergeFs) (crsId paramsId : Bytes)
    (srx : MergeSrxFields) : PivotParity where
  gid := parts.gid
  cat := parts.cat
  parentRoot := c.roots.parentRoot
  weEpochId := c.ids.weEpochId
  rhoCommit := c.seed.rhoCommit
  seedCtxHash := c.seed.seedCtxHash
  seedCommit := c.ids.seedCommit
  hpCommit := c.hpCommit header fs
  xkHash := c.ids.xkHash
  joinDeltaRoot := c.roots.joinDeltaRoot
  revokedSinceRoot := c.roots.revokedSinceRoot
  revokedRoot := c.roots.revokedRoot
  acceptSeq := c.acceptSeq
  crsId := crsId
  paramsId := paramsId
  policyVersion := toString c.artifacts.fsPolicyVersion
  proofMode := c.artifacts.proofMode
  vrfId := c.artifacts.vrfId
  vrfProof := c.artifacts.vrfPi
  vrfPublic := c.artifacts.vrfPublic
  maskA := c.artifacts.maskA
  maskB := c.artifacts.maskB
  fsCapss := c.artifacts.fsCapss
  proofsCommit := c.artifacts.commit
  srxCommit := srx.srxCommit
  srxRootSw := some srx.srxRootSw
  isJoin := false
  hpEnvelope :=
    if headerHpEnvelope codec header = [] then c.pivotParity.hpEnvelope
    else headerHpEnvelope codec header
  fsEpochCommit := some fs.fsEpochCommit
  fsEc := some fs.fsEc
  fsDevCommit := some fs.fsDevCommit

def MergeChecked.outcome (c : MergeChecked) (fs : MergeFs) (mhHeads : List Bytes32)
    (mhNote : Option String) (now : Nat) : AcceptanceOutcome where
  kind := .merge mhHeads
  weEpochId := c.ids.weEpochId
  wid := c.ids.wid
  seedCtxHash := c.seed.seedCtxHash
  seedCommit := c.ids.seedCommit
  rhoCommit := c.seed.rhoCommit
  hpCommit := c.hpCommit header fs
  xkHash := c.ids.xkHash
  acceptSeq := c.acceptSeq
  acceptTime := now
  mhNote := mhNote
  fsEpochCommit := some fs.fsEpochCommit
  fsEc := some fs.fsEc
  fsDevCommit := some fs.fsDevCommit

def acceptMergeHead (widOld widNew : Bytes) (mhHeads : List Bytes32) (record : HeadRecord)
    (now : Nat) : AcceptM Unit := do
  check fun ctx => ensure (mhHeads.length ≤ ctx.mhWindow.hMax) (.freeze windowFull)
  onWindow (MultiHeadWindow.acceptMerge widOld widNew mhHeads record now)

/-- A merge that required SRX brings a new shadow root, if the group's root is
still the one it was verified against; any other keeps the group's root. -/
def mergeSrxFields (required : Bool) (srxRootSwBefore : Bytes32) (ctx : AcceptanceContext) :
    Except AcceptanceError MergeSrxFields :=
  if required then do
    let srxCommit ← headerBytes32OrFreeze header HDR_SRX_COMMIT freezeSrxInvalid
    let srxRootSw ← headerBytes32OrFreeze header HDR_SRX_ROOT_SW freezeSrxInvalid
    ensure (ctx.groupSrxRootSw parts.gid = srxRootSwBefore) (.freeze freezeSrxInvalid)
    pure ⟨some srxCommit, srxRootSw⟩
  else pure ⟨none, ctx.groupSrxRootSw parts.gid⟩

def commitSrxRoot (required : Bool) (srxRootSw : Bytes32) (ctx : AcceptanceContext) :
    AcceptanceContext :=
  if required then ctx.setGroupSrxRootSw parts.gid (some srxRootSw) else ctx

def commitMergeDevice (fs : MergeFs) (ctx : AcceptanceContext) : AcceptanceContext :=
  match fs.popPk with
  | some popPk => ctx.advanceDeviceChain parts.gid popPk fs.fsDevCommit fs.fsEc
  | none => ctx

def mergeCommit (mhHeads : List Bytes32) (mhNote : Option String) (now : Nat) (fs : MergeFs)
    (c : MergeChecked) (required : Bool) (srxRootSwBefore : Bytes32) :
    AcceptM AcceptanceOutcome := do
  acceptMergeHead c.pivot.widOld c.ids.wid.val mhHeads (c.headRecord header fs now) now
  modify fun ctx =>
    ctx.setPivotStore (ctx.pivotStore.retire parts.gid c.roots.parentRoot mhHeads)
  let crsId ← check fun _ => codec.headerValueBytes header HDR_CRS_ID freezeMsphfCrsInvalid
  let paramsId ← check fun _ => codec.headerValueBytes header HDR_PARAMS_ID freezeParamsIdInvalid
  let srx ← check (mergeSrxFields parts header required srxRootSwBefore)
  modify (commitSrxRoot parts required srx.srxRootSw)
  modify fun ctx => ctx.setPivotStore
    (ctx.pivotStore.insert (c.parity codec parts header fs crsId paramsId srx) now)
  modify (commitMergeDevice parts fs)
  modify (·.setLastCheckpointEc parts.gid fs.fsCheckpointEc)
  modify (·.recordAcceptedEc parts.gid fs.fsEc)
  pure (c.outcome header fs mhHeads mhNote now)

def acceptAnchorMerge (weEpochIdClaim : Bytes32) (mhHeads : List Bytes32) (mhNote : Option String)
    (now : Nat) : AcceptM AcceptanceOutcome := do
  let fs ← mergeFs codec parts header
  let c ← mergeChecks codec parts header weEpochIdClaim mhHeads now
  check (checkCheckpoint parts mhHeads c.parities fs.fsCheckpointEc)
  let required := srxRequired header c.roots c.pivot.pivotRecord
  let srxRootSwBefore ← mergeSrx codec verifiers parts header required c.roots c.srxBinding now
    c.artifacts
  check fun _ => checkRollup codec header mhHeads c.parities
  let _ ← takeWitness
  mergeCommit codec parts header mhHeads mhNote now fs c required srxRootSwBefore

end Merge

end CityG
