import CityG.Accept.Extract

/-!
# What the pipelines leave alone

Most parts of the context are written on the way through a pipeline. A property
that survives each of those writes comes out of every check, and a view that
sees none of them comes out as it went in.
-/

namespace CityG

open EStateM (Keeps Preserves keeps_iff_preserves)

variable {τ : Type*}

/-- The property survives what the checks of a pipeline write, apart from the
SRX relations. -/
structure Stable (P : AcceptanceContext → Prop) : Prop where
  start : ∀ ctx, P ctx → P ctx.startAnchor
  window : ∀ ctx w, P ctx → P (ctx.setMhWindow w)
  rhoGuard : ∀ ctx guard, P ctx → P (ctx.setRhoGuard guard)
  prune : ∀ ctx now, P ctx → P (ctx.setPivotStore (ctx.pivotStore.prune now))
  policyVersion : ∀ ctx version, P ctx → P (ctx.setFsPolicyVersion version)
  baseTs : ∀ ctx ts, P ctx → P (ctx.setFsBaseTs ts)
  acceptSeq : ∀ ctx, P ctx → P ctx.bumpAcceptSeq
  witness : ∀ ctx, P ctx → P ctx.takePendingCapssWitness

structure StableUnderSrx (P : AcceptanceContext → Prop) : Prop extends Stable P where
  vckCache : ∀ ctx cache, P ctx → P (ctx.setVckCache cache)
  srxRoot : ∀ ctx gid, P ctx → P (ctx.ensureGroupSrxRootSw gid)

namespace Stable

variable {P : AcceptanceContext → Prop} (h : Stable P) (codec : AnchorCodec)
  (verifiers : AnchorProofs) (parts : AnchorInstanceParts) (header : HeaderMap)
include h

theorem ensureFsPolicyVersion : Preserves P (ensureFsPolicyVersion header) :=
  .bind (.check _) fun _ => .bind (.check _) fun _ => .modify fun _ => h.policyVersion _ _

theorem ensureFsBaseTs : Preserves P (ensureFsBaseTs header) :=
  .bind (.check _) fun _ => .bind (.check _) fun _ =>
    .bind (.modify fun _ => h.baseTs _ _) fun _ => .check _

theorem takeAcceptSeq : Preserves P takeAcceptSeq := .modifyGet h.acceptSeq

theorem takeWitness : Preserves P takeWitness := .modifyGet h.witness

theorem recordRho (now : Nat) : Preserves P (recordRho parts header now) :=
  .bind (.check _) fun _ => .bind (.modifyGet fun _ => h.rhoGuard _ _) fun _ =>
    .bind (.check _) fun _ => .pure _

theorem joinFs (popPk : Bytes) (digest : Bytes32) :
    Preserves P (joinFs codec parts header popPk digest) := by
  refine .bind (.check _) fun _ => .bind (h.ensureFsPolicyVersion header) fun _ => ?_
  refine .bind (.check _) fun _ => .bind (.check _) fun _ => ?_
  refine .bind (h.ensureFsBaseTs header) fun _ => ?_
  refine .bind (.check _) fun _ => .bind (.check _) fun _ => .bind (.check _) fun _ => ?_
  exact .bind (.check _) fun _ => .pure _

theorem joinChecks (claim digest : Bytes32) (now : Nat) :
    Preserves P (joinChecks codec verifiers parts header claim digest now) := by
  refine .bind (.check _) fun _ => .bind (h.recordRho parts header now) fun _ => ?_
  refine .bind (.check _) fun _ => .bind (h.joinFs codec parts header _ _) fun _ => ?_
  refine .bind (.check _) fun _ => .bind h.takeAcceptSeq fun _ => ?_
  refine .bind (.check _) fun _ => .bind (.check _) fun _ => .bind (.check _) fun _ => ?_
  refine .bind (.check _) fun _ => .bind (.check _) fun _ => ?_
  exact .bind h.takeWitness fun _ => .bind (.check _) fun _ => .pure _

theorem mergeFs : Preserves P (mergeFs codec parts header) := by
  refine .bind (.check _) fun _ => .bind (h.ensureFsPolicyVersion header) fun _ => ?_
  refine .bind (h.ensureFsBaseTs header) fun _ => .bind (.check _) fun _ => ?_
  exact .bind (.check _) fun _ => .pure _

theorem takeParities (parentRoot : Bytes32) (now : Nat) :
    Preserves P (takeParities parts parentRoot now) :=
  .bind (.modify fun _ => h.prune _ _) fun _ => .check _

theorem mergeChecks (claim : Bytes32) (mhHeads : List Bytes32) (now : Nat) :
    Preserves P (mergeChecks codec parts header claim mhHeads now) := by
  refine .bind (.check _) fun _ => .bind (.check _) fun _ => .bind (.check _) fun _ => ?_
  refine .bind (.check _) fun _ => .bind (.check _) fun _ => .bind (.check _) fun _ => ?_
  refine .bind h.takeAcceptSeq fun _ => .bind (.check _) fun _ => ?_
  refine .bind (h.takeParities parts _ now) fun _ => .bind (.check _) fun _ => ?_
  refine .bind (.check _) fun _ => .bind (.check _) fun _ => ?_
  exact .bind (.check _) fun _ => .pure _

theorem onWindow (x : EStateM FreezeError MultiHeadWindow Unit) : Preserves P (onWindow x) :=
  .zoom fun _ _ => h.window _ _

end Stable

namespace StableUnderSrx

variable {P : AcceptanceContext → Prop} (h : StableUnderSrx P) (codec : AnchorCodec)
  (verifiers : AnchorProofs) (parts : AnchorInstanceParts) (header : HeaderMap)
include h

theorem mergeSrx (required : Bool) (roots : AnchorRoots) (binding : SrxBinding) (now : Nat)
    (artifacts : ProofArtifacts) :
    Preserves P (mergeSrx codec verifiers parts header required roots binding now artifacts) := by
  refine .bind (.check _) fun _ => .bind (.modify fun _ => h.srxRoot _ _) fun _ => ?_
  refine .bind (.check _) fun _ => .bind (.check _) fun _ => ?_
  split
  · exact .bind (.zoom fun _ _ => h.vckCache _ _) fun _ => .pure _
  · exact .pure _

theorem verifyBinding (anchor : AnchorInstance) (outcome : AcceptanceOutcome)
    (binding : HpBindingInputs) (hpProof witness : Bytes) :
    Preserves P (verifyBinding codec verifiers anchor header outcome binding hpProof witness) := by
  unfold CityG.verifyBinding
  split
  · exact .pure _
  · refine .bind (.check _) fun _ => .bind (.check _) fun _ => ?_
    refine .bind (.modifyGet fun _ => h.vckCache _ _) fun _ => ?_
    split
    · exact .bind (.check _) fun _ => .modify fun _ => h.vckCache _ _
    · exact .pure _

end StableUnderSrx

structure CommitStable (P : AcceptanceContext → Prop) : Prop where
  window : ∀ ctx w, P ctx → P (ctx.setMhWindow w)
  pivotStore : ∀ ctx store, P ctx → P (ctx.setPivotStore store)
  deviceChain : ∀ ctx gid devicePk f, P ctx → P (ctx.modifyDeviceChain gid devicePk f)
  acceptedEc : ∀ ctx gid ec, P ctx → P (ctx.recordAcceptedEc gid ec)

structure MergeCommitStable (P : AcceptanceContext → Prop) : Prop extends CommitStable P where
  checkpointEc : ∀ ctx gid ec, P ctx → P (ctx.setLastCheckpointEc gid ec)
  srxRootSet : ∀ ctx gid root, P ctx → P (ctx.setGroupSrxRootSw gid root)

section Commits
variable {P : AcceptanceContext → Prop} (codec : AnchorCodec) (parts : AnchorInstanceParts)
  (header : HeaderMap)

theorem CommitStable.joinCommit (h : CommitStable P) (mhNote : Option String) (now : Nat)
    (c : JoinChecked) : Preserves P (joinCommit codec parts header mhNote now c) := by
  refine .bind (.modify fun _ => h.deviceChain _ _ _ _) fun _ => ?_
  refine .bind (.modify fun _ => h.acceptedEc _ _ _) fun _ => ?_
  refine .bind (.zoom fun _ _ => h.window _ _) fun _ => ?_
  refine .bind (.check _) fun _ => .bind (.check _) fun _ => ?_
  exact .bind (.modify fun _ => h.pivotStore _ _) fun _ => .pure _

namespace MergeCommitStable

theorem commitSrxRoot (h : MergeCommitStable P) (required : Bool) (root : Bytes32)
    (ctx : AcceptanceContext) (hctx : P ctx) : P (commitSrxRoot parts required root ctx) := by
  unfold CityG.commitSrxRoot
  split
  · exact h.srxRootSet _ _ _ hctx
  · exact hctx

theorem commitMergeDevice (h : MergeCommitStable P) (fs : MergeFs) (ctx : AcceptanceContext)
    (hctx : P ctx) : P (commitMergeDevice parts fs ctx) := by
  unfold CityG.commitMergeDevice
  split
  · exact h.deviceChain _ _ _ _ hctx
  · exact hctx

theorem mergeCommit (h : MergeCommitStable P) (mhHeads : List Bytes32) (mhNote : Option String)
    (now : Nat) (fs : MergeFs) (c : MergeChecked) (required : Bool) (root : Bytes32) :
    Preserves P (mergeCommit codec parts header mhHeads mhNote now fs c required root) := by
  refine .bind (.bind (.check _) fun _ => .zoom fun _ _ => h.window _ _) fun _ => ?_
  refine .bind (.modify fun _ => h.pivotStore _ _) fun _ => ?_
  refine .bind (.check _) fun _ => .bind (.check _) fun _ => .bind (.check _) fun _ => ?_
  refine .bind (.modify fun _ => h.commitSrxRoot parts _ _ _) fun _ => ?_
  refine .bind (.modify fun _ => h.pivotStore _ _) fun _ => ?_
  refine .bind (.modify fun _ => h.commitMergeDevice parts _ _) fun _ => ?_
  refine .bind (.modify fun _ => h.checkpointEc _ _ _) fun _ => ?_
  exact .bind (.modify fun _ => h.acceptedEc _ _ _) fun _ => .pure _

end MergeCommitStable

end Commits

structure Blind (view : AcceptanceContext → τ) : Prop where
  start : ∀ ctx, view ctx.startAnchor = view ctx
  window : ∀ ctx w, view (ctx.setMhWindow w) = view ctx
  rhoGuard : ∀ ctx guard, view (ctx.setRhoGuard guard) = view ctx
  vckCache : ∀ ctx cache, view (ctx.setVckCache cache) = view ctx
  pivotStore : ∀ ctx store, view (ctx.setPivotStore store) = view ctx
  policyVersion : ∀ ctx version, view (ctx.setFsPolicyVersion version) = view ctx
  baseTs : ∀ ctx ts, view (ctx.setFsBaseTs ts) = view ctx
  acceptSeq : ∀ ctx, view ctx.bumpAcceptSeq = view ctx
  witness : ∀ ctx, view ctx.takePendingCapssWitness = view ctx
  deviceChain : ∀ ctx gid devicePk f, view (ctx.modifyDeviceChain gid devicePk f) = view ctx
  srxRoot : ∀ ctx gid, view (ctx.ensureGroupSrxRootSw gid) = view ctx

structure BlindToCommits (view : AcceptanceContext → τ) : Prop extends Blind view where
  acceptedEc : ∀ ctx gid ec, view (ctx.recordAcceptedEc gid ec) = view ctx
  checkpointEc : ∀ ctx gid ec, view (ctx.setLastCheckpointEc gid ec) = view ctx
  srxRootSet : ∀ ctx gid root, view (ctx.setGroupSrxRootSw gid root) = view ctx

namespace Blind

variable {view : AcceptanceContext → τ} (h : Blind view) (codec : AnchorCodec)
  (verifiers : AnchorProofs) (parts : AnchorInstanceParts) (header : HeaderMap)
include h

theorem stable (v : τ) : StableUnderSrx fun ctx => view ctx = v where
  start _ := (h.start _).trans
  window _ _ := (h.window _ _).trans
  rhoGuard _ _ := (h.rhoGuard _ _).trans
  prune _ _ := (h.pivotStore _ _).trans
  policyVersion _ _ := (h.policyVersion _ _).trans
  baseTs _ _ := (h.baseTs _ _).trans
  acceptSeq _ := (h.acceptSeq _).trans
  witness _ := (h.witness _).trans
  vckCache _ _ := (h.vckCache _ _).trans
  srxRoot _ _ := (h.srxRoot _ _).trans

theorem takeWitness : Keeps view takeWitness :=
  keeps_iff_preserves.mpr fun v => (h.stable v).takeWitness

theorem joinChecks (claim digest : Bytes32) (now : Nat) :
    Keeps view (joinChecks codec verifiers parts header claim digest now) :=
  keeps_iff_preserves.mpr fun v => (h.stable v).joinChecks codec verifiers parts header _ _ _

theorem mergeFs : Keeps view (mergeFs codec parts header) :=
  keeps_iff_preserves.mpr fun v => (h.stable v).mergeFs codec parts header

theorem mergeChecks (claim : Bytes32) (mhHeads : List Bytes32) (now : Nat) :
    Keeps view (mergeChecks codec parts header claim mhHeads now) :=
  keeps_iff_preserves.mpr fun v => (h.stable v).mergeChecks codec parts header _ _ _

theorem onWindow (x : EStateM FreezeError MultiHeadWindow Unit) : Keeps view (onWindow x) :=
  keeps_iff_preserves.mpr fun v => (h.stable v).onWindow x

theorem mergeSrx (required : Bool) (roots : AnchorRoots) (binding : SrxBinding) (now : Nat)
    (artifacts : ProofArtifacts) :
    Keeps view (mergeSrx codec verifiers parts header required roots binding now artifacts) :=
  keeps_iff_preserves.mpr fun v => (h.stable v).mergeSrx codec verifiers parts header _ _ _ _ _

theorem verifyBinding (anchor : AnchorInstance) (outcome : AcceptanceOutcome)
    (binding : HpBindingInputs) (hpProof witness : Bytes) :
    Keeps view (verifyBinding codec verifiers anchor header outcome binding hpProof witness) :=
  keeps_iff_preserves.mpr fun v => (h.stable v).verifyBinding codec verifiers header _ _ _ _ _

theorem commitRefresh (ctx : AcceptanceContext) (gid : Bytes) (gate : Accept.BarrierGateDecision) :
    view (ctx.commitRefresh gid header gate) = view ctx := by
  unfold AcceptanceContext.commitRefresh
  split
  · split
    · exact h.deviceChain _ _ _ _
    · rfl
  · rfl

end Blind

namespace BlindToCommits

variable {view : AcceptanceContext → τ} (h : BlindToCommits view) (codec : AnchorCodec)
  (verifiers : AnchorProofs) (parts : AnchorInstanceParts) (header : HeaderMap)
include h

theorem commitStable (v : τ) : MergeCommitStable fun ctx => view ctx = v where
  window _ _ := (h.window _ _).trans
  pivotStore _ _ := (h.pivotStore _ _).trans
  deviceChain _ _ _ _ := (h.deviceChain _ _ _ _).trans
  acceptedEc _ _ _ := (h.acceptedEc _ _ _).trans
  checkpointEc _ _ _ := (h.checkpointEc _ _ _).trans
  srxRootSet _ _ _ := (h.srxRootSet _ _ _).trans

theorem joinCommit (mhNote : Option String) (now : Nat) (c : JoinChecked) :
    Keeps view (joinCommit codec parts header mhNote now c) :=
  keeps_iff_preserves.mpr fun v => (h.commitStable v).joinCommit codec parts header _ _ _

theorem mergeCommit (mhHeads : List Bytes32) (mhNote : Option String) (now : Nat) (fs : MergeFs)
    (c : MergeChecked) (required : Bool) (root : Bytes32) :
    Keeps view (mergeCommit codec parts header mhHeads mhNote now fs c required root) :=
  keeps_iff_preserves.mpr fun v => (h.commitStable v).mergeCommit codec parts header _ _ _ _ _ _ _

theorem acceptAnchorPipeline (input : AnchorInput) (mhNote : Option String) (digest : Bytes32)
    (now : Nat) : Keeps view (acceptAnchorPipeline codec verifiers input mhNote digest now) := by
  unfold CityG.acceptAnchorPipeline
  split
  · refine .bind (.check _) fun _ => .bind (h.mergeFs codec _ _) fun _ => ?_
    refine .bind (h.mergeChecks codec _ _ _ _ _) fun _ => .bind (.check _) fun _ => ?_
    refine .bind (h.mergeSrx codec verifiers _ _ _ _ _ _ _) fun _ => .bind (.check _) fun _ => ?_
    exact .bind h.takeWitness fun _ => h.mergeCommit codec _ _ _ _ _ _ _ _ _
  · refine .bind (h.joinChecks codec verifiers _ _ _ _ _) fun _ => .bind (.check _) fun _ => ?_
    exact h.joinCommit codec _ _ _ _ _

end BlindToCommits

end CityG
