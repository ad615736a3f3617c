import Mathlib.Tactic.Common

/-!
# Error values

`FreezeError` is a code with a reason; the constants below are the ones the
modelled acceptance code returns. `MsphfError` is the core library's error.
-/

namespace CityG

inductive WitnessValidationError where
  | cborMalformed
  | nonCanonical
  | leafBindMismatch
  | projEvalFail
  | pathOversize
  deriving DecidableEq, Repr

inductive WitnessReplayField where
  | xkHash
  | rhoCommit
  deriving DecidableEq, Repr

inductive MsphfError where
  | unimplemented (feature : String)
  | serialization (msg : String)
  | invalidInput (msg : String)
  | witnessReplayMismatch (field : WitnessReplayField)
  | witness (kind : WitnessValidationError)
  deriving DecidableEq, Repr

structure FreezeError where
  code : Nat
  reason : String
  deriving DecidableEq, Repr

def freezeHashCbor : FreezeError := ⟨9071, "cbor_malformed"⟩
def freezeHashNoncanonical : FreezeError := ⟨9072, "nonmem_noncanonical"⟩
def freezeHashLeafBind : FreezeError := ⟨9073, "leaf_bind_mismatch"⟩
def freezeHashProjFail : FreezeError := ⟨9074, "proj_eval_fail"⟩
def freezeHashPathOversize : FreezeError := ⟨9075, "path_oversize"⟩
def freezeHashMemMalformed : FreezeError := ⟨90721, "mem_malformed"⟩
def freezeSrxInvalid : FreezeError := ⟨930, "srx_invalid"⟩
def freezeSrxSetConflictParent : FreezeError := ⟨9076, "set_conflict_parent"⟩
def freezeSrxAnchorMissing : FreezeError := ⟨930, "srx_anchor_missing"⟩
def freezeSrxAnchorMismatch : FreezeError := ⟨930, "srx_anchor_mismatch"⟩
def freezeSrxAnchorOob : FreezeError := ⟨930, "srx_anchor_oob"⟩
def freezeNonmemAdjIncoherent : FreezeError := ⟨9072, "nonmem_adj_incoherent"⟩
def freezeBarrierUpdaterInvalid : FreezeError := ⟨9601, "barrier_updater_invalid"⟩
def freezeBarrierExpectedpairsFailure : FreezeError := ⟨9603, "barrier_expectedpairs_failure"⟩
def freezeBarrierProactiveForbidden : FreezeError := ⟨9605, "barrier_proactive_forbidden"⟩
def freezeBarrierUpdateMalformed : FreezeError := ⟨9607, "barrier_update_malformed"⟩
def freezeBarrierTreeHashChainFailure : FreezeError := ⟨9608, "barrier_tree_hash_chain_failure"⟩
def freezeBarrierTreeSnapshotAuthFailure : FreezeError :=
  ⟨9609, "barrier_tree_snapshot_auth_failure"⟩
def freezeBarrierGenesisRequired : FreezeError := ⟨96010, "barrier_genesis_required"⟩
def freezeBarrierNonRevocationReasonForbidden : FreezeError :=
  ⟨96013, "barrier_non_revocation_reason_forbidden_while_pending_revocations"⟩

def freezeSeedctxMismatch : FreezeError := ⟨922, "msphf_seedctx_mismatch"⟩
def freezeTsweSaltMismatch : FreezeError := ⟨922, "msphf_seedctx_mismatch"⟩
def freezeStarkOversize : FreezeError := ⟨923, "msphf_hp_binding_invalid"⟩
def freezeRhoParity : FreezeError := ⟨924, "msphf_rho_parity"⟩
def freezeMsphfRhoParity : FreezeError := ⟨924, "msphf_rho_parity"⟩
def freezeMhHeadsInvalid : FreezeError := ⟨927, "mh_heads_invalid"⟩
def freezeEpochidMismatch : FreezeError := ⟨928, "epochid_mismatch"⟩
def freezeFieldMissing : FreezeError := ⟨9071, "cbor_malformed"⟩
def freezeTsweAlgInvalid : FreezeError := ⟨921, "msphf_crs_untrusted"⟩
def freezeMerkleSuiteInvalid : FreezeError := ⟨921, "msphf_crs_untrusted"⟩
def freezeKbroadAlgInvalid : FreezeError := ⟨921, "msphf_crs_untrusted"⟩
def freezeKbroadParentMismatch : FreezeError := ⟨921, "kbroad_parent_mismatch"⟩
def freezeParentEidForbidden : FreezeError := ⟨921, "parent_eid_forbidden"⟩
def freezeMsphfCrsInvalid : FreezeError := ⟨921, "msphf_crs_untrusted"⟩
def freezeMergeJoinKeys : FreezeError := ⟨921, "msphf_crs_untrusted"⟩
def freezeParamsIdInvalid : FreezeError := ⟨921, "msphf_crs_untrusted"⟩
def freezePopInvalid : FreezeError := ⟨921, "msphf_crs_untrusted"⟩
def freezeCapssInvalid : FreezeError := ⟨923, "msphf_lin_invalid"⟩
def freezeVrfInvalid : FreezeError := ⟨923, "vrf_invalid"⟩
def freezeProofsCommitInvalid : FreezeError := ⟨923, "proof_invalid"⟩
def freezeSrxRequired : FreezeError := ⟨929, "srx_required"⟩
def freezeSrxSmallwoodInvalid : FreezeError := ⟨929, "srx_smallwood_invalid"⟩
def freezeSrxSetConflictRevoke : FreezeError := ⟨9077, "set_conflict_revoke"⟩
def freezeSrxSetConflictSubset : FreezeError := ⟨9078, "set_conflict_subset"⟩
def freezeSrxHintUnder : FreezeError := ⟨930, "srx_hint_under"⟩
def freezeSrxOversizeHint : FreezeError := ⟨930, "srx_oversize_hint"⟩
def freezeSrxFrontierMismatch : FreezeError := ⟨930, "srx_frontier_mismatch"⟩
def freezeSrxAnchorPoolUnsorted : FreezeError := ⟨930, "srx_anchor_pool_unsorted"⟩
def freezeSrxCommitMismatch : FreezeError := ⟨930, "srx_commit_mismatch"⟩
def freezeBootstrapInvalid : FreezeError := ⟨931, "bootstrap_invalid"⟩
def freezeBootstrapUnsupported : FreezeError := ⟨932, "bootstrap_unsupported"⟩
def freezeSuiteDeprecated : FreezeError := ⟨934, "suite_deprecated"⟩
def freezeSuiteForbidden : FreezeError := ⟨934, "suite_forbidden"⟩
def freezeFsPolicyWindowIncompatible : FreezeError := ⟨9480, "fs_policy_window_incompatible"⟩
def freezeFsJoinMissing : FreezeError := ⟨9441, "fs_join_missing"⟩
def freezeFsBaseMismatch : FreezeError := ⟨9450, "fs_base_mismatch"⟩
def freezeFsPolicyVersionUnsupported : FreezeError := ⟨9446, "fs_policy_version_unsupported"⟩
def freezeFsDevChainBreak : FreezeError := ⟨9470, "fs_dev_chain_break"⟩
def freezeFsCheckpointBackdate : FreezeError := ⟨9471, "fs_checkpoint_backdate"⟩
def freezeFsDevChainBindMismatch : FreezeError := ⟨9472, "fs_dev_chain_bind_mismatch"⟩
def freezeFsCheckpointMonotonicity : FreezeError := ⟨9473, "fs_checkpoint_monotonicity"⟩
def freezeFsForwardJumpDevice : FreezeError := ⟨9474, "fs_forward_jump_device"⟩
def freezeFsForwardJumpFirst : FreezeError := ⟨9475, "fs_forward_jump_first"⟩
def freezeFsForwardJumpGroup : FreezeError := ⟨9476, "fs_forward_jump_group"⟩
def freezeBarrierMergeDelegationForbidden : FreezeError :=
  ⟨9604, "barrier_merge_delegation_forbidden"⟩
def freezeBarrierUpdateRequiredOnRevocationChange : FreezeError :=
  ⟨96011, "barrier_update_required_on_revocation_change"⟩
def freezeBarrierPcsRefreshRateLimited : FreezeError := ⟨96012, "pcs_refresh_rate_limited"⟩

inductive AcceptanceError where
  | freeze (err : FreezeError)
  | msphf (err : MsphfError)
  deriving DecidableEq, Repr

def AcceptanceError.ofMsphf : MsphfError → AcceptanceError
  | .witness .cborMalformed => .freeze freezeHashCbor
  | .witness .nonCanonical => .freeze freezeHashNoncanonical
  | .witness .leafBindMismatch => .freeze freezeHashLeafBind
  | .witness .projEvalFail => .freeze freezeHashProjFail
  | .witness .pathOversize => .freeze freezeHashPathOversize
  | err => .msphf err

inductive CityGError where
  | msphf (err : MsphfError)
  | acceptance (err : AcceptanceError)
  | io (msg : String)
  | invalidInput (msg : String)
  deriving DecidableEq, Repr

def CityGError.freeze (err : FreezeError) : CityGError := .acceptance (.freeze err)

end CityG
