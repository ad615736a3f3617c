import CityG.Cbor
import CityG.Roster
import CityG.Runtime.Pagination
import CityG.Slots

/-!
# Resolving revoked occupancies page by page

The client asks an untrusted server for one page after the other and stops at
the page without a successor. CBOR, room identifiers and signatures are
parameters; the checks around them are the client's.
-/

namespace CityG

open Except (ensure ofOption)

abbrev ApiError := String

inductive HistoryAuthorityExtension where
  | localHistoryAuthorityV1
  | globalHistoryAuthorityV1
  deriving DecidableEq

def LOCAL_HISTORY_AUTHORITY_EXTENSION_ID : String := "local-history-authority-v1"
def GLOBAL_HISTORY_AUTHORITY_EXTENSION_ID : String := "global-history-authority-v1"
def LOCAL_HISTORY_ATTESTATION_FINALITY_KIND : String := "local-append-only"
def GLOBAL_HISTORY_ATTESTATION_FINALITY_KIND : String := "global-append-only"
def HELPER_KIND_REVOKED_OCCUPANCIES : String := "resolve_revoked_occupancies"
def EXPECTED_PROFILE_VERSION : String := "v0.1.4"
def MAX_BARRIER_HELPER_PAGE_ENTRIES : Nat := 512

def HistoryAuthorityExtension.asStr : HistoryAuthorityExtension → String
  | localHistoryAuthorityV1 => LOCAL_HISTORY_AUTHORITY_EXTENSION_ID
  | globalHistoryAuthorityV1 => GLOBAL_HISTORY_AUTHORITY_EXTENSION_ID

structure HistoryAuthorityDescriptor where
  scopeId : Bytes32
  publicKey : Bytes
  deriving DecidableEq

structure GlobalHistoryAttestation where
  scopeId : Bytes32
  gid : Bytes32
  historyCommitment : HistoryCommitment
  barrierVersion : Nat
  kemTreeHashAfter : Bytes32
  parentAttestationId : Bytes32
  finalityKind : String
  signature : Bytes
  deriving DecidableEq

structure GlobalHistoryAttestationWire where
  scopeId : Bytes
  gid : Bytes
  historyViewId : Bytes
  historyCommitmentId : Bytes
  prevHistoryCommitmentId : Bytes
  historySeq : Nat
  barrierVersion : Nat
  kemTreeHashAfter : Bytes
  parentAttestationId : Bytes
  finalityKind : String
  signature : Bytes

structure HelperCompletenessAttestation where
  scopeId : Bytes32
  helperKind : String
  signature : Bytes

structure FsForwardLeapPolicy where
  h : Nat
  checkpointInterval : Nat
  slackAnchor : Nat
  slackFirstDevice : Nat
  slackDevice : Nat
  deriving DecidableEq

structure DeploymentProfileManifestWire where
  scopeId : Bytes
  historyAuthorityExtension : String
  gid : Bytes
  profileVersion : String
  nMax : Nat
  maxBarrierUpdateBytes : Nat
  fsForwardLeap : FsForwardLeapPolicy
  signature : Bytes

structure PbHistoryCommitment where
  historyViewId : Bytes
  historyCommitmentId : Bytes
  prevHistoryCommitmentId : Bytes
  historySeq : Nat

structure BarrierRevokedOccupancyRecord where
  slotIndex : Nat
  slotGeneration : Nat
  deriving DecidableEq

structure RevokedOccupanciesResponse where
  historyViewId : Bytes
  historyCommitment : Option PbHistoryCommitment
  pageOffset : Nat
  nextPageOffset : Option Nat
  totalEntries : Nat
  helperCompletenessAttestation : Bytes
  historyAuthorityDescriptor : Bytes
  globalHistoryAttestation : Bytes
  historyAuthorityExtension : String
  profileVersion : String
  nMax : Nat
  maxBarrierUpdateBytes : Nat
  fsForwardLeapPolicy : Option FsForwardLeapPolicy
  deploymentProfileManifest : Bytes
  records : List BarrierRevokedOccupancyRecord

/-- Decoders of canonical CBOR, the encoder of signed payloads, and signatures. -/
structure HelperWire where
  parseRoomIdGid : String → Except ApiError Bytes32
  descriptor : Bytes → Except ApiError (Bytes × Bytes)
  attestation : Bytes → Except ApiError GlobalHistoryAttestationWire
  completeness : Bytes → Except ApiError (Bytes × String × Bytes)
  manifest : Bytes → Except ApiError DeploymentProfileManifestWire
  encode : Value → Bytes
  publicKeyBytes : Nat
  /-- Message, public key, signature. -/
  verifySignature : Bytes → Bytes → Bytes → Except ApiError Unit

def array32 (bytes : Bytes) : Except ApiError Bytes32 :=
  ofOption "invalid 32-byte field" (toBytes32 bytes)

def parseHistoryCommitment (historyViewId : Bytes32) (commitment : Option PbHistoryCommitment) :
    Except ApiError HistoryCommitment := do
  let commitment ← ofOption "missing history_commitment" commitment
  let commitmentViewId ← array32 commitment.historyViewId
  ensure (commitmentViewId = historyViewId) "history_commitment.history_view_id mismatch"
  let historyCommitmentId ← array32 commitment.historyCommitmentId
  let prevHistoryCommitmentId ← array32 commitment.prevHistoryCommitmentId
  pure ⟨historyViewId, historyCommitmentId, prevHistoryCommitmentId, commitment.historySeq⟩

def ensureProfileVersion (version : String) : Except ApiError Unit :=
  ensure (version = EXPECTED_PROFILE_VERSION)
    ("profile_version mismatch: expected " ++ EXPECTED_PROFILE_VERSION ++ ", got " ++ version)

def parseFsForwardLeapPolicy (policy : Option FsForwardLeapPolicy) :
    Except ApiError FsForwardLeapPolicy := do
  let policy ← ofOption "missing fs_forward_leap_policy" policy
  ensure (policy.h ≠ 0) "fs_forward_leap_policy.h must be > 0"
  ensure (policy.h ≤ policy.checkpointInterval)
    "fs_forward_leap_policy.checkpoint_interval must be >= h"
  pure policy

def parseHistoryAuthorityExtension (raw : String) (carriesExtensionBytes : Bool) :
    Except ApiError (Option HistoryAuthorityExtension) :=
  if raw = "" then do
    ensure (carriesExtensionBytes = false)
      "history authority extension bytes present without negotiated extension"
    pure none
  else if raw = LOCAL_HISTORY_AUTHORITY_EXTENSION_ID then pure (some .localHistoryAuthorityV1)
  else if raw = GLOBAL_HISTORY_AUTHORITY_EXTENSION_ID then pure (some .globalHistoryAuthorityV1)
  else .error ("unsupported history authority extension: " ++ raw)

def requireBaseProfileGlobalHistoryAuthorityExtension (context : String) :
    Option HistoryAuthorityExtension → Except ApiError HistoryAuthorityExtension
  | some .globalHistoryAuthorityV1 => pure .globalHistoryAuthorityV1
  | some .localHistoryAuthorityV1 =>
    .error (context ++ " must carry global-history-authority-v1 in the base profile")
  | none =>
    .error (context ++ " missing required global-history-authority-v1 in the base profile")

def requireHistoryAuthorityDescriptorForExtension (context : String)
    (extension : Option HistoryAuthorityExtension) (authority : Option HistoryAuthorityDescriptor) :
    Except ApiError Unit :=
  ensure (¬ (extension.isSome ∧ authority.isNone))
    (context ++ " carries history authority extension without authority descriptor")

def validateLocalHistoryAttestationKind (context : String)
    (extension : Option HistoryAuthorityExtension) (attestation : GlobalHistoryAttestation) :
    Except ApiError Unit :=
  let mismatch := context ++ " global_history_attestation finality_kind mismatch"
  match extension with
  | some .localHistoryAuthorityV1 =>
    ensure (attestation.finalityKind = LOCAL_HISTORY_ATTESTATION_FINALITY_KIND) mismatch
  | some .globalHistoryAuthorityV1 =>
    ensure (attestation.finalityKind = GLOBAL_HISTORY_ATTESTATION_FINALITY_KIND) mismatch
  | none => pure ()

namespace HelperWire
variable (wire : HelperWire)

def parseHistoryAuthorityDescriptorBytes (raw : Bytes) :
    Except ApiError (Option HistoryAuthorityDescriptor) :=
  if raw = [] then pure none
  else do
    let (scopeId, publicKey) ← wire.descriptor raw
    ensure (publicKey.length = wire.publicKeyBytes)
      "history_authority_descriptor public_key length mismatch"
    let scopeId ← array32 scopeId
    pure (some ⟨scopeId, publicKey⟩)

def attestationPayload (a : GlobalHistoryAttestation) : Value :=
  .array [.text "cityg/global-history-attestation-v1", .bytes a.scopeId.val, .bytes a.gid.val,
    .bytes a.historyCommitment.historyViewId.val, .bytes a.historyCommitment.historyCommitmentId.val,
    .bytes a.historyCommitment.prevHistoryCommitmentId.val, .ofNat a.historyCommitment.historySeq,
    .ofNat a.barrierVersion, .bytes a.kemTreeHashAfter.val, .bytes a.parentAttestationId.val,
    .text a.finalityKind]

def parseGlobalHistoryAttestationBytes (raw : Bytes) (authority : HistoryAuthorityDescriptor) :
    Except ApiError (Option GlobalHistoryAttestation) :=
  if raw = [] then pure none
  else do
    let w ← wire.attestation raw
    let scopeId ← array32 w.scopeId
    let gid ← array32 w.gid
    let historyViewId ← array32 w.historyViewId
    let historyCommitmentId ← array32 w.historyCommitmentId
    let prevHistoryCommitmentId ← array32 w.prevHistoryCommitmentId
    let kemTreeHashAfter ← array32 w.kemTreeHashAfter
    let parentAttestationId ← array32 w.parentAttestationId
    let attestation : GlobalHistoryAttestation :=
      ⟨scopeId, gid, ⟨historyViewId, historyCommitmentId, prevHistoryCommitmentId, w.historySeq⟩,
        w.barrierVersion, kemTreeHashAfter, parentAttestationId, w.finalityKind, w.signature⟩
    ensure (authority.scopeId = attestation.scopeId) "global_history_attestation scope_id mismatch"
    wire.verifySignature (wire.encode (attestationPayload attestation)) authority.publicKey
      attestation.signature
    pure (some attestation)

def parseHelperCompletenessAttestationBytes (raw : Bytes) (authority : HistoryAuthorityDescriptor)
    (helperKind : String) : Except ApiError (Option HelperCompletenessAttestation) :=
  if raw = [] then pure none
  else do
    let (scopeId, decodedHelperKind, signature) ← wire.completeness raw
    let scopeId ← array32 scopeId
    ensure (scopeId = authority.scopeId) "helper_completeness_attestation scope_id mismatch"
    ensure (decodedHelperKind = helperKind) "helper_completeness_attestation helper_kind mismatch"
    pure (some ⟨scopeId, decodedHelperKind, signature⟩)

def revokedRecordValue (record : BarrierRevokedOccupancyRecord) : Value :=
  .ofFields [("slot_index", .ofNat record.slotIndex),
    ("slot_generation", .ofNat record.slotGeneration)]

def verifyRevokedOccupanciesCompletenessAttestation (attestation : HelperCompletenessAttestation)
    (authority : HistoryAuthorityDescriptor) (commitment : HistoryCommitment)
    (revocationRootsHash : Bytes32) (pageOffset totalEntries : Nat)
    (records : List BarrierRevokedOccupancyRecord) : Except ApiError Unit :=
  wire.verifySignature
    (wire.encode (.ofFields
      [("label", .text "cityg/helper-completeness-attestation-v1"),
        ("scope_id", .bytes attestation.scopeId.val), ("helper_kind", .text attestation.helperKind),
        ("history_view_id", .bytes commitment.historyViewId.val),
        ("history_commitment_id", .bytes commitment.historyCommitmentId.val),
        ("page_offset", .ofNat pageOffset), ("total_entries", .ofNat totalEntries),
        ("selector", .ofFields
          [("revocation_roots_hash", .bytes revocationRootsHash.val),
            ("records", .array (records.map revokedRecordValue))])]))
    authority.publicKey attestation.signature

structure ManifestContext where
  gid : Bytes32
  profileVersion : String
  nMax : Nat
  maxBarrierUpdateBytes : Nat
  fsForwardLeapPolicy : FsForwardLeapPolicy
  context : String

def verifyDeploymentProfileManifest (raw : Bytes) (authority : HistoryAuthorityDescriptor)
    (extension : HistoryAuthorityExtension) (c : ManifestContext) : Except ApiError Unit := do
  ensure (raw ≠ []) (c.context ++ " missing deployment_profile_manifest")
  let manifest ← wire.manifest raw
  let scopeId ← array32 manifest.scopeId
  ensure (scopeId = authority.scopeId)
    (c.context ++ " deployment_profile_manifest scope_id mismatch")
  ensure (manifest.historyAuthorityExtension = extension.asStr)
    (c.context ++ " deployment_profile_manifest history_authority_extension mismatch")
  let gid ← array32 manifest.gid
  ensure (gid = c.gid) (c.context ++ " deployment_profile_manifest gid mismatch")
  ensure (manifest.profileVersion = c.profileVersion)
    (c.context ++ " deployment_profile_manifest profile_version mismatch")
  ensure (manifest.nMax = c.nMax ∧ manifest.maxBarrierUpdateBytes = c.maxBarrierUpdateBytes)
    (c.context ++ " deployment_profile_manifest barrier config mismatch")
  ensure (manifest.fsForwardLeap = c.fsForwardLeapPolicy)
    (c.context ++ " deployment_profile_manifest fs policy mismatch")
  wire.verifySignature
    (wire.encode (.ofFields
      [("label", .text "cityg/deployment-profile-manifest-v1"),
        ("scope_id", .bytes authority.scopeId.val),
        ("history_authority_extension", .text extension.asStr), ("gid", .bytes c.gid.val),
        ("profile_version", .text c.profileVersion), ("n_max", .ofNat c.nMax),
        ("max_barrier_update_bytes", .ofNat c.maxBarrierUpdateBytes),
        ("fs_forward_leap_h", .ofNat c.fsForwardLeapPolicy.h),
        ("fs_forward_leap_checkpoint_interval", .ofNat c.fsForwardLeapPolicy.checkpointInterval),
        ("fs_forward_leap_slack_anchor", .ofNat c.fsForwardLeapPolicy.slackAnchor),
        ("fs_forward_leap_slack_first_device", .ofNat c.fsForwardLeapPolicy.slackFirstDevice),
        ("fs_forward_leap_slack_device", .ofNat c.fsForwardLeapPolicy.slackDevice)]))
    authority.publicKey manifest.signature

def validateBarrierNMax (nMax : Nat) : Except ApiError Nat := do
  ensure (isPowerOfTwo nMax) "barrier n_max must be a non-zero power of two"
  ensure (nMax ≤ MAX_BARRIER_N_MAX) ("barrier n_max exceeds MAX_BARRIER_N_MAX: " ++
    toString nMax ++ " > " ++ toString MAX_BARRIER_N_MAX)
  pure nMax

structure PageFacts where
  historyViewId : Bytes32
  historyCommitment : HistoryCommitment
  extension : HistoryAuthorityExtension
  authority : Option HistoryAuthorityDescriptor
  attestation : Option GlobalHistoryAttestation

def revokedLeavesResponse : String := "revoked leaves response"

def pageAttestation (gid : Bytes32) (response : RevokedOccupanciesResponse)
    (commitment : HistoryCommitment) (nMax : Nat) (policy : FsForwardLeapPolicy)
    (extension : HistoryAuthorityExtension) :
    Option HistoryAuthorityDescriptor → Except ApiError (Option GlobalHistoryAttestation)
  | some authority => do
    let parsed ← wire.parseGlobalHistoryAttestationBytes response.globalHistoryAttestation authority
    let attestation ← ofOption
      "revoked leaves response missing global_history_attestation" parsed
    ensure (attestation.historyCommitment = commitment)
      "revoked leaves response global_history_attestation commitment mismatch"
    validateLocalHistoryAttestationKind revokedLeavesResponse (some extension) attestation
    wire.verifyDeploymentProfileManifest response.deploymentProfileManifest authority extension
      ⟨gid, response.profileVersion, nMax, response.maxBarrierUpdateBytes, policy,
        revokedLeavesResponse⟩
    pure (some attestation)
  | none => do
    ensure (response.globalHistoryAttestation = [] ∧ response.helperCompletenessAttestation = [] ∧
        response.deploymentProfileManifest = [])
      "revoked leaves response carries history extension bytes without authority descriptor"
    pure none

def verifyPageCompleteness (revocationRootsHash : Bytes32) (response : RevokedOccupanciesResponse)
    (commitment : HistoryCommitment) : Option HistoryAuthorityDescriptor → Except ApiError Unit
  | some authority => do
    let parsed ← wire.parseHelperCompletenessAttestationBytes
      response.helperCompletenessAttestation authority HELPER_KIND_REVOKED_OCCUPANCIES
    let attestation ← ofOption
      "revoked leaves response missing helper_completeness_attestation" parsed
    wire.verifyRevokedOccupanciesCompletenessAttestation attestation authority commitment
      revocationRootsHash response.pageOffset response.totalEntries response.records
  | none => pure ()

def checkPage (gid revocationRootsHash : Bytes32) (pageOffset : Nat)
    (response : RevokedOccupanciesResponse) : Except ApiError PageFacts := do
  ensure (response.pageOffset = pageOffset) "barrier helper pagination page_offset mismatch"
  ensure (response.records.length ≤ MAX_BARRIER_HELPER_PAGE_ENTRIES)
    "barrier helper pagination page too large"
  let historyViewId ← array32 response.historyViewId
  let commitment ← parseHistoryCommitment historyViewId response.historyCommitment
  ensureProfileVersion response.profileVersion
  let nMax ← validateBarrierNMax response.nMax
  let policy ← parseFsForwardLeapPolicy response.fsForwardLeapPolicy
  let parsedExtension ← parseHistoryAuthorityExtension response.historyAuthorityExtension
    (response.historyAuthorityDescriptor ≠ [] ∨ response.globalHistoryAttestation ≠ [] ∨
      response.helperCompletenessAttestation ≠ [] ∨ response.deploymentProfileManifest ≠ [])
  let extension ← requireBaseProfileGlobalHistoryAuthorityExtension revokedLeavesResponse
    parsedExtension
  let authority ← wire.parseHistoryAuthorityDescriptorBytes response.historyAuthorityDescriptor
  requireHistoryAuthorityDescriptorForExtension revokedLeavesResponse (some extension) authority
  let attestation ← wire.pageAttestation gid response commitment nMax policy extension authority
  wire.verifyPageCompleteness revocationRootsHash response commitment authority
  pure ⟨historyViewId, commitment, extension, authority, attestation⟩

end HelperWire

structure HelperPages where
  pageOffset : Nat := 0
  expectedHistory : Option (Bytes32 × HistoryCommitment × Nat) := none
  expectedExtension : Option HistoryAuthorityExtension := none
  expectedAuthority : Option HistoryAuthorityDescriptor := none
  expectedGlobalAttestation : Option GlobalHistoryAttestation := none
  expectedDeploymentProfileManifest : Option Bytes := none
  records : List BarrierRevokedOccupancyRecord := []

def ensureBarrierHelperHistoryPage (historyViewId : Bytes32) (commitment : HistoryCommitment)
    (totalEntries : Nat) : Option (Bytes32 × HistoryCommitment × Nat) →
    Except ApiError (Option (Bytes32 × HistoryCommitment × Nat))
  | some (expectedViewId, expectedCommitment, expectedTotal) => do
    ensure (expectedViewId = historyViewId) "barrier helper pagination history_view_id mismatch"
    ensure (expectedCommitment = commitment)
      "barrier helper pagination history_commitment mismatch"
    ensure (expectedTotal = totalEntries) "barrier helper pagination total_entries mismatch"
    pure (some (expectedViewId, expectedCommitment, expectedTotal))
  | none => pure (some (historyViewId, commitment, totalEntries))

def agreeAcrossPages {T : Type} [DecidableEq T] (mismatch : ApiError) :
    Option T → Option T → Except ApiError (Option T)
  | some expected, some actual => do
    ensure (expected = actual) mismatch
    pure (some expected)
  | none, actual => pure actual
  | some expected, none => pure (some expected)

namespace HelperPages
variable (pages : HelperPages)

def extend (facts : HelperWire.PageFacts) (response : RevokedOccupanciesResponse) :
    Except ApiError HelperPages := do
  let expectedHistory ← ensureBarrierHelperHistoryPage facts.historyViewId facts.historyCommitment
    response.totalEntries pages.expectedHistory
  let expectedExtension ← agreeAcrossPages
    "revoked leaves response history authority extension mismatch across pages"
    pages.expectedExtension (some facts.extension)
  let expectedAuthority ← agreeAcrossPages
    "revoked leaves response history authority mismatch across pages"
    pages.expectedAuthority facts.authority
  let expectedGlobalAttestation ← agreeAcrossPages
    "revoked leaves response global history attestation mismatch across pages"
    pages.expectedGlobalAttestation facts.attestation
  let expectedDeploymentProfileManifest ← agreeAcrossPages
    "revoked leaves response deployment_profile_manifest mismatch across pages"
    pages.expectedDeploymentProfileManifest (some response.deploymentProfileManifest)
  pure
    { pageOffset := pages.pageOffset
      expectedHistory, expectedExtension, expectedAuthority, expectedGlobalAttestation
      expectedDeploymentProfileManifest
      records := pages.records ++ response.records }

def nextOffset (response : RevokedOccupanciesResponse) : Except ApiError (Option Nat) :=
  match response.nextPageOffset with
  | none => pure none
  | some next => do
    ensure (pages.pageOffset < next ∧ next = pages.records.length)
      "barrier helper pagination next_page_offset mismatch"
    pure (some next)

def takePage (wire : HelperWire) (gid revocationRootsHash : Bytes32)
    (response : RevokedOccupanciesResponse) : Except ApiError (HelperPages × Option Nat) := do
  let facts ← wire.checkPage gid revocationRootsHash pages.pageOffset response
  let pages ← pages.extend facts response
  let next ← pages.nextOffset response
  pure (pages, next)

end HelperPages

/-- The loop against what the server answers, request by request; `none` when
it stops answering. The answers that are left come with the result. -/
def resolveRevokedLoop (wire : HelperWire) (gid revocationRootsHash : Bytes32) :
    HelperPages → List (Except ApiError RevokedOccupanciesResponse) →
      Option (Except ApiError (HelperPages × List (Except ApiError RevokedOccupanciesResponse)))
  | _, [] => none
  | _, .error e :: _ => some (.error e)
  | pages, .ok response :: rest =>
    match pages.takePage wire gid revocationRootsHash response with
    | .error e => some (.error e)
    | .ok (pages, none) => some (.ok (pages, rest))
    | .ok (pages, some next) =>
      resolveRevokedLoop wire gid revocationRootsHash { pages with pageOffset := next } rest

structure BarrierResolvedRevokedOccupancies where
  historyViewId : Bytes32
  historyCommitment : HistoryCommitment
  historyAuthorityExtension : Option HistoryAuthorityExtension
  historyAuthority : Option HistoryAuthorityDescriptor
  globalHistoryAttestation : Option GlobalHistoryAttestation
  records : List BarrierRevokedOccupancyRecord
  deriving DecidableEq

def HelperPages.finish (pages : HelperPages) :
    Except ApiError BarrierResolvedRevokedOccupancies := do
  let (historyViewId, historyCommitment, totalEntries) ←
    ofOption "barrier helper pagination missing first page" pages.expectedHistory
  ensure (pages.records.length = totalEntries) "barrier helper pagination truncated revoked leaves"
  pure ⟨historyViewId, historyCommitment, pages.expectedExtension, pages.expectedAuthority,
    pages.expectedGlobalAttestation, pages.records⟩

def barrierResolveRevokedOccupancies (wire : HelperWire) (roomId : String)
    (revocationRootsHash : Bytes32) (responses : List (Except ApiError RevokedOccupanciesResponse)) :
    Option (Except ApiError (BarrierResolvedRevokedOccupancies ×
      List (Except ApiError RevokedOccupanciesResponse))) :=
  match wire.parseRoomIdGid roomId with
  | .error e => some (.error e)
  | .ok gid =>
    (resolveRevokedLoop wire gid revocationRootsHash {} responses).map fun outcome => do
      let (pages, rest) ← outcome
      let resolved ← pages.finish
      pure (resolved, rest)

structure RevokedOccupanciesResponse.Carries (page : RevokedOccupanciesResponse)
    (commitment : HistoryCommitment) : Prop where
  historyViewId : page.historyViewId = commitment.historyViewId.val
  historyCommitment : page.historyCommitment = some
    ⟨commitment.historyViewId.val, commitment.historyCommitmentId.val,
      commitment.prevHistoryCommitmentId.val, commitment.historySeq⟩

def Contiguous : Nat → List RevokedOccupanciesResponse → Prop
  | _, [] => False
  | offset, [page] => page.pageOffset = offset ∧ page.nextPageOffset = none
  | offset, page :: rest =>
    page.pageOffset = offset ∧ page.nextPageOffset = some (offset + page.records.length) ∧
      Contiguous (offset + page.records.length) rest

theorem array32_eq_ok {bytes : Bytes} {b : Bytes32} (h : array32 bytes = .ok b) : bytes = b.val := by
  rw [array32, Except.ofOption_eq_ok, toBytes32] at h
  split at h
  · cases h
    rfl
  · cases h

section
variable {wire : HelperWire} {gid revocationRootsHash : Bytes32} {offset : Nat}
  {response : RevokedOccupanciesResponse} {facts : HelperWire.PageFacts}

theorem parseHistoryCommitment_eq_ok {viewId : Bytes32} {commitment : HistoryCommitment}
    {pb : Option PbHistoryCommitment} (h : parseHistoryCommitment viewId pb = .ok commitment) :
    viewId = commitment.historyViewId ∧ pb = some
      ⟨commitment.historyViewId.val, commitment.historyCommitmentId.val,
        commitment.prevHistoryCommitmentId.val, commitment.historySeq⟩ := by
  simp only [parseHistoryCommitment, Except.bind_eq_ok, Except.ofOption_eq_ok, Except.ensure_eq_ok,
    Except.pure_eq_ok] at h
  obtain ⟨pb', rfl, view, hview, _, rfl, id, hid, prev, hprev, rfl⟩ := h
  refine ⟨rfl, ?_⟩
  rw [← array32_eq_ok hview, ← array32_eq_ok hid, ← array32_eq_ok hprev]

theorem HelperWire.checkPage_eq_ok
    (h : wire.checkPage gid revocationRootsHash offset response = .ok facts) :
    response.pageOffset = offset ∧ response.Carries facts.historyCommitment := by
  simp only [checkPage, Except.bind_eq_ok, Except.ensure_eq_ok, Except.pure_eq_ok] at h
  obtain ⟨_, hoffset, _, -, viewId, hview, commitment, hcommitment, _, -, _, -, _, -, _, -, _, -, _,
    -, _, -, _, -, _, -, rfl⟩ := h
  obtain ⟨rfl, hpb⟩ := parseHistoryCommitment_eq_ok hcommitment
  exact ⟨hoffset, array32_eq_ok hview, hpb⟩

theorem ensureBarrierHelperHistoryPage_eq_ok {viewId : Bytes32} {commitment : HistoryCommitment}
    {total : Nat} {expected expected' : Option (Bytes32 × HistoryCommitment × Nat)}
    (h : ensureBarrierHelperHistoryPage viewId commitment total expected = .ok expected') :
    expected' = some (viewId, commitment, total) ∧ (expected = none ∨ expected = expected') := by
  cases expected with
  | none =>
    cases h
    exact ⟨rfl, .inl rfl⟩
  | some triple =>
    obtain ⟨expectedView, expectedCommitment, expectedTotal⟩ := triple
    simp only [ensureBarrierHelperHistoryPage, Except.bind_eq_ok, Except.ensure_eq_ok,
      Except.pure_eq_ok] at h
    obtain ⟨_, rfl, _, rfl, _, rfl, rfl⟩ := h
    exact ⟨rfl, .inr rfl⟩

theorem HelperPages.takePage_eq_ok {pages pages' : HelperPages} {next : Option Nat}
    (h : pages.takePage wire gid revocationRootsHash response = .ok (pages', next)) :
    response.pageOffset = pages.pageOffset ∧ response.nextPageOffset = next ∧
      (∀ offset ∈ next, offset = pages'.records.length) ∧
      pages'.records = pages.records ++ response.records ∧
      ∃ viewId commitment, response.Carries commitment ∧
        pages'.expectedHistory = some (viewId, commitment, response.totalEntries) ∧
        (pages.expectedHistory = none ∨ pages.expectedHistory = pages'.expectedHistory) := by
  simp only [takePage, extend, Except.bind_eq_ok, Except.pure_eq_ok] at h
  obtain ⟨facts, hcheck, extended, ⟨history, hhistory, _, -, _, -, _, -, _, -, rfl⟩, next', hnext, heq⟩
    := h
  obtain ⟨rfl, rfl⟩ := Prod.mk.inj heq
  obtain ⟨hoffset, hcarries⟩ := HelperWire.checkPage_eq_ok hcheck
  obtain ⟨rfl, hold⟩ := ensureBarrierHelperHistoryPage_eq_ok hhistory
  refine ⟨hoffset, ?_, ?_, rfl, facts.historyViewId, facts.historyCommitment, hcarries, rfl, hold⟩
  · unfold nextOffset at hnext
    split at hnext
    · next hnone => rw [hnone, ← Except.pure_eq_ok.mp hnext]
    · next offset hsome =>
        simp only [Except.bind_eq_ok, Except.ensure_eq_ok, Except.pure_eq_ok] at hnext
        obtain ⟨_, _, rfl⟩ := hnext
        exact hsome
  · unfold nextOffset at hnext
    split at hnext
    · rw [← Except.pure_eq_ok.mp hnext]
      simp
    · simp only [Except.bind_eq_ok, Except.ensure_eq_ok, Except.pure_eq_ok] at hnext
      obtain ⟨_, ⟨_, hlength⟩, rfl⟩ := hnext
      intro offset hoffset
      rw [← Option.some.inj hoffset]
      exact hlength

/-- From any point of the loop on: the answers used are contiguous pages under
one commitment and total, and their records are appended in order. -/
theorem resolveRevokedLoop_eq_ok {pages final : HelperPages}
    {responses rest : List (Except ApiError RevokedOccupanciesResponse)}
    (hlength : pages.records.length = pages.pageOffset)
    (h : resolveRevokedLoop wire gid revocationRootsHash pages responses =
      some (.ok (final, rest))) :
    ∃ used viewId commitment total, responses = used.map .ok ++ rest ∧
      Contiguous pages.pageOffset used ∧
      final.records = pages.records ++ used.flatMap (·.records) ∧
      final.expectedHistory = some (viewId, commitment, total) ∧
      (pages.expectedHistory = none ∨ pages.expectedHistory = final.expectedHistory) ∧
      ∀ page ∈ used, page.Carries commitment ∧ page.totalEntries = total := by
  induction responses generalizing pages with
  | nil => cases h
  | cons answer others ih =>
    cases answer with
    | error e => cases h
    | ok response =>
      cases htake : pages.takePage wire gid revocationRootsHash response with
      | error e =>
        simp only [resolveRevokedLoop, htake] at h
        cases h
      | ok taken =>
        obtain ⟨pages', next⟩ := taken
        obtain ⟨hoffset, hnext, hfits, hrecords, viewId, commitment, hcarries, hhistory, hold⟩ :=
          HelperPages.takePage_eq_ok htake
        cases next with
        | none =>
          simp only [resolveRevokedLoop, htake] at h
          cases h
          refine ⟨[response], viewId, commitment, response.totalEntries, rfl,
            ⟨hoffset, hnext⟩, ?_, hhistory, hold, ?_⟩
          · rw [hrecords, List.flatMap_cons, List.flatMap_nil, List.append_nil]
          · intro page hpage
            rw [List.mem_singleton.mp hpage]
            exact ⟨hcarries, rfl⟩
        | some offset =>
          simp only [resolveRevokedLoop, htake] at h
          have hoffset' : offset = pages.pageOffset + response.records.length := by
            rw [hfits offset rfl, hrecords, List.length_append, hlength]
          obtain ⟨used, viewId', commitment', total', hused, hcontiguous, hfinal, hexpected,
            hsame, hall⟩ := ih (hfits offset rfl).symm h
          have hagree : pages'.expectedHistory = final.expectedHistory := by
            rcases hsame with hnone | hsame
            · rw [hhistory] at hnone
              cases hnone
            · exact hsame
          have htriple : (viewId, commitment, response.totalEntries) =
              (viewId', commitment', total') :=
            Option.some.inj (hhistory.symm.trans (hagree.trans hexpected))
          obtain ⟨_, hrest⟩ := Prod.mk.inj htriple
          obtain ⟨hcommitment, htotal⟩ := Prod.mk.inj hrest
          subst hcommitment htotal
          refine ⟨response :: used, viewId', commitment, response.totalEntries, ?_, ?_, ?_,
            hexpected, hold.imp_right (·.trans hagree), ?_⟩
          · rw [hused]
            rfl
          · cases used with
            | nil => exact hcontiguous.elim
            | cons second others' =>
              exact ⟨hoffset, by rw [hnext, hoffset'], hoffset' ▸ hcontiguous⟩
          · rw [hfinal, hrecords, List.flatMap_cons, List.append_assoc]
          · intro page hpage
            rcases List.mem_cons.mp hpage with rfl | hpage
            · exact ⟨hcarries, rfl⟩
            · exact hall page hpage

end

/-- A client that follows the pages of a collection gets the collection; and
whatever a server answers, what the client accepts are contiguous pages from
offset 0 under one commitment and one total, which counts the records. -/
theorem helper_pages_cover :
    (∀ (T : Type) (items : List T) (maxEntries maxPageEntries fuel : Nat),
      items.length ≤ U32_MAX → 0 < pageLength maxEntries maxPageEntries →
      pageLength maxEntries maxPageEntries ≤ maxPageEntries → items.length < fuel →
      followPages items maxEntries maxPageEntries fuel 0 = some (.ok items)) ∧
    ∀ (wire : HelperWire) (roomId : String) (revocationRootsHash : Bytes32)
      (responses rest : List (Except ApiError RevokedOccupanciesResponse))
      (resolved : BarrierResolvedRevokedOccupancies),
      barrierResolveRevokedOccupancies wire roomId revocationRootsHash responses =
        some (.ok (resolved, rest)) →
      ∃ pages total, responses = pages.map .ok ++ rest ∧ Contiguous 0 pages ∧
        (∀ page ∈ pages, page.Carries resolved.historyCommitment ∧ page.totalEntries = total) ∧
        resolved.records = pages.flatMap (·.records) ∧ resolved.records.length = total := by
  constructor
  · intro T items maxEntries maxPageEntries fuel hlength hpositive hlimit hfuel
    exact followPages_eq hpositive hlimit hlength hfuel
  · intro wire roomId revocationRootsHash responses rest resolved h
    unfold barrierResolveRevokedOccupancies at h
    split at h
    · cases h
    · next gid _ =>
        obtain ⟨outcome, hloop, houtcome⟩ := Option.map_eq_some_iff.mp h
        obtain ⟨⟨final, rest'⟩, rfl, hfinish⟩ := Except.bind_eq_ok.mp houtcome
        simp only [HelperPages.finish, Except.bind_eq_ok, Except.ofOption_eq_ok,
          Except.ensure_eq_ok, Except.pure_eq_ok] at hfinish
        obtain ⟨_, ⟨⟨_, _, _⟩, hhistory, _, hcount, rfl⟩, heq⟩ := hfinish
        obtain ⟨rfl, rfl⟩ := Prod.mk.inj heq
        obtain ⟨pages, viewId, commitment, total, hused, hcontiguous, hrecords, hexpected, _, hall⟩ :=
          resolveRevokedLoop_eq_ok rfl hloop
        obtain ⟨_, hrest⟩ := Prod.mk.inj (Option.some.inj (hhistory.symm.trans hexpected))
        obtain ⟨rfl, rfl⟩ := Prod.mk.inj hrest
        exact ⟨pages, _, hused, hcontiguous, hall, hrecords, hcount⟩

def blankWire : HelperWire where
  parseRoomIdGid := fun _ => .ok .zero
  descriptor := fun _ => .ok (Bytes32.zero.val, [])
  attestation := fun _ => .ok ⟨Bytes32.zero.val, Bytes32.zero.val, Bytes32.zero.val,
    Bytes32.zero.val, Bytes32.zero.val, 0, 0, Bytes32.zero.val, Bytes32.zero.val,
    GLOBAL_HISTORY_ATTESTATION_FINALITY_KIND, []⟩
  completeness := fun _ => .ok (Bytes32.zero.val, HELPER_KIND_REVOKED_OCCUPANCIES, [])
  manifest := fun _ => .ok ⟨Bytes32.zero.val, GLOBAL_HISTORY_AUTHORITY_EXTENSION_ID,
    Bytes32.zero.val, EXPECTED_PROFILE_VERSION, 1, 0, ⟨1, 1, 0, 0, 0⟩, []⟩
  encode := fun _ => []
  publicKeyBytes := 0
  verifySignature := fun _ _ _ => .ok ()

def blankPage (offset total : Nat) (next : Option Nat)
    (records : List BarrierRevokedOccupancyRecord) : RevokedOccupanciesResponse where
  historyViewId := Bytes32.zero.val
  historyCommitment := some ⟨Bytes32.zero.val, Bytes32.zero.val, Bytes32.zero.val, 0⟩
  pageOffset := offset
  nextPageOffset := next
  totalEntries := total
  helperCompletenessAttestation := [0]
  historyAuthorityDescriptor := [0]
  globalHistoryAttestation := [0]
  historyAuthorityExtension := GLOBAL_HISTORY_AUTHORITY_EXTENSION_ID
  profileVersion := EXPECTED_PROFILE_VERSION
  nMax := 1
  maxBarrierUpdateBytes := 0
  fsForwardLeapPolicy := some ⟨1, 1, 0, 0, 0⟩
  deploymentProfileManifest := [0]
  records := records

theorem two_pages_cover :
    followPages [10, 20, 30] 2 512 4 0 = some (.ok [10, 20, 30]) ∧
    ∃ resolved, barrierResolveRevokedOccupancies blankWire "" .zero
        [.ok (blankPage 0 3 (some 2) [⟨0, 1⟩, ⟨1, 1⟩]), .ok (blankPage 2 3 none [⟨5, 1⟩])] =
        some (.ok (resolved, [])) ∧
      resolved.records = [⟨0, 1⟩, ⟨1, 1⟩, ⟨5, 1⟩] ∧
      ∃ pages total, Contiguous 0 pages ∧
        (∀ page ∈ pages, page.Carries resolved.historyCommitment ∧ page.totalEntries = total) ∧
        resolved.records.length = total := by
  refine ⟨helper_pages_cover.1 Nat [10, 20, 30] 2 512 4 (by decide) (by decide) (by decide)
    (by decide), ⟨.zero, {}, some .globalHistoryAuthorityV1, some ⟨.zero, []⟩,
      some ⟨.zero, .zero, {}, 0, .zero, .zero, GLOBAL_HISTORY_ATTESTATION_FINALITY_KIND, []⟩,
      [⟨0, 1⟩, ⟨1, 1⟩, ⟨5, 1⟩]⟩, ?_⟩
  have haccept : barrierResolveRevokedOccupancies blankWire "" .zero
      [.ok (blankPage 0 3 (some 2) [⟨0, 1⟩, ⟨1, 1⟩]), .ok (blankPage 2 3 none [⟨5, 1⟩])] =
      some (.ok (⟨.zero, {}, some .globalHistoryAuthorityV1, some ⟨.zero, []⟩,
        some ⟨.zero, .zero, {}, 0, .zero, .zero, GLOBAL_HISTORY_ATTESTATION_FINALITY_KIND, []⟩,
        [⟨0, 1⟩, ⟨1, 1⟩, ⟨5, 1⟩]⟩, [])) := by rfl
  obtain ⟨pages, total, _, hcontiguous, hall, _, hcount⟩ :=
    helper_pages_cover.2 blankWire "" .zero _ [] _ haccept
  exact ⟨haccept, rfl, pages, total, hcontiguous, hall, hcount⟩

end CityG
