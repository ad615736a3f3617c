import CityG.Accept.MergeRuns

/-!
# What the key of the verification cache stands for

Through the hashes in it, the key fixes everything the SRX relations of a merge
are about, except the shadow root they start from.
-/

namespace CityG

open Except (ensure ofOption)

structure MergeRead (codec : AnchorCodec) (input : AnchorInput) (m : MergeChecked) : Prop where
  roots : ensureRoots input.parts input.header = .ok m.roots
  anchor : m.ids.anchor =
    ⟨input.parts, m.ids.weEpochId, codec.buildAnchorSeedCtx input.header, none⟩
  xkHash : m.ids.xkHash = codec.xkHash m.ids.anchor
  proofMode : codec.headerStringOrFreeze input.header HDR_PROOF_MODE = .ok m.artifacts.proofMode
  vrfId : codec.headerStringOrFreeze input.header HDR_VRF_ID = .ok m.artifacts.vrfId
  policy : headerFsPolicyVersion input.header = .ok m.artifacts.fsPolicyVersion
  srx : readSrxProof input.header = .ok m.artifacts.srx

variable {codec : AnchorCodec} {header header' : HeaderMap}

theorem ensureProofs_read {ctx : AcceptanceContext} {artifacts : ProofArtifacts}
    (h : ensureProofs codec header ctx = .ok artifacts) :
    codec.headerStringOrFreeze header HDR_PROOF_MODE = .ok artifacts.proofMode ∧
      codec.headerStringOrFreeze header HDR_VRF_ID = .ok artifacts.vrfId ∧
      headerFsPolicyVersion header = .ok artifacts.fsPolicyVersion ∧
      readSrxProof header = .ok artifacts.srx := by
  simp only [ensureProofs, ensureSupported, Except.bind_eq_ok, Except.pure_eq_ok] at h
  obtain ⟨_, ⟨_, hmode, _, _, _, _, rfl⟩, _, ⟨_, hvrf, _, _, _, _, rfl⟩, _, hpolicy, _, _, _, _, _, _,
    _, _, _, _, _, hsrx, _, _, _, _, _, _, rfl⟩ := h
  exact ⟨hmode, hvrf, hpolicy, hsrx⟩

theorem MergeSteps.read {input : AnchorInput} {claim : Bytes32} {mhHeads : List Bytes32} {now : Nat}
    {ctx after : AcceptanceContext} {m : MergeChecked}
    (h : MergeSteps codec input.parts input.header claim mhHeads now ctx after m) :
    MergeRead codec input m := by
  have hseed := h.seed
  simp only [mergeSeed, Except.bind_eq_ok, Except.pure_eq_ok] at hseed
  obtain ⟨_, _, _, _, _, _, _, _, hseed⟩ := hseed
  have hids := h.ids
  simp only [deriveAnchorIds, Except.bind_eq_ok, Except.pure_eq_ok] at hids
  obtain ⟨_, _, _, _, hids⟩ := hids
  have hartifacts := h.artifacts
  simp only [mergeArtifacts, Except.bind_eq_ok, Except.pure_eq_ok] at hartifacts
  obtain ⟨_, _, artifacts, hproofs, _, _, rfl⟩ := hartifacts
  obtain ⟨hmode, hvrf, hpolicy, hsrx⟩ := ensureProofs_read hproofs
  refine ⟨h.roots, ?_, ?_, hmode, hvrf, hpolicy, hsrx⟩
  · rw [← hids, ← hseed]
  · rw [← hids]

theorem AnchorCall.checked_read {c : AnchorCall} {m : MergeChecked} (h : c.checked codec = some m) :
    MergeRead codec c.input m := by
  obtain ⟨st, staged, hstage, rfl⟩ := AnchorCall.checked_eq_some.mp h
  obtain ⟨_, _, hsteps⟩ := (mergeStage_staged hstage).checks
  exact hsteps.read

section Keys
variable (codec : AnchorCodec)

def vckRecord (binding : SrxBinding) (header : HeaderMap) : Except AcceptanceError Value := do
  let crsId ← codec.headerValueBytes header HDR_CRS_ID freezeMsphfCrsInvalid
  let paramsId ← codec.headerValueBytes header HDR_PARAMS_ID freezeParamsIdInvalid
  let srxCommit ← headerOptionalBytes32 header HDR_SRX_COMMIT freezeSrxInvalid
  let proofsCommit ← headerOptionalBytes32 header HDR_PROOFS_COMMIT freezeCapssInvalid
  let proofMode ← codec.headerStringOrFreeze header HDR_PROOF_MODE
  let vrfId ← codec.headerStringOrFreeze header HDR_VRF_ID
  let fsPolicyVersion ← headerFsPolicyVersion header
  pure (Value.ofFields [("xk_hash", .bytes binding.xkHash.val),
    ("seed_commit", .bytes binding.seedCommit.val), ("rho_commit", .bytes binding.rhoCommit.val),
    ("hp_commit", .bytes binding.hpCommit.val), ("crs_id", .bytes crsId),
    ("params_id", .bytes paramsId), ("srx_commit", .bytes (srxCommit.getD .zero).val),
    ("proofs_commit", .bytes (proofsCommit.getD .zero).val), ("proof_mode", .text proofMode),
    ("vrf_id", .text vrfId), ("fs_policy_version", .ofNat fsPolicyVersion)])

theorem computeVckKey_eq_ok {binding : SrxBinding} {header : HeaderMap} {key : Bytes32} :
    codec.computeVckKey binding.xkHash binding.seedCommit binding.rhoCommit binding.hpCommit header =
        .ok key ↔
      ∃ value, vckRecord codec binding header = .ok value ∧ codec.hL "msphf/vck" value = key := by
  simp only [AnchorCodec.computeVckKey, vckRecord, Except.bind_eq_ok, Except.pure_eq_ok]
  constructor
  · rintro ⟨crs, hcrs, params, hparams, srx, hsrx, proofs, hproofs, mode, hmode, vrf, hvrf, policy,
      hpolicy, rfl⟩
    exact ⟨_, ⟨crs, hcrs, params, hparams, srx, hsrx, proofs, hproofs, mode, hmode, vrf, hvrf, policy,
      hpolicy, rfl⟩, rfl⟩
  · rintro ⟨_, ⟨crs, hcrs, params, hparams, srx, hsrx, proofs, hproofs, mode, hmode, vrf, hvrf, policy,
      hpolicy, rfl⟩, rfl⟩
    exact ⟨crs, hcrs, params, hparams, srx, hsrx, proofs, hproofs, mode, hmode, vrf, hvrf, policy,
      hpolicy, rfl⟩

def seedCtxMap (header : HeaderMap) : Value :=
  .map ((header.filter fun e => decide (e.1 ∉ SEED_CTX_EXCLUDED_KEYS)).entries.map
    fun e => (.ofNat e.1, e.2))

theorem get?_of_seedCtxMap {header header' : HeaderMap} (h : seedCtxMap header = seedCtxMap header')
    {key : Nat} (hkey : key ∉ SEED_CTX_EXCLUDED_KEYS) : header.get? key = header'.get? key := by
  have hentry : Function.Injective fun e : Nat × Value => (Value.ofNat e.1, e.2) := by
    rintro ⟨k, v⟩ ⟨k', v'⟩ heq
    obtain ⟨hk, hv⟩ := Prod.mk.inj heq
    exact Prod.ext (Int.ofNat.inj (Value.integer.inj hk)) hv
  have hlists := List.map_injective_iff.mpr hentry (Value.map.inj h)
  have hget : ∀ header : HeaderMap, header.get? key =
      OrdMap.lookup key (header.filter fun e => decide (e.1 ∉ SEED_CTX_EXCLUDED_KEYS)).entries := by
    intro header
    have hfilter := header.get?_filter (fun e => decide (e.1 ∉ SEED_CTX_EXCLUDED_KEYS)) key
    rw [OrdMap.get?] at hfilter
    rw [hfilter]
    cases hvalue : header.get? key with
    | none => rfl
    | some value => exact (Option.filter_some_pos (by simpa using hkey)).symm
  rw [hget header, hget header', hlists]

structure SrxKeysInjective (calls : List AnchorCall) : Prop where
  key : Set.InjOn (codec.hL "msphf/vck") {value | ∃ c ∈ calls, ∃ m, c.checked codec = some m ∧
    vckRecord codec m.srxBinding c.input.header = .ok value}
  xk : Set.InjOn (codec.hL "msphf/xk") {value | ∃ c ∈ calls, ∃ m, c.checked codec = some m ∧
    m.ids.anchor.asCborTuple = value}
  context : Set.InjOn codec.toCbor {value | ∃ c ∈ calls, seedCtxMap c.input.header = value}
  payload : Set.InjOn (fun payload => codec.hL "srx/commit" (.bytes payload))
    {payload | ∃ c ∈ calls, (c.input.header.get? HDR_SRX_PAYLOAD).bind Value.asBytes = some payload}

theorem srxKeysInjective_singleton (c : AnchorCall) : SrxKeysInjective codec [c] := by
  constructor
  · rintro value ⟨_, hc, m, hm, hvalue⟩ value' ⟨_, hc', m', hm', hvalue'⟩ -
    obtain rfl := List.mem_singleton.mp hc
    obtain rfl := List.mem_singleton.mp hc'
    obtain rfl := Option.some.inj (hm.symm.trans hm')
    exact Except.ok.inj (hvalue.symm.trans hvalue')
  · rintro value ⟨_, hc, m, hm, rfl⟩ value' ⟨_, hc', m', hm', rfl⟩ -
    obtain rfl := List.mem_singleton.mp hc
    obtain rfl := List.mem_singleton.mp hc'
    obtain rfl := Option.some.inj (hm.symm.trans hm')
    rfl
  · rintro value ⟨_, hc, rfl⟩ value' ⟨_, hc', rfl⟩ -
    obtain rfl := List.mem_singleton.mp hc
    obtain rfl := List.mem_singleton.mp hc'
    rfl
  · rintro payload ⟨_, hc, hpayload⟩ payload' ⟨_, hc', hpayload'⟩ -
    obtain rfl := List.mem_singleton.mp hc
    obtain rfl := List.mem_singleton.mp hc'
    exact Option.some.inj (hpayload.symm.trans hpayload')

end Keys

structure SrxVerified (codec : AnchorCodec) (verifiers : AnchorProofs) (m : MergeChecked)
    (read : SrxRead) (shadowRootBefore : Bytes32) : Prop where
  sets : verifySrxSets verifiers m.roots read.srx = .ok ()
  proof : verifySrxProof codec verifiers m.roots m.artifacts shadowRootBefore read.commit
    read.payload = .ok ()

theorem ensureRoots_header {parts : AnchorInstanceParts} {roots : AnchorRoots}
    (h : ensureRoots parts header = .ok roots) :
    headerBytes32OrFreeze header HDR_PARENT_ROOT freezeFieldMissing = .ok roots.parentRoot ∧
      headerBytes32OrFreeze header HDR_JOIN_DELTA_ROOT freezeFieldMissing =
        .ok roots.joinDeltaRoot ∧
      headerBytes32OrFreeze header HDR_REVOKED_SINCE_ROOT freezeFieldMissing =
        .ok roots.revokedSinceRoot ∧
      headerBytes32OrFreeze header HDR_REVOKED_ROOT freezeFieldMissing = .ok roots.revokedRoot := by
  simp only [ensureRoots, ensureRoot, Except.bind_eq_ok, Except.pure_eq_ok] at h
  obtain ⟨_, ⟨_, hparent, _, _, rfl⟩, _, ⟨_, hjoin, _, _, rfl⟩, _, ⟨_, hsince, _, _, rfl⟩, _,
    ⟨_, hrevoked, _, _, rfl⟩, rfl⟩ := h
  exact ⟨hparent, hjoin, hsince, hrevoked⟩

theorem ensureRoots_congr {parts parts' : AnchorInstanceParts} {roots roots' : AnchorRoots}
    (h : ensureRoots parts header = .ok roots) (h' : ensureRoots parts' header' = .ok roots')
    (hctx : seedCtxMap header = seedCtxMap header') :
    roots = roots' := by
  have hfield : ∀ {key : Nat} {root root' : Bytes32}, key ∉ SEED_CTX_EXCLUDED_KEYS →
      headerBytes32OrFreeze header key freezeFieldMissing = .ok root →
      headerBytes32OrFreeze header' key freezeFieldMissing = .ok root' → root = root' := by
    intro key root root' hkey hroot hroot'
    unfold headerBytes32OrFreeze at hroot hroot'
    rw [get?_of_seedCtxMap hctx hkey, hroot'] at hroot
    exact (Except.ok.inj hroot).symm
  obtain ⟨hparent, hjoin, hsince, hrevoked⟩ := ensureRoots_header h
  obtain ⟨hparent', hjoin', hsince', hrevoked'⟩ := ensureRoots_header h'
  obtain ⟨_, _, _, _⟩ := roots
  obtain ⟨_, _, _, _⟩ := roots'
  obtain rfl := hfield (by decide) hparent hparent'
  obtain rfl := hfield (by decide) hjoin hjoin'
  obtain rfl := hfield (by decide) hsince hsince'
  obtain rfl := hfield (by decide) hrevoked hrevoked'
  rfl

theorem readSrxProof_congr (hctx : seedCtxMap header = seedCtxMap header') :
    readSrxProof header = readSrxProof header' := by
  have hroot := get?_of_seedCtxMap hctx (show HDR_SRX_ROOT_SW ∉ SEED_CTX_EXCLUDED_KEYS by decide)
  have hproof := get?_of_seedCtxMap hctx (show HDR_SRX_SMALLWOOD ∉ SEED_CTX_EXCLUDED_KEYS by decide)
  simp only [readSrxProof, headerBytes32OrFreeze, headerBytesOr, OrdMap.mem_def, hroot, hproof]

theorem valueBytes32_unique {value : Value} {freeze freeze' : FreezeError} {b b' : Bytes32}
    (h : valueBytes32 freeze value = .ok b) (h' : valueBytes32 freeze' value = .ok b') : b = b' := by
  cases value with
  | bytes raw =>
    simp only [valueBytes32, Except.ofOption_eq_ok] at h h'
    exact Option.some.inj (h.symm.trans h')
  | _ => simp [valueBytes32, freezeWith] at h

structure SrxReadFrom (codec : AnchorCodec) (verifiers : AnchorProofs) (header : HeaderMap)
    (binding : SrxBinding) (read : SrxRead) : Prop where
  keys : ∀ key ∈ SRX_ONLY_KEYS, key ∈ header
  commit : headerBytes32OrFreeze header HDR_SRX_COMMIT freezeSrxInvalid = .ok read.commit
  payload : (header.get? HDR_SRX_PAYLOAD).bind Value.asBytes = some read.payload
  opens : codec.hL "srx/commit" (.bytes read.payload) = read.commit
  parsed : ∃ value, codec.fromReader read.payload = some value ∧
    verifiers.parseSrxPayload value = .ok read.srx
  record : ∃ value, vckRecord codec binding header = .ok value ∧
    codec.hL "msphf/vck" value = read.cacheKey

theorem readSrx_from {verifiers : AnchorProofs} {maxBytes : Nat} {binding : SrxBinding}
    {read : SrxRead} (h : readSrx codec verifiers header maxBytes binding = .ok read) :
    SrxReadFrom codec verifiers header binding read := by
  simp only [readSrx, ensureMergeSrxKeys, if_true, headerBytesOr, Except.bind_eq_ok,
    Except.ensure_eq_ok, Except.ofOption_eq_ok, Except.pure_eq_ok] at h
  obtain ⟨_, ⟨_, _, hkeys⟩, commit, hcommit, payload, hpayload, _, _, _, hopens, value, hvalue, srx,
    hsrx, _, _, key, hkey, rfl⟩ := h
  exact ⟨hkeys, hcommit, hpayload, hopens, ⟨value, hvalue, hsrx⟩,
    (computeVckKey_eq_ok codec).mp hkey⟩

theorem vckRecord_fields {binding binding' : SrxBinding} {value : Value} {commit commit' : Bytes32}
    (h : vckRecord codec binding header = .ok value)
    (h' : vckRecord codec binding' header' = .ok value)
    (hcommit : headerBytes32OrFreeze header HDR_SRX_COMMIT freezeSrxInvalid = .ok commit)
    (hcommit' : headerBytes32OrFreeze header' HDR_SRX_COMMIT freezeSrxInvalid = .ok commit') :
    binding.xkHash = binding'.xkHash ∧ commit = commit' ∧
      codec.headerStringOrFreeze header HDR_PROOF_MODE =
        codec.headerStringOrFreeze header' HDR_PROOF_MODE ∧
      codec.headerStringOrFreeze header HDR_VRF_ID = codec.headerStringOrFreeze header' HDR_VRF_ID ∧
      headerFsPolicyVersion header = headerFsPolicyVersion header' := by
  have hoptional : ∀ {header : HeaderMap} {commit : Bytes32},
      headerBytes32OrFreeze header HDR_SRX_COMMIT freezeSrxInvalid = .ok commit →
      headerOptionalBytes32 header HDR_SRX_COMMIT freezeSrxInvalid = .ok (some commit) := by
    intro header commit hcommit
    unfold headerBytes32OrFreeze at hcommit
    unfold headerOptionalBytes32
    cases hget : header.get? HDR_SRX_COMMIT with
    | none => simp [hget, freezeWith] at hcommit
    | some value =>
      rw [hget] at hcommit
      exact Except.map_eq_ok.mpr ⟨commit, hcommit, rfl⟩
  simp only [vckRecord, hoptional hcommit, hoptional hcommit', Except.bind_eq_ok,
    Except.pure_eq_ok] at h h'
  obtain ⟨_, _, _, _, _, hsrx, _, _, mode, hmode, vrf, hvrf, policy, hpolicy, rfl⟩ := h
  obtain ⟨_, _, _, _, _, hsrx', _, _, mode', hmode', vrf', hvrf', policy', hpolicy', heq⟩ := h'
  obtain rfl := Except.ok.inj hsrx
  obtain rfl := Except.ok.inj hsrx'
  simp only [Value.ofFields, Value.ofNat, List.map_cons, List.map_nil, Value.map.injEq,
    List.cons.injEq, Prod.mk.injEq, Value.bytes.injEq, Value.text.injEq, Value.integer.injEq,
    true_and, and_true, Option.getD_some] at heq
  obtain ⟨hxk, -, -, -, -, -, hcommits, -, hmodes, hvrfs, hpolicies⟩ := heq
  refine ⟨(Subtype.ext hxk).symm, (Subtype.ext hcommits).symm, ?_, ?_, ?_⟩
  · rw [hmode, hmode', hmodes]
  · rw [hvrf, hvrf', hvrfs]
  · rw [hpolicy, hpolicy', Int.ofNat.inj hpolicies]

section Same
variable {codec : AnchorCodec} {verifiers : AnchorProofs} {calls : List AnchorCall}
  {c d : AnchorCall} {m m' : MergeChecked}

theorem SrxKeysInjective.same_instance (h : SrxKeysInjective codec calls) (hc : c ∈ calls)
    (hd : d ∈ calls) (hm : c.checked codec = some m) (hm' : d.checked codec = some m')
    (hxk : m.ids.xkHash = m'.ids.xkHash) :
    c.input.parts.gid = d.input.parts.gid ∧
      seedCtxMap c.input.header = seedCtxMap d.input.header := by
  have hread := AnchorCall.checked_read hm
  have hread' := AnchorCall.checked_read hm'
  rw [hread.xkHash, hread'.xkHash] at hxk
  have htuple := h.xk ⟨c, hc, m, hm, rfl⟩ ⟨d, hd, m', hm', rfl⟩ hxk
  rw [hread.anchor, hread'.anchor] at htuple
  simp only [AnchorInstance.asCborTuple, Value.array.injEq, List.cons.injEq,
    Value.bytes.injEq] at htuple
  obtain ⟨hgid, -, -, hctx, -⟩ := htuple
  exact ⟨hgid, h.context ⟨c, hc, rfl⟩ ⟨d, hd, rfl⟩ hctx⟩

/-- Calls with the same cache key are about the same group, name the same
barrier version and verify from the same shadow roots. -/
theorem SrxKeysInjective.same_relations {read read' : SrxRead}
    (h : SrxKeysInjective codec calls) (hc : c ∈ calls) (hd : d ∈ calls)
    (hm : c.checked codec = some m) (hm' : d.checked codec = some m')
    (hread : SrxReadFrom codec verifiers c.input.header m.srxBinding read)
    (hread' : SrxReadFrom codec verifiers d.input.header m'.srxBinding read')
    (hkey : read.cacheKey = read'.cacheKey) :
    c.input.parts.gid = d.input.parts.gid ∧
      headerBarrierVersion c.input.header = headerBarrierVersion d.input.header ∧
      ∀ root, SrxVerified codec verifiers m' read' root → SrxVerified codec verifiers m read root := by
  obtain ⟨value, hvalue, hhash⟩ := hread.record
  obtain ⟨value', hvalue', hhash'⟩ := hread'.record
  obtain rfl : value = value' := h.key ⟨c, hc, m, hm, hvalue⟩ ⟨d, hd, m', hm', hvalue'⟩
    (hhash.trans (hkey.trans hhash'.symm))
  obtain ⟨hxk, hcommit, hmode, hvrf, hpolicy⟩ :=
    vckRecord_fields hvalue hvalue' hread.commit hread'.commit
  obtain ⟨hgid, hctx⟩ := h.same_instance hc hd hm hm' hxk
  have hinput := AnchorCall.checked_read hm
  have hinput' := AnchorCall.checked_read hm'
  have hroots := ensureRoots_congr hinput.roots hinput'.roots hctx
  have hsrx : m.artifacts.srx = m'.artifacts.srx :=
    Except.ok.inj (hinput.srx.symm.trans ((readSrxProof_congr hctx).trans hinput'.srx))
  have hmodes := Except.ok.inj (hinput.proofMode.symm.trans (hmode.trans hinput'.proofMode))
  have hvrfs := Except.ok.inj (hinput.vrfId.symm.trans (hvrf.trans hinput'.vrfId))
  have hpolicies := Except.ok.inj (hinput.policy.symm.trans (hpolicy.trans hinput'.policy))
  -- The commitment of the payload is in the key, and opens to one payload.
  have hpayload : read.payload = read'.payload :=
    h.payload ⟨c, hc, hread.payload⟩ ⟨d, hd, hread'.payload⟩
      (hread.opens.trans (hcommit.trans hread'.opens.symm))
  have hparsed : read.srx = read'.srx := by
    obtain ⟨v, hv, hparse⟩ := hread.parsed
    obtain ⟨v', hv', hparse'⟩ := hread'.parsed
    rw [hpayload, hv'] at hv
    rw [← Option.some.inj hv, hparse'] at hparse
    exact (Except.ok.inj hparse).symm
  refine ⟨hgid, ?_, ?_⟩
  · rw [headerBarrierVersion, get?_of_seedCtxMap hctx (by decide), headerBarrierVersion]
  · intro root hverified
    constructor
    · rw [hroots, hparsed]
      exact hverified.sets
    · have hproof := hverified.proof
      simp only [verifySrxProof, smallwoodInputs, hsrx, hroots, hcommit, hpayload, hmodes, hvrfs,
        hpolicies] at hproof ⊢
      exact hproof

end Same

end CityG
