import CityG.Accept.Merge

/-!
# The rollup metadata of a merge, built and verified

`joiner_kgen_merge_or_with_state` as far as the rollup metadata: it hands the
header to the key generation, which is a parameter, and then writes the heads,
the pivot, the epoch replay and the two commitments over the retired parities.
What it does afterwards sets other keys. Acceptance recomputes the commitments
from the parities it stores.
-/

namespace CityG

open Except (ensure ofOption)

def PivotParity.vckRecord (parity : PivotParity) (versionField : String) (version : Nat) : Value :=
  Value.ofFields [("xk_hash", .bytes parity.xkHash.val),
    ("seed_commit", .bytes parity.seedCommit.val), ("rho_commit", .bytes parity.rhoCommit.val),
    ("hp_commit", .bytes parity.hpCommit.val), ("crs_id", .bytes parity.crsId),
    ("params_id", .bytes parity.paramsId),
    ("srx_commit", .bytes (parity.srxCommit.getD .zero).val),
    ("proofs_commit", .bytes parity.proofsCommit.val), ("proof_mode", .text parity.proofMode),
    ("vrf_id", .text parity.vrfId), (versionField, .ofNat version)]

def PivotParity.computeVck (hL : HashL) (parity : PivotParity) : Except MsphfError Bytes32 := do
  let version ← ofOption (.invalidInput "pivot policy_version must be uint")
    (parseU64 parity.policyVersion)
  pure (hL "msphf/vck" (parity.vckRecord "policy_version" version))

structure RollupEntry where
  weid : Bytes32
  vck : Bytes32
  xkHash : Bytes32
  deriving DecidableEq

def provenanceValues (entries : List RollupEntry) : List Value :=
  entries.map fun e => .array [.bytes e.weid.val, .bytes e.vck.val, .bytes e.xkHash.val]

def vckValues (entries : List RollupEntry) : List Value := entries.map fun e => .bytes e.vck.val

structure RollupCommits where
  provenance : Bytes32
  vck : Bytes32
  deriving DecidableEq

def rollupCommits (codec : AnchorCodec) (entries : List RollupEntry) : RollupCommits :=
  ⟨rollupHash codec "msphf/rollup/prov" (provenanceValues entries),
    rollupHash codec "msphf/rollup/vck" (vckValues entries)⟩

def setMergeHeads (header : HeaderMap) (heads : List Bytes32) (note : Option String) :
    Except MsphfError HeaderMap := do
  ensure (heads ≠ []) (.invalidInput "mh_heads must be non-empty")
  ensure (heads.IsChain (· < ·)) (.invalidInput "mh_heads must be sorted and unique")
  let header := header.insert HDR_MH_HEADS (.array (heads.map fun head => .bytes head.val))
  match note with
  | some text => pure (if text ≠ "" then header.insert 102 (.text text) else header.erase 102)
  | none => pure (header.erase 102)

/-- The later of the two, and of two with one sequence number the one with the
smaller instance; `max_by` keeps the last of equals. -/
def laterParity (best next : PivotParity) : PivotParity :=
  if next.acceptSeq < best.acceptSeq ∨
      next.acceptSeq = best.acceptSeq ∧ best.xkHash < next.xkHash then best
  else next

def selectPivotParity : List PivotParity → Except MsphfError PivotParity
  | [] => .error (.invalidInput "merge requires parity")
  | first :: rest => .ok (rest.foldl laterParity first)

def ensureMergeDomain (parities : List PivotParity) (pivot : PivotParity) :
    Except MsphfError Unit :=
  ensure (∀ p ∈ parities, p.parentRoot = pivot.parentRoot ∧ p.gid = pivot.gid ∧ p.cat = pivot.cat)
    (.invalidInput "merge parity mismatch")

def parityLookup (retired : List PivotParity) : ParityMap :=
  OrdMap.ofList (retired.map fun p => (p.weEpochId, p))

def retiredParity (lookup : ParityMap) (head : Bytes32) : Except MsphfError PivotParity :=
  ofOption (.invalidInput "missing retired parity") (lookup.get? head)

def epochReplayValue (parity : PivotParity) (head : Bytes32) : Value :=
  .array [.bytes head.val, .bytes parity.xkHash.val,
    .array [.bytes parity.parentRoot.val, .bytes parity.joinDeltaRoot.val,
      .bytes parity.revokedSinceRoot.val, .bytes parity.revokedRoot.val],
    .bool parity.isJoin]

def builtEntry (hL : HashL) (lookup : ParityMap) (head : Bytes32) :
    Except MsphfError (Value × RollupEntry) := do
  let parity ← retiredParity lookup head
  let vck ← parity.computeVck hL
  pure (epochReplayValue parity head, ⟨head, vck, parity.xkHash⟩)

structure MergeBuildParams where
  fsPolicyVersion : String
  fsEpochBaseTs : Nat
  fsPurgeTimes : Option (Nat × Nat)
  popPublicKey : Option Bytes

def purgeTimesValue (times : Nat × Nat) : Value :=
  .map [(.text "purge_ts", .ofNat times.1), (.text "grace_end_ts", .ofNat times.2)]

def mergeFsHeader (params : MergeBuildParams) (retired : List PivotParity) (header : HeaderMap) :
    Except MsphfError HeaderMap := do
  let version ← ofOption (.invalidInput "fs_policy_version must be uint")
    (parseU64 params.fsPolicyVersion)
  let maxFsEc ← ofOption (.invalidInput "retired parity missing fs_ec")
    (retired.filterMap (·.fsEc)).max?
  let header := ((((header.insert HDR_FS_POLICY_VERSION (.ofNat version)).insert
    HDR_FS_EPOCH_BASE_TS (.ofNat params.fsEpochBaseTs)).insert
    HDR_FS_CHECKPOINT_EC (.ofNat maxFsEc)).insert HDR_FS_EVOLUTION_BOUNDARY (.bool true)).insert
    HDR_ROLLUP_FS_MODE (.text "fs-purge")
  pure (match params.fsPurgeTimes with
    | some times => header.insert HDR_FS_PURGE_TIMES (purgeTimesValue times)
    | none => header.erase HDR_FS_PURGE_TIMES)

def retiredHeads (retired : List PivotParity) : List Bytes32 :=
  (retired.map (·.weEpochId)).insertionSort (· ≤ ·)

def MERGE_REMOVED_KEYS : List Nat :=
  [HDR_HP_BYTES, HDR_HP_COMMIT, HDR_POP_ALG, HDR_POP_SIG, HDR_BARRIER_LEAF_PK, HDR_KBROAD_REPLAY,
    HDR_BOOTSTRAP_ALG, HDR_BOOTSTRAP_PK, HDR_BOOTSTRAP_SIG]

def withRollup (codec : AnchorCodec) (pivot : PivotParity) (built : List (Value × RollupEntry))
    (header : HeaderMap) : HeaderMap :=
  let commits := rollupCommits codec (built.map (·.2))
  (((header.insert HDR_ROLLUP_PIVOT_WEID (.bytes pivot.weEpochId.val)).insert
    HDR_ROLLUP_EPOCH_REPLAY (.array (built.map (·.1)))).insert
    HDR_ROLLUP_PROVENANCE_COMMIT (.bytes commits.provenance.val)).insert
    HDR_ROLLUP_VCK_COMMIT (.bytes commits.vck.val)

def joinerKgenMergeOrWithState (codec : AnchorCodec)
    (joinerKgenOr : HeaderMap → Except MsphfError HeaderMap) (params : MergeBuildParams)
    (header : HeaderMap) (retired : List PivotParity) (note : Option String) :
    Except MsphfError HeaderMap := do
  ensure (retired ≠ []) (.invalidInput "merge requires parity")
  let heads := retiredHeads retired
  ensure (heads.IsChain (· < ·)) (.invalidInput "merge heads must be distinct")
  let header ← setMergeHeads header heads note
  let header ← joinerKgenOr header
  let header ← mergeFsHeader params retired header
  let popPublicKey ← ofOption (.invalidInput "merge requires pop_public_key") params.popPublicKey
  let pivot ← selectPivotParity retired
  ensureMergeDomain retired pivot
  let built ← Except.mapList (builtEntry codec.hL (parityLookup retired)) heads
  let header := MERGE_REMOVED_KEYS.foldl OrdMap.erase header
  pure (withRollup codec pivot built (header.insert HDR_POP_PK (.bytes popPublicKey)))

variable {codec : AnchorCodec} {retired : List PivotParity}

theorem joinerKgenMergeOr_commits {joinerKgenOr : HeaderMap → Except MsphfError HeaderMap}
    {params : MergeBuildParams} {header merged : HeaderMap} {note : Option String}
    (h : joinerKgenMergeOrWithState codec joinerKgenOr params header retired note = .ok merged) :
    retired ≠ [] ∧ ∃ built,
      Except.mapList (builtEntry codec.hL (parityLookup retired)) (retiredHeads retired) =
        .ok built ∧
      merged.get? HDR_ROLLUP_PROVENANCE_COMMIT =
        some (.bytes (rollupCommits codec (built.map (·.2))).provenance.val) ∧
      merged.get? HDR_ROLLUP_VCK_COMMIT =
        some (.bytes (rollupCommits codec (built.map (·.2))).vck.val) := by
  simp only [joinerKgenMergeOrWithState, Except.bind_eq_ok, Except.ensure_eq_ok,
    Except.pure_eq_ok] at h
  obtain ⟨-, hretired, -, -, -, -, -, -, -, -, -, -, pivot, -, -, -, built, hbuilt, rfl⟩ := h
  refine ⟨hretired, built, hbuilt, ?_, ?_⟩
  · simp [withRollup, HDR_ROLLUP_PROVENANCE_COMMIT, HDR_ROLLUP_VCK_COMMIT]
  · simp [withRollup]

def recomputedEntries (codec : AnchorCodec) (parities : ParityMap) (heads : List Bytes32) :
    Except AcceptanceError (List RollupEntry) := do
  let vcks ← Except.mapList (headVck codec parities) heads
  pure ((heads.zip vcks).map fun e => ⟨e.1, e.2.1, e.2.2.xkHash⟩)

/-- Acceptance lets the commitments of a header pass exactly when they are those
of the entries it recomputes. -/
theorem checkProvenance_eq_ok {heads : List Bytes32} {parities : ParityMap}
    {replay : Option (List RollupEpochEntry)} {commits : RollupCommits} {u : Unit} :
    checkProvenance codec heads parities ⟨some commits.provenance, replay, some commits.vck⟩ =
        .ok u ↔
      ∃ entries, recomputedEntries codec parities heads = .ok entries ∧
        rollupCommits codec entries = commits := by
  have hvck : ∀ vcks, Except.mapList (headVck codec parities) heads = .ok vcks →
      vcks.map (fun e => Value.bytes e.1.val) =
        vckValues ((heads.zip vcks).map fun e => ⟨e.1, e.2.1, e.2.2.xkHash⟩) := by
    intro vcks h
    have hlength : heads.length = vcks.length := (Except.mapList_eq_ok.mp h).length_eq
    have hzip : (heads.zip vcks).map Prod.snd = vcks := List.map_snd_zip hlength.ge
    conv_lhs => rw [← hzip]
    simp [vckValues, Function.comp_def]
  have hprovenance : ∀ vcks : List (Bytes32 × PivotParity), (heads.zip vcks).map (fun e =>
      Value.array [.bytes e.1.val, .bytes e.2.1.val, .bytes e.2.2.xkHash.val]) =
        provenanceValues ((heads.zip vcks).map fun e => ⟨e.1, e.2.1, e.2.2.xkHash⟩) := by
    simp [provenanceValues, Function.comp_def]
  obtain ⟨provenance, vck⟩ := commits
  simp only [checkProvenance, recomputedEntries, Except.bind_eq_ok, Except.ensure_eq_ok,
    Except.pure_eq_ok, Option.mem_def, Option.some.injEq, forall_eq', hprovenance, rollupCommits,
    RollupCommits.mk.injEq]
  constructor
  · rintro ⟨vcks, hvcks, -, hprov, hrest⟩
    exact ⟨_, ⟨vcks, hvcks, rfl⟩, hprov, hvck vcks hvcks ▸ hrest⟩
  · rintro ⟨_, ⟨vcks, hvcks, rfl⟩, hprov, hrest⟩
    exact ⟨vcks, hvcks, (), hprov, (hvck vcks hvcks).symm ▸ hrest⟩

theorem parseU64_le {s : String} {n : Nat} (h : parseU64 s = some n) : n ≤ U64_MAX := by
  unfold parseU64 at h
  dsimp only at h
  split_ifs at h with _ hbound
  exact Option.some.inj h ▸ hbound

theorem vckHeader_get? (parity : PivotParity) (version : Nat) :
    let header := parity.vckHeader version
    header.get? HDR_CRS_ID = some (.bytes parity.crsId) ∧
      header.get? HDR_PARAMS_ID = some (.bytes parity.paramsId) ∧
      header.get? HDR_SRX_COMMIT = parity.srxCommit.map (fun commit => .bytes commit.val) ∧
      header.get? HDR_PROOFS_COMMIT = some (.bytes parity.proofsCommit.val) ∧
      header.get? HDR_PROOF_MODE = some (.text parity.proofMode) ∧
      header.get? HDR_VRF_ID = some (.text parity.vrfId) ∧
      header.get? HDR_FS_POLICY_VERSION = some (.ofNat version) ∧ HDR_POLICY_VERSION ∉ header := by
  unfold PivotParity.vckHeader
  cases parity.srxCommit <;> exact ⟨rfl, rfl, rfl, rfl, rfl, rfl, rfl, nofun⟩

theorem headerOptionalBytes32_eq {header : HeaderMap} {key : Nat} {freeze : FreezeError}
    {value : Option Bytes32} (h : header.get? key = value.map fun b => .bytes b.val) :
    headerOptionalBytes32 header key freeze = .ok value := by
  cases value <;> simp [headerOptionalBytes32, h, valueBytes32]

theorem computeVckFromParity_eq (codec : AnchorCodec) {parity : PivotParity} {version : Nat}
    (h : parseU64 parity.policyVersion = some version) :
    codec.computeVckFromParity parity =
      .ok (codec.hL "msphf/vck" (parity.vckRecord "fs_policy_version" version)) := by
  obtain ⟨hcrs, hparams, hsrx, hproofs, hmode, hvrf, hversion, hlegacy⟩ :=
    vckHeader_get? parity version
  have hu64 : (Value.ofNat version).asU64 = some version := by
    have hle := parseU64_le h
    unfold U64_MAX at hle
    exact if_pos (by omega)
  have hpolicy : headerFsPolicyVersion (parity.vckHeader version) = .ok version := by
    simp [headerFsPolicyVersion, headerU64OrFreeze, hversion, hu64, hlegacy]
  refine Except.bind_eq_ok.mpr ⟨version, by simp [h], ?_⟩
  unfold AnchorCodec.computeVckKey
  refine Except.bind_eq_ok.mpr ⟨parity.crsId, by simp [AnchorCodec.headerValueBytes, hcrs], ?_⟩
  refine Except.bind_eq_ok.mpr ⟨parity.paramsId, by simp [AnchorCodec.headerValueBytes, hparams], ?_⟩
  refine Except.bind_eq_ok.mpr ⟨parity.srxCommit, headerOptionalBytes32_eq hsrx, ?_⟩
  refine Except.bind_eq_ok.mpr ⟨some parity.proofsCommit, headerOptionalBytes32_eq hproofs, ?_⟩
  refine Except.bind_eq_ok.mpr ⟨parity.proofMode, by
    simp [AnchorCodec.headerStringOrFreeze, hmode, AnchorCodec.textOf], ?_⟩
  refine Except.bind_eq_ok.mpr ⟨parity.vrfId, by
    simp [AnchorCodec.headerStringOrFreeze, hvrf, AnchorCodec.textOf], ?_⟩
  exact Except.bind_eq_ok.mpr ⟨version, hpolicy, rfl⟩

theorem vckRecord_ne (parity : PivotParity) (version : Nat) :
    parity.vckRecord "policy_version" version ≠ parity.vckRecord "fs_policy_version" version := by
  simp [PivotParity.vckRecord, Value.ofFields]

structure RollupHashesInjective (codec : AnchorCodec) (retired : List PivotParity)
    (built recomputed : List RollupEntry) : Prop where
  vck : ∀ p ∈ retired, ∀ version, Set.InjOn (codec.hL "msphf/vck")
    {p.vckRecord "policy_version" version, p.vckRecord "fs_policy_version" version}
  provenance : Set.InjOn (rollupHash codec "msphf/rollup/prov")
    {provenanceValues built, provenanceValues recomputed}
  rollupVck : Set.InjOn (rollupHash codec "msphf/rollup/vck")
    {vckValues built, vckValues recomputed}

theorem entry_vck_ne {stored : ParityMap} {head : Bytes32} {value : Value} {built : RollupEntry}
    {recomputed : Bytes32 × PivotParity} (hstored : ∀ p ∈ retired, stored.get? p.weEpochId = some p)
    (hvck : ∀ p ∈ retired, ∀ version, Set.InjOn (codec.hL "msphf/vck")
      {p.vckRecord "policy_version" version, p.vckRecord "fs_policy_version" version})
    (hbuilt : builtEntry codec.hL (parityLookup retired) head = .ok (value, built))
    (hrecomputed : headVck codec stored head = .ok recomputed) : built.vck ≠ recomputed.1 := by
  simp only [builtEntry, retiredParity, PivotParity.computeVck, Except.bind_eq_ok,
    Except.ofOption_eq_ok, Except.pure_eq_ok, Prod.mk.injEq] at hbuilt
  obtain ⟨parity, hlookup, vck, ⟨version, hversion, rfl⟩, -, rfl⟩ := hbuilt
  have hmem := OrdMap.mem_of_get?_ofList hlookup
  obtain ⟨p, hp, heq⟩ := List.mem_map.mp hmem
  obtain ⟨rfl, rfl⟩ := Prod.mk.inj heq
  simp only [headVck, parityOf, hstored p hp, Except.bind_eq_ok, Except.ofOption_eq_ok,
    Except.pure_eq_ok, Option.some.injEq] at hrecomputed
  obtain ⟨_, rfl, vck, hvckp, rfl⟩ := hrecomputed
  rw [computeVckFromParity_eq codec hversion] at hvckp
  cases hvckp
  intro heq
  exact vckRecord_ne p version (hvck p hp version (by simp) (by simp) heq)

theorem retiredHeads_eq_nil : retiredHeads retired = [] ↔ retired = [] := by
  rw [retiredHeads, ← List.length_eq_zero_iff, List.length_insertionSort, List.length_map,
    List.length_eq_zero_iff]

/-- Over the parities that acceptance stores, the builder's commitments are the
ones acceptance recomputes exactly when no head is retired, which the builder
refuses: honest rollup metadata always freezes the merge. -/
theorem rollup_commitments_agree_iff {codec : AnchorCodec} {retired : List PivotParity}
    {stored : ParityMap} {built : List (Value × RollupEntry)} {recomputed : List RollupEntry}
    (hstored : ∀ p ∈ retired, stored.get? p.weEpochId = some p)
    (hbuilt : Except.mapList (builtEntry codec.hL (parityLookup retired)) (retiredHeads retired) =
      .ok built)
    (hrecomputed : recomputedEntries codec stored (retiredHeads retired) = .ok recomputed)
    (hinj : RollupHashesInjective codec retired (built.map (·.2)) recomputed) :
    ((rollupCommits codec (built.map (·.2))).provenance =
        (rollupCommits codec recomputed).provenance ↔ retired = []) ∧
      ((rollupCommits codec (built.map (·.2))).vck = (rollupCommits codec recomputed).vck ↔
        retired = []) := by
  rw [← retiredHeads_eq_nil]
  rw [Except.mapList_eq_ok] at hbuilt
  simp only [recomputedEntries, Except.bind_eq_ok, Except.mapList_eq_ok, Except.pure_eq_ok]
    at hrecomputed
  obtain ⟨vcks, hvcks, rfl⟩ := hrecomputed
  cases hheads : retiredHeads retired with
  | nil =>
    rw [hheads] at hbuilt
    cases hbuilt
    simp
  | cons head rest =>
    rw [hheads] at hbuilt hvcks hinj
    obtain ⟨⟨value, entry⟩, built, hentry, -, rfl⟩ := List.forall₂_cons_left_iff.mp hbuilt
    obtain ⟨vck, vcks, hvck, -, rfl⟩ := List.forall₂_cons_left_iff.mp hvcks
    have hne := entry_vck_ne hstored hinj.vck hentry hvck
    have hval : entry.vck.val ≠ vck.1.val := fun h => hne (Subtype.ext h)
    refine ⟨iff_of_false ?_ (by simp), iff_of_false ?_ (by simp)⟩
    · intro heq
      have := hinj.provenance (by simp) (by simp) heq
      simp [provenanceValues, hval] at this
    · intro heq
      have := hinj.rollupVck (by simp) (by simp) heq
      simp [vckValues, hval] at this

/-- A hash that reads the name of the last field of a record and the first byte
of a byte string. -/
def lastFieldHash : HashL := fun _ value =>
  match value with
  | .map entries =>
    match entries.getLast? with
    | some (.text name, _) => if name = "policy_version" then .fill 1 else .fill 2
    | _ => .zero
  | .bytes b => .fill (b.headD 0)
  | _ => .zero

def firstVck : Value → Bytes
  | .array (.bytes vck :: _) => vck
  | .array (.array (_ :: .bytes vck :: _) :: _) => vck
  | _ => []

def lastFieldCodec : AnchorCodec where
  hL := lastFieldHash
  toCbor := firstVck
  fromReader := fun _ => none
  fromUtf8 := fun _ => none
  asBytes := fun _ => []
  wire := ⟨fun _ => none, fun _ => none, fun _ => none⟩

def plainParity : PivotParity where
  gid := [1]
  cat := [2]
  parentRoot := .fill 3
  weEpochId := .fill 4
  rhoCommit := .fill 5
  seedCtxHash := .fill 6
  seedCommit := .fill 7
  hpCommit := .fill 8
  xkHash := .fill 9
  joinDeltaRoot := .fill 10
  revokedSinceRoot := .zero
  revokedRoot := .zero
  acceptSeq := 0
  crsId := [11]
  paramsId := [12]
  policyVersion := "1"
  proofMode := "lin"
  vrfId := "vrf"
  vrfProof := [13]
  vrfPublic := [14]
  maskA := .fill 15
  maskB := .fill 16
  fsCapss := [17]
  proofsCommit := .fill 18
  srxCommit := none
  srxRootSw := none
  isJoin := true
  hpEnvelope := [19]
  fsEpochCommit := some (.fill 20)
  fsEc := some 5
  fsDevCommit := some (.fill 21)

theorem plainParity_built :
    Except.mapList (builtEntry lastFieldCodec.hL (parityLookup [plainParity]))
      (retiredHeads [plainParity]) =
      .ok [(epochReplayValue plainParity (.fill 4), ⟨.fill 4, .fill 1, .fill 9⟩)] := rfl

theorem plainParity_recomputed :
    recomputedEntries lastFieldCodec (parityLookup [plainParity]) (retiredHeads [plainParity]) =
      .ok [⟨.fill 4, .fill 2, .fill 9⟩] := rfl

theorem lastField_injective : RollupHashesInjective lastFieldCodec [plainParity]
    [⟨.fill 4, .fill 1, .fill 9⟩] [⟨.fill 4, .fill 2, .fill 9⟩] := by
  have hpair : ∀ {X : Type} (f : X → Bytes32) (x y : X), f x ≠ f y → Set.InjOn f {x, y} := by
    intro X f x y hne a ha b hb heq
    simp only [Set.mem_insert_iff, Set.mem_singleton_iff] at ha hb
    rcases ha with rfl | rfl <;> rcases hb with rfl | rfl
    · rfl
    · exact absurd heq hne
    · exact absurd heq.symm hne
    · rfl
  refine ⟨?_, hpair _ _ _ (by decide), hpair _ _ _ (by decide)⟩
  intro p hp version
  rw [List.mem_singleton.mp hp]
  exact hpair _ _ _ (show (.fill 1 : Bytes32) ≠ .fill 2 by decide)

theorem rollup_commitments_agree_plainParity :
    ¬ ((rollupCommits lastFieldCodec [⟨.fill 4, .fill 1, .fill 9⟩]).provenance =
      (rollupCommits lastFieldCodec [⟨.fill 4, .fill 2, .fill 9⟩]).provenance) := by
  have hstored : ∀ p ∈ [plainParity], (parityLookup [plainParity]).get? p.weEpochId = some p := by
    decide
  have h := rollup_commitments_agree_iff hstored plainParity_built plainParity_recomputed
    lastField_injective
  simpa using h.1

/-- A merge that retires one stored head is built, and its commitments freeze. -/
theorem honest_rollup_frozen :
    ∃ merged, joinerKgenMergeOrWithState lastFieldCodec .ok ⟨"1", 0, none, some [7]⟩ .empty
        [plainParity] none = .ok merged ∧
      ∃ rollup, readRollup merged = .ok rollup ∧ rollup.provenanceCommit = some (.fill 1) ∧
        rollup.vckCommit = some (.fill 1) ∧
        checkProvenance lastFieldCodec [.fill 4] (parityLookup [plainParity]) rollup =
          .error (.freeze freezeMhHeadsInvalid) :=
  ⟨_, rfl, _, rfl, rfl, rfl, rfl⟩

end CityG
