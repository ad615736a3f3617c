import CityG.Joiner.KGen
import CityG.Lib.Settle

/-!
# What the search for an epoch identifier leaves

Each round derives the commitment, the secrets and the next state for the
identifier it is given, and then the identifier of the header with that
commitment. The result carries the latter; the rest belongs to the former.
-/

namespace CityG

namespace Joiner

theorem buildAnchorSeedCtx_congr (codec : AnchorCodec) {header header' : HeaderMap}
    (h : ∀ key ∉ SEED_CTX_EXCLUDED_KEYS, header.get? key = header'.get? key) :
    codec.buildAnchorSeedCtx header = codec.buildAnchorSeedCtx header' := by
  let kept : Nat × Value → Bool := fun e => decide (e.1 ∉ SEED_CTX_EXCLUDED_KEYS)
  have hfilter : header.filter kept = header'.filter kept := by
    ext1 key
    rw [OrdMap.get?_filter, OrdMap.get?_filter]
    by_cases hkey : key ∈ SEED_CTX_EXCLUDED_KEYS
    · simp [kept, hkey]
    · rw [h key hkey]
  have hentries : header.entries.filter kept = header'.entries.filter kept :=
    congrArg OrdMap.entries hfilter
  simp only [AnchorCodec.buildAnchorSeedCtx]
  exact congrArg (fun entries : List (Nat × Value) =>
    codec.toCbor (.map (entries.map fun e => (.ofNat e.1, e.2)))) hentries

def ROUND_KEYS : List Nat :=
  [HDR_SEED_CTX_HASH, HDR_FS_EC, HDR_FS_EPOCH_COMMIT, HDR_FS_DEV_PREV_COMMIT, HDR_FS_DEV_COMMIT]

def AgreesOffRound (header header' : HeaderMap) : Prop :=
  ∀ key ∉ ROUND_KEYS, header.get? key = header'.get? key

theorem insertFs_get? (header : HeaderMap) (inputs : FsJoinInputs) (fsDevCommit : Bytes32)
    {key : Nat} (hkey : key ∉ ROUND_KEYS) :
    (insertFs header inputs fsDevCommit).get? key = header.get? key := by
  simp only [ROUND_KEYS, List.mem_cons, List.not_mem_nil, or_false, not_or] at hkey
  simp [insertFs, hkey]

theorem seedHeader_insertFs_weEpochId (codec : AnchorCodec) (parts : AnchorInstanceParts)
    {header header' : HeaderMap} (h : AgreesOffRound header header') (inputs : FsJoinInputs)
    (fsDevCommit : Bytes32) :
    (seedHeader codec parts (insertFs header inputs fsDevCommit)).weEpochId =
      (seedHeader codec parts (insertFs header' inputs fsDevCommit)).weEpochId := by
  have hctx : codec.buildAnchorSeedCtx (insertFs header inputs fsDevCommit) =
      codec.buildAnchorSeedCtx (insertFs header' inputs fsDevCommit) := by
    apply buildAnchorSeedCtx_congr
    intro key hkey
    by_cases hround : key ∈ ROUND_KEYS
    · simp only [ROUND_KEYS, List.mem_cons, List.not_mem_nil, or_false] at hround
      rcases hround with rfl | rfl | rfl | rfl | rfl
      · exact absurd (by decide) hkey
      all_goals simp [insertFs, HDR_FS_EC, HDR_FS_EPOCH_COMMIT, HDR_FS_DEV_PREV_COMMIT,
        HDR_FS_DEV_COMMIT]
    · rw [insertFs_get? _ _ _ hround, insertFs_get? _ _ _ hround, h key hround]
  simp only [seedHeader, hctx]

section Rounds
variable (codec : AnchorCodec) (hash : FsHashes) (parts : AnchorInstanceParts)
  (prepared : PreparedJoin) (original : ForwardSecrecyState)

def nextWeid (weid : Bytes32) : Bytes32 :=
  let artifacts := original.joinArtifacts hash prepared.binding weid
  (seedHeader codec parts (insertFs prepared.header artifacts.inputs
    artifacts.fsDevCommit)).weEpochId

def firstWeid : Bytes32 := (seedHeader codec parts prepared.header).weEpochId

def SettlesInTime : Prop :=
  ∃ i < FS_ROUNDS,
    nextWeid codec hash parts prepared original
        ((nextWeid codec hash parts prepared original)^[i] (firstWeid codec parts prepared)) =
      (nextWeid codec hash parts prepared original)^[i] (firstWeid codec parts prepared)

instance : Decidable (SettlesInTime codec hash parts prepared original) :=
  inferInstanceAs (Decidable (∃ i < FS_ROUNDS, _))

variable {codec hash parts prepared original}

theorem fsRound_weEpochId {header : HeaderMap} (h : AgreesOffRound header prepared.header)
    (now : Nat) (weid : Bytes32) :
    (fsRound codec hash parts prepared.binding original now header weid).weEpochId =
      nextWeid codec hash parts prepared original weid :=
  seedHeader_insertFs_weEpochId codec parts h _ _

theorem fsRound_agrees {header : HeaderMap} (h : AgreesOffRound header prepared.header)
    (now : Nat) (weid : Bytes32) :
    AgreesOffRound (fsRound codec hash parts prepared.binding original now header weid).header
      prepared.header := by
  intro key hkey
  have hhash : key ≠ HDR_SEED_CTX_HASH := fun heq => hkey (heq ▸ List.mem_cons_self)
  simp only [fsRound, seedHeader, OrdMap.get?_insert, if_neg hhash]
  rw [insertFs_get? _ _ _ hkey, h key hkey]

theorem fsRound_commit (binding : DeviceBinding) (now : Nat) (header : HeaderMap) (weid : Bytes32) :
    (fsRound codec hash parts binding original now header weid).header.get? HDR_FS_EPOCH_COMMIT =
      some (.bytes (hash.fsEpochCommitHash
        (hash.deriveEpochSk original.kFs weid original.fsEc)).val) := by
  simp [fsRound, seedHeader, insertFs, ForwardSecrecyState.prepareJoin,
    ForwardSecrecyState.joinArtifacts, HDR_SEED_CTX_HASH, HDR_FS_EPOCH_COMMIT,
    HDR_FS_DEV_PREV_COMMIT, HDR_FS_DEV_COMMIT]

theorem fsRounds_eq (clock : Nat → Nat) (n : Nat) {header : HeaderMap} (weid : Bytes32)
    (h : AgreesOffRound header prepared.header) :
    let last := Function.settle (nextWeid codec hash parts prepared original) n weid
    ∃ header' now, AgreesOffRound header' prepared.header ∧
      fsRounds codec hash parts prepared.binding original clock n header weid =
        fsRound codec hash parts prepared.binding original now header' last.1 := by
  induction n generalizing header weid with
  | zero => exact ⟨header, clock 0, h, rfl⟩
  | succ n ih =>
    have hnext : (fsRound codec hash parts prepared.binding original (clock (n + 1)) header
        weid).weEpochId = nextWeid codec hash parts prepared original weid :=
      fsRound_weEpochId h _ _
    simp only [fsRounds, Function.settle, hnext]
    split
    · exact ⟨header, clock (n + 1), h, rfl⟩
    · exact ih _ (fsRound_agrees h _ _)

end Rounds

structure BelongsTo (hash : FsHashes) (before after : ForwardSecrecyState)
    (result : JoinerKGenResult) (weid : Bytes32) : Prop where
  commit : (result.headerMap.get? HDR_FS_EPOCH_COMMIT).bind Value.asBytes =
    some (hash.fsEpochCommitHash (hash.deriveEpochSk before.kFs weid before.fsEc)).val
  secret : result.fsEpochSecret = some (hash.deriveEpochSk before.kFs weid before.fsEc)
  tau : result.fsTau = some (hash.deriveTau before.kFs weid before.fsEc)
  last : after.lastWeid = weid
  ratchet : after.kFs = hash.evolveKFs before.kFs weid before.nextEc

section Result
variable {suite : Suite} {parts : AnchorInstanceParts} {params : OrchestrationParams}
  {rng : Randomness} {prepared : PreparedJoin} {settled : SettledEpoch} {witness : Option Bytes}
  {result : JoinerKGenResult} {clock : Nat → Nat} {before after : ForwardSecrecyState}
  {header : HeaderMap}

theorem deriveRho_header_get? (anchor : AnchorInstance) (header : HeaderMap) {key : Nat}
    (hkey : key ∉ [HDR_POP_ALG, HDR_POP_PK, HDR_POP_SIG]) :
    (deriveRho suite parts params rng anchor header).header.get? key = header.get? key := by
  simp only [List.mem_cons, List.not_mem_nil, or_false, not_or] at hkey
  unfold deriveRho
  cases params.popKeys <;> simp [hkey]

/-- What is generated after the epoch is settled keeps its identifier, its
secrets and the commitment in the header. -/
theorem finishKgen_settled
    (h : finishKgen suite parts params rng witness prepared settled = .ok result) :
    result.weEpochId = settled.seeded.weEpochId ∧ result.fsEpochSecret = settled.fsEpochSecret ∧
      result.fsTau = settled.fsTau ∧
      result.headerMap.get? HDR_FS_EPOCH_COMMIT =
        settled.seeded.header.get? HDR_FS_EPOCH_COMMIT := by
  simp only [finishKgen, Except.bind_eq_ok, Except.pure_eq_ok] at h
  obtain ⟨_, _, _, _, _, _, proofs, _, rfl⟩ := h
  refine ⟨rfl, rfl, rfl, ?_⟩
  simp only [insertProofs, kgenSeeds, OrdMap.get?_insert]
  simp only [HDR_FS_CAPSS, HDR_VRF_PROOF, HDR_VRF_PUBLIC_KEY, HDR_PROOF_MODE, HDR_VRF_ID,
    HDR_PROOFS_COMMIT, HDR_HP_COMMIT, HDR_HP_BYTES, HDR_VRF_MASK_A, HDR_VRF_MASK_B,
    HDR_SEED_BUNDLE_COMMIT, HDR_RHO_COMMIT]
  exact deriveRho_header_get? _ _ (by decide)

def lastRound (suite : Suite) (parts : AnchorInstanceParts) (prepared : PreparedJoin)
    (before : ForwardSecrecyState) : Bytes32 × Bytes32 :=
  Function.settle (nextWeid suite.codec suite.fs parts prepared before) (FS_ROUNDS - 1)
    (firstWeid suite.codec parts prepared)

theorem settledRound_eq (suite : Suite) (parts : AnchorInstanceParts) (clock : Nat → Nat)
    (prepared : PreparedJoin) (before : ForwardSecrecyState) :
    ∃ header now, AgreesOffRound header prepared.header ∧
      fsRounds suite.codec suite.fs parts prepared.binding before clock (FS_ROUNDS - 1)
          (seedHeader suite.codec parts prepared.header).header
          (firstWeid suite.codec parts prepared) =
        fsRound suite.codec suite.fs parts prepared.binding before now header
          (lastRound suite parts prepared before).1 := by
  apply fsRounds_eq
  -- The header the loop starts with differs from the prepared one in its hash.
  intro key hkey
  have hhash : key ≠ HDR_SEED_CTX_HASH := fun heq => hkey (heq ▸ List.mem_cons_self)
  simp [seedHeader, hhash]

/-- The result names the identifier computed last; everything else belongs to
the one it was computed from. -/
theorem joinerKgenOr_lastRound
    (h : joinerKgenOr suite parts params rng clock header witness (some before) =
      .ok result (some after)) :
    ∃ prepared, prepareHeader suite.codec suite.fs parts params header = .ok prepared ∧
      result.weEpochId = (lastRound suite parts prepared before).2 ∧
      BelongsTo suite.fs before after result (lastRound suite parts prepared before).1 := by
  simp only [joinerKgenOr, EStateM.bind_eq_ok, EStateM.check_eq_ok] at h
  obtain ⟨prepared, _, ⟨hprepared, rfl⟩, settled, _, hsettle, hfinish, rfl⟩ := h
  obtain ⟨header', now, hagree, hround⟩ := settledRound_eq suite parts clock prepared before
  cases hsettle
  obtain ⟨hweid, hsecret, htau, hheader⟩ := finishKgen_settled hfinish
  refine ⟨prepared, hprepared, ?_, ?_⟩
  · rw [hweid, lastRound, Function.settle_snd]
    exact (congrArg (fun round : FsRound => round.weEpochId) hround).trans
      (fsRound_weEpochId hagree now _)
  · constructor
    · have hcommit := (hheader.trans (congrArg (fun round : FsRound =>
        round.header.get? HDR_FS_EPOCH_COMMIT) hround)).trans (fsRound_commit ..)
      rw [hcommit]
      rfl
    · exact hsecret.trans (congrArg (fun round : FsRound => some round.artifacts.epochSk) hround)
    · exact htau.trans (congrArg (fun round : FsRound => some round.artifacts.tauE) hround)
    · exact congrArg (fun round : FsRound => round.state.lastWeid) hround
    · exact congrArg (fun round : FsRound => round.state.kFs) hround

def HeaderSettles (suite : Suite) (parts : AnchorInstanceParts) (params : OrchestrationParams)
    (header : HeaderMap) (before : ForwardSecrecyState) : Prop :=
  ∃ prepared, prepareHeader suite.codec suite.fs parts params header = .ok prepared ∧
    SettlesInTime suite.codec suite.fs parts prepared before

end Result

section Sample
open Bytes32 (fill)

def weight : Value → Nat
  | .bytes b => (b.headD 0).val
  | .integer i => i.toNat
  | _ => 0

def weightHash : HashL := fun _ value =>
  fill (Fin.ofNat 256 (match value with
    | .array values => (values.map weight).sum + 1
    | .map entries => (entries.map fun e => weight e.2).sum + 1
    | value => weight value + 1))

def commitCbor : Value → Bytes
  | .map entries => (entries.filter fun e => weight e.1 = HDR_FS_EPOCH_COMMIT).map fun e =>
    Fin.ofNat 256 (weight e.2)
  | _ => [0]

def plainRing : Rlwe.Ring where
  expandA _ _ _ _ := 0
  toNtt p := p
  fromNtt p := p
  pointwiseMul p _ := p
  add p _ := p
  samplePolyvec _ _ _ _ := 0

def sampleCodec (hL : HashL) : AnchorCodec where
  hL := hL
  toCbor := commitCbor
  fromReader _ := none
  fromUtf8 _ := none
  asBytes _ := []
  wire := ⟨fun _ => none, fun _ => none, fun _ => none⟩

def rootLeaf : RawMembershipWitness := ⟨Bytes32.zero.val, Bytes32.zero.val, []⟩

def sampleWitness : Bytes → Option CanonicalWitness
  | [0] => some (.A rootLeaf none)
  | [1] => some (.B rootLeaf none none)
  | _ => none

def sampleSuite (hL : HashL) : Suite where
  codec := sampleCodec hL
  hkdf salt key _ := fill (salt.val.headD 0 + key.headD 0)
  blake3 _ := .zero
  lattice := ⟨fun _ _ => .zero, plainRing, fun _ => [1], fun _ => none⟩
  witness := ⟨⟨fun a _ => a, fun a _ _ _ _ _ => a⟩, fun _ _ _ => .ok (), sampleWitness⟩
  encodeArtifact _ := [1]
  decodeArtifact _ := none
  encrypt _ _ _ plaintext := some (plaintext ++ List.replicate 16 0)
  decrypt _ _ _ _ := none
  signPop _ _ := []
  capssProve _ := .ok []
  vrfPublicForEpoch _ _ := .ok []
  vrfProve _ _ _ := .ok []

def sampleParts : AnchorInstanceParts where
  gid := [1]
  cat := []
  tsweSaltHash := []
  parentRoot := Bytes32.zero.val
  joinDeltaRoot := Bytes32.zero.val
  revokedSincePrevRoot := Bytes32.zero.val
  revokedRoot := Bytes32.zero.val
  poxRCommit := none

def sampleParams : OrchestrationParams where
  msphfCrsId := "crs"
  paramsId := "params"
  popKeys := none
  leafIdMode := .perGroup
  proofMode := DEFAULT_PROOF_MODE
  vrfId := DEFAULT_VRF_ID
  vrfSecretKey := some [1]
  fsPolicyVersion := "0"
  fsEpochBaseTs := 0
  barrierVersion := 0
  fsJoin := ⟨0, .zero, .zero⟩

def sampleHeader : HeaderMap := OrdMap.ofList [(HDR_POP_PK, .bytes [1])]

def sampleState : ForwardSecrecyState := ⟨fill 9, 5, .zero, .zero, TauCache.new 600 4⟩

def sampleKgen (hL : HashL) : KGenM JoinerKGenResult :=
  joinerKgenOr (sampleSuite hL) sampleParts sampleParams ⟨.zero, .zero⟩ (fun _ => 0) sampleHeader
    none

theorem sampleKgen_of_mem {hL : HashL} {P : JoinerKGenResult → ForwardSecrecyState → Prop}
    (h : ∃ run ∈ ((sampleKgen hL).toExcept (some sampleState)).toOption,
      ∃ after ∈ run.2, P run.1 after) :
    ∃ result after, sampleKgen hL (some sampleState) = .ok result (some after) ∧ P result after := by
  obtain ⟨⟨result, state⟩, hrun, after, hafter, hP⟩ := h
  obtain rfl := Option.mem_def.mp hafter
  have hok : (sampleKgen hL).toExcept (some sampleState) = .ok (result, some after) :=
    Except.toOption_eq_some.mp hrun
  exact ⟨result, after, EStateM.toExcept_eq_ok.mp hok, hP⟩

end Sample

end Joiner

end CityG
