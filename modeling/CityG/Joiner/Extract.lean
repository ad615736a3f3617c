import CityG.Joiner.EpochBinding
import Mathlib.Data.Countable.Basic
import Mathlib.Logic.Equiv.List

/-!
# Extracting the epoch key

`extract_epoch_msphf_or` opens the sealed artifact, validates the witness, and
takes the mask of the witness's branch off the epoch target. It arrives at the
key of the joiner on both branches, and without a witness.
-/

namespace CityG

namespace Joiner

open Except (ensure ofOption)

section
variable (suite : Suite)

def decryptHpBytes (ciphertext : Bytes) (xkHash commit key : Bytes32) : Except MsphfError Bytes := do
  ensure (AEAD_TAG_LEN ≤ ciphertext.length) (.invalidInput "msphf_hp_ciphertext truncated")
  let plaintext ← ofOption (.invalidInput "msphf_hp_ciphertext tag mismatch")
    (suite.decrypt key (deriveHpNonce suite.codec.hL xkHash commit) commit.val ciphertext)
  ensure (plaintext ≠ []) (.invalidInput "hp_k empty")
  ensure (plaintext.length ≤ MAX_HP_BYTES) (.invalidInput "hp_k too large")
  pure plaintext

def verifyHpK (binding : HpBindingInputs) (proof : Bytes) : Except MsphfError Unit :=
  ensure (suite.codec.proveHpK binding = proof) (.invalidInput "hp_k proof mismatch")

def maskLength (mask : Bytes) : Except MsphfError Bytes32 :=
  ofOption (.invalidInput "mask length") (toBytes32 mask)

def unmask (anchor : AnchorInstance) (binding : HpBindingInputs) (artifact : HpArtifact)
    (witness : Option ValidatedWitness) : Except MsphfError Bytes32 := do
  ensure (artifact.hpVersion = 1) (.invalidInput "unsupported hp_version")
  let mA ← maskLength artifact.mA
  let mB ← maskLength artifact.mB
  ensure (artifact.paramsId ≠ "") (.invalidInput "missing params_id")
  let mode := (witness.map ValidatedWitness.mode).getD .A
  let (mask, hpBytes) := match mode with
    | .A => (mA, artifact.hpA)
    | .B => (mB, artifact.hpB)
  let yProj ← Rlwe.hashProj suite.lattice suite.codec.hL binding.msphfCrsId binding.paramsId hpBytes
    mode anchor witness
  let material := maskMaterial suite.codec.hL binding.msphfCrsId binding.paramsId mode yProj
  pure (epochKey suite.codec.hL anchor (mask.xor material))

def extractEpochMsphfOrImpl (anchor : AnchorInstance) (expectedXkHash : Bytes32)
    (hpCiphertext : Bytes) (hpKey : Bytes32) (proof : Bytes) (binding : HpBindingInputs)
    (witness : Bytes) (verifyProof : Bool) : Except MsphfError Bytes32 := do
  ensure (suite.codec.xkHash anchor = expectedXkHash) (.invalidInput "xk_hash mismatch")
  ensure (hpCiphertext.length ≤ MAX_HP_BYTES + AEAD_TAG_LEN) (.invalidInput "hp_k too large")
  if verifyProof then verifyHpK suite binding proof else pure ()
  let anchorCommit ← ofOption (.invalidInput "missing msphf_hp_commit") anchor.msphfHpCommit
  let hpPlain ← decryptHpBytes suite hpCiphertext expectedXkHash anchorCommit hpKey
  ensure (anchorCommit = binding.hpCommit ∧
    hpCommitOf suite.codec.hL hpPlain = binding.hpCommit) (.invalidInput "msphf_hp_commit mismatch")
  let validated ← parseValidatedWitness suite.witness suite.codec anchor witness
  let artifact ← ofOption (.witness .cborMalformed) (suite.decodeArtifact hpPlain)
  unmask suite anchor binding artifact validated

def extractEpochMsphfOr (anchor : AnchorInstance) (expectedXkHash : Bytes32) (hpCiphertext : Bytes)
    (hpKey : Bytes32) (proof : Bytes) (binding : HpBindingInputs) (witness : Bytes) :
    Except MsphfError Bytes32 :=
  extractEpochMsphfOrImpl suite anchor expectedXkHash hpCiphertext hpKey proof binding witness true

def extractEpochMsphfOrPreverified (anchor : AnchorInstance) (expectedXkHash : Bytes32)
    (hpCiphertext : Bytes) (hpKey : Bytes32) (proof : Bytes) (binding : HpBindingInputs)
    (witness : Bytes) : Except MsphfError Bytes32 :=
  extractEpochMsphfOrImpl suite anchor expectedXkHash hpCiphertext hpKey proof binding witness false

end

/-- The cipher decrypts what it encrypted and adds its tag, and the decoders
undo the encoders. -/
structure Suite.Faithful (suite : Suite) : Prop where
  decrypt : ∀ {key nonce aad message ciphertext},
    suite.encrypt key nonce aad message = some ciphertext →
      suite.decrypt key nonce aad ciphertext = some message
  tag : ∀ {key nonce aad message ciphertext},
    suite.encrypt key nonce aad message = some ciphertext →
      ciphertext.length = message.length + AEAD_TAG_LEN
  artifact : ∀ artifact, suite.decodeArtifact (suite.encodeArtifact artifact) = some artifact
  branch : suite.lattice.Decodes

namespace JoinerKGenResult
variable (result : JoinerKGenResult) (parts : AnchorInstanceParts) (params : OrchestrationParams)

def completed : AnchorInstance where
  toAnchorInstanceParts := parts
  weEpochId := result.weEpochId
  anchorHdrCtx := result.anchorHdrCtx
  msphfHpCommit := some result.hpCommit

def binding : HpBindingInputs :=
  ⟨params.msphfCrsId, params.paramsId, result.seedCtxHash, result.seedCommit, result.rhoCommit,
    result.xkHash, result.hpCommit⟩

def extract (suite : Suite) (witness : Bytes) : Except MsphfError Bytes32 :=
  extractEpochMsphfOr suite (result.completed parts) result.xkHash result.hpCiphertext
    result.hpAeadKey result.hpProof (result.binding params) witness

end JoinerKGenResult

def ValidatesIn (suite : Suite) (anchor : AnchorInstance) (mode : WitnessMode) (witness : Bytes) :
    Prop :=
  ∃ canonical validated, suite.witness.decodeWitness witness = some canonical ∧
    canonical.validateAgainst suite.witness suite.codec anchor = .ok validated ∧
    validated.mode = mode

section Agreement
variable {suite : Suite} {parts : AnchorInstanceParts} {params : OrchestrationParams}
  {rng : Randomness} {clock : Nat → Nat} {header : HeaderMap} {given : Option Bytes}
  {before after : Option ForwardSecrecyState} {result : JoinerKGenResult}

structure JoinerKGenResult.Generated (suite : Suite) (parts : AnchorInstanceParts)
    (params : OrchestrationParams) (result : JoinerKGenResult) (seedDrbg : Bytes32) : Prop where
  xkHash : result.xkHash = suite.codec.xkHash (result.completed parts)
  hpK : result.hpK =
    suite.encodeArtifact (hpArtifact suite params (result.completed parts) seedDrbg)
  hpCommit : result.hpCommit = hpCommitOf suite.codec.hL result.hpK
  sealed : encryptHpBytes suite result.hpK result.xkHash result.hpCommit result.hpAeadKey =
    .ok result.hpCiphertext
  hpProof : result.hpProof = suite.codec.proveHpK (result.binding params)
  epochKey : result.epochKey = Joiner.epochKey suite.codec.hL (result.completed parts)
    (yStar suite params (result.completed parts) seedDrbg)

theorem joinerKgenOr_generated
    (h : joinerKgenOr suite parts params rng clock header given before = .ok result after) :
    ∃ seedDrbg, result.Generated suite parts params seedDrbg := by
  simp only [joinerKgenOr, EStateM.bind_eq_ok, EStateM.check_eq_ok] at h
  obtain ⟨prepared, _, _, settled, _, _, hfinish, _⟩ := h
  simp only [finishKgen, Except.bind_eq_ok, Except.pure_eq_ok] at hfinish
  obtain ⟨parentRoot, _, _, _, _, hsealed, _, _, rfl⟩ := hfinish
  exact ⟨(kgenSeeds suite parts params rng settled.seeded parentRoot).seedDrbg,
    ⟨rfl, rfl, rfl, hsealed, rfl, rfl⟩⟩

theorem decryptHpBytes_of_encrypt (hf : suite.Faithful) {plaintext ciphertext : Bytes}
    {xkHash commit key : Bytes32}
    (h : encryptHpBytes suite plaintext xkHash commit key = .ok ciphertext) :
    ciphertext.length ≤ MAX_HP_BYTES + AEAD_TAG_LEN ∧
      decryptHpBytes suite ciphertext xkHash commit key = .ok plaintext := by
  simp only [encryptHpBytes, Except.bind_eq_ok, Except.ensure_eq_ok, Except.ofOption_eq_ok] at h
  obtain ⟨_, hne, _, hlen, hsealed⟩ := h
  have htag := hf.tag hsealed
  refine ⟨by omega, ?_⟩
  simp only [decryptHpBytes, Except.bind_eq_ok, Except.ensure_eq_ok, Except.ofOption_eq_ok,
    Except.pure_eq_ok]
  exact ⟨(), by omega, plaintext, hf.decrypt hsealed, (), hne, (), hlen, rfl⟩

theorem unmask_hpArtifact (hf : suite.Faithful) (hparams : params.paramsId ≠ "")
    {anchor : AnchorInstance} {binding : HpBindingInputs} {seedDrbg : Bytes32}
    (hcrs : binding.msphfCrsId = params.msphfCrsId) (hid : binding.paramsId = params.paramsId)
    {witness : Option ValidatedWitness}
    (hroot : ∀ w ∈ witness, toBytes32 (anchor.branchRoot w.mode) = some w.membership.root) :
    unmask suite anchor binding (hpArtifact suite params anchor seedDrbg) witness =
      .ok (epochKey suite.codec.hL anchor (yStar suite params anchor seedDrbg)) := by
  have hmask (b : Bytes32) : maskLength b.val = .ok b := by simp [maskLength]
  -- At no witness the branch is the first.
  have hmode : ∀ w ∈ witness, w.mode = (witness.map ValidatedWitness.mode).getD .A := by
    rintro w rfl
    rfl
  have hproj (branch : WitnessMode) (hbranch : ∀ w ∈ witness, w.mode = branch) :
      Rlwe.hashProj suite.lattice suite.codec.hL params.msphfCrsId params.paramsId
          (branchHash suite params seedDrbg (suite.codec.xkHash anchor) branch).hpBytes branch anchor
          witness =
        .ok (branchHash suite params seedDrbg (suite.codec.xkHash anchor) branch).yFull :=
    Rlwe.hashProj_hashFull _ _ _ hf.branch _ _ fun w hw => ⟨hbranch w hw, hroot w hw⟩
  simp only [unmask, hpArtifact, hmask, hcrs, hid, Except.bind_eq_ok]
  refine ⟨(), Except.ensure_eq_ok.mpr trivial, _, rfl, _, rfl, (), Except.ensure_eq_ok.mpr hparams, ?_⟩
  generalize (witness.map ValidatedWitness.mode).getD WitnessMode.A = branch at hmode ⊢
  have hunmasked (y mask : Bytes32) : (pure (epochKey suite.codec.hL anchor ((y.xor mask).xor mask)) :
      Except MsphfError Bytes32) = .ok (epochKey suite.codec.hL anchor y) := by
    rw [Bytes32.xor_xor]
    rfl
  cases branch with
  | A => exact ⟨_, hproj .A hmode, hunmasked ..⟩
  | B => exact ⟨_, hproj .B hmode, hunmasked ..⟩

theorem JoinerKGenResult.Generated.extract_eq (hf : suite.Faithful) {seedDrbg : Bytes32}
    (h : result.Generated suite parts params seedDrbg) (witness : Bytes) :
    result.extract parts params suite witness =
      (parseValidatedWitness suite.witness suite.codec (result.completed parts) witness >>=
        unmask suite (result.completed parts) (result.binding params)
          (hpArtifact suite params (result.completed parts) seedDrbg)) := by
  obtain ⟨hlen, hopen⟩ := decryptHpBytes_of_encrypt hf h.sealed
  have hcommit : (result.completed parts).msphfHpCommit = some result.hpCommit := rfl
  have hbinding : (result.binding params).hpCommit = result.hpCommit := rfl
  have hdecode : suite.decodeArtifact result.hpK =
      some (hpArtifact suite params (result.completed parts) seedDrbg) := by
    rw [h.hpK, hf.artifact]
  simp only [JoinerKGenResult.extract, extractEpochMsphfOr, extractEpochMsphfOrImpl, verifyHpK,
    ← h.xkHash, ← h.hpProof, ← h.hpCommit, hlen, hcommit, hopen, hbinding, hdecode, ensure, ofOption,
    if_true, and_self, Except.ok_bind]

/-- Extraction with a witness of either branch, or with none, arrives at the key
of the joiner; with any other bytes it fails. -/
theorem extract_returns_epochKey (hf : suite.Faithful)
    (h : joinerKgenOr suite parts params rng clock header given before = .ok result after)
    (hparams : params.paramsId ≠ "") :
    (∀ mode witness, ValidatesIn suite (result.completed parts) mode witness →
        result.extract parts params suite witness = .ok result.epochKey) ∧
      result.extract parts params suite [] = .ok result.epochKey ∧
      ∀ witness ≠ [], (∀ mode, ¬ ValidatesIn suite (result.completed parts) mode witness) →
        ∃ err, result.extract parts params suite witness = .error err := by
  obtain ⟨seedDrbg, hgen⟩ := joinerKgenOr_generated h
  have hunmask (validated : Option ValidatedWitness)
      (hroot : ∀ w ∈ validated,
        toBytes32 ((result.completed parts).branchRoot w.mode) = some w.membership.root) :
      unmask suite (result.completed parts) (result.binding params)
        (hpArtifact suite params (result.completed parts) seedDrbg) validated =
          .ok result.epochKey := by
    rw [hgen.epochKey]
    exact unmask_hpArtifact hf hparams rfl rfl hroot
  have hempty : result.extract parts params suite [] = .ok result.epochKey := by
    rw [hgen.extract_eq hf]
    exact hunmask none nofun
  refine ⟨?_, hempty, ?_⟩
  · rintro mode witness ⟨canonical, validated, hdecode, hvalid, -⟩
    by_cases hne : witness = []
    · rw [hne, hempty]
    · rw [hgen.extract_eq hf, parseValidatedWitness_of_valid hne hdecode hvalid]
      refine hunmask (some validated) ?_
      intro w hw
      obtain rfl := Option.mem_some_iff.mp hw
      exact CanonicalWitness.validateAgainst_root hvalid
  · intro witness hne hnone
    rw [hgen.extract_eq hf]
    cases hparse : parseValidatedWitness suite.witness suite.codec (result.completed parts) witness with
    | error err => exact ⟨err, rfl⟩
    | ok validated =>
      obtain ⟨canonical, w, hdecode, hvalid⟩ := parseValidatedWitness_valid hne hparse
      exact absurd ⟨canonical, w, hdecode, hvalid, rfl⟩ (hnone w.mode)

theorem JoinerKGenResult.Generated.extract_no_params (hf : suite.Faithful) {seedDrbg : Bytes32}
    (h : result.Generated suite parts params seedDrbg) (hparams : params.paramsId = "") :
    result.extract parts params suite [] = .error (.invalidInput "missing params_id") := by
  have hmask (b : Bytes32) : maskLength b.val = .ok b := by simp [maskLength]
  rw [h.extract_eq hf, parseValidatedWitness, if_pos rfl, pure_bind]
  simp only [unmask, hpArtifact, hmask, hparams, ensure, if_true, Except.ok_bind]
  rfl

theorem srxComponents_none {header : HeaderMap} (hroot : header.get? HDR_SRX_ROOT_SW = none)
    (hproof : header.get? HDR_SRX_SMALLWOOD = none) : srxComponents header = .ok none := by
  simp [srxComponents, headerBytes32?, hroot, hproof]

theorem finishKgen_returns {prepared : PreparedJoin} {settled : SettledEpoch}
    (hroot : parts.parentRoot.length = 32)
    (hsealed : ∀ anchor seedDrbg xkHash commit, ∃ ciphertext, encryptHpBytes suite
      (suite.encodeArtifact (hpArtifact suite params anchor seedDrbg)) xkHash commit rng.hpKey =
        .ok ciphertext)
    (hcapss : ∀ inputs, ∃ proof, suite.capssProve inputs = .ok proof)
    (hvrf : ∃ secret, params.vrfSecretKey = some secret ∧
      (∃ pk, suite.vrfPublicForEpoch secret settled.seeded.weEpochId = .ok pk) ∧
      ∀ ctx masks, ∃ proof, suite.vrfProve secret ctx masks = .ok proof)
    (hsrx : settled.seeded.header.get? HDR_SRX_ROOT_SW = none ∧
      settled.seeded.header.get? HDR_SRX_SMALLWOOD = none) :
    ∃ result, finishKgen suite parts params rng none prepared settled = .ok result := by
  obtain ⟨secret, hsecret, ⟨pk, hpk⟩, hprove⟩ := hvrf
  refine Except.exists_bind_eq_ok ⟨⟨_, hroot⟩, by simp [toBytes32, hroot, ofOption]⟩ fun root _ => ?_
  refine Except.exists_bind_eq_ok ⟨(), rfl⟩ fun _ _ => ?_
  refine Except.exists_bind_eq_ok (hsealed ..) fun ciphertext _ => ?_
  refine Except.exists_bind_eq_ok ?_ fun proofs _ => ⟨_, rfl⟩
  refine Except.exists_bind_eq_ok (hcapss _) fun fsCapss _ => ?_
  refine Except.exists_bind_eq_ok ⟨secret, by rw [hsecret]; rfl⟩ fun _ hsame => ?_
  obtain rfl : secret = _ := by simpa [hsecret] using hsame
  refine Except.exists_bind_eq_ok ⟨pk, by rw [hpk]; rfl⟩ fun _ _ => ?_
  obtain ⟨proof, hproof⟩ := hprove (kgenVrfCtx parts params _ settled _ _) _
  refine Except.exists_bind_eq_ok ⟨proof, by rw [hproof]; rfl⟩ fun _ _ => ?_
  refine Except.exists_bind_eq_ok ⟨none, srxComponents_none ?_ ?_⟩ fun _ _ => ⟨_, rfl⟩
  · simp only [kgenSeeds, OrdMap.get?_insert]
    exact (deriveRho_header_get? _ _ (by decide)).trans hsrx.1
  · simp only [kgenSeeds, OrdMap.get?_insert]
    exact (deriveRho_header_get? _ _ (by decide)).trans hsrx.2

end Agreement

section Sample

theorem exists_encoding {α : Type} [Countable α] (short : α) :
    ∃ (encode : α → Bytes) (decode : Bytes → Option α), encode short = [1] ∧
      (∀ a, encode a ≠ []) ∧ ∀ a, decode (encode a) = some a := by
  classical
  obtain ⟨f, hf⟩ := exists_injective_nat α
  let encode : α → Bytes := fun a => if a = short then [1] else List.replicate (f a + 1) 0
  have hinj : Function.Injective encode := by
    intro a b hab
    simp only [encode] at hab
    split_ifs at hab with ha hb hb
    · rw [ha, hb]
    · simp [List.replicate_succ] at hab
    · simp [List.replicate_succ] at hab
    · have hlen := congrArg List.length hab
      simp only [List.length_replicate, Nat.add_right_cancel_iff] at hlen
      exact hf hlen
  refine ⟨encode, Function.partialInv encode, if_pos rfl, fun a => ?_,
    fun a => Function.partialInv_left hinj a⟩
  simp only [encode]
  split_ifs <;> simp [List.replicate_succ]

instance countableChar : Countable Char :=
  Function.Injective.countable (f := Char.toNat) fun _ _ h => Char.toNat_inj.mp h

instance countableString : Countable String :=
  Function.Injective.countable (f := String.toList) fun _ _ h => String.toList_inj.mp h

instance : Countable Rlwe.LinDesc :=
  Function.Injective.countable (f := fun d => (d.label, d.dim, d.modulus)) (by
    rintro ⟨⟩ ⟨⟩ h
    simp_all)

instance : Countable Rlwe.HpFlags :=
  Function.Injective.countable (f := fun d => (d.polyEncoding, d.coefEndian, d.nttOrder)) (by
    rintro ⟨⟩ ⟨⟩ h
    simp_all)

instance : Countable Rlwe.HpBranch :=
  Function.Injective.countable (f := fun hp => ((hp.k, hp.n, hp.q), (hp.aSeed, hp.bVec, hp.uVec),
      (hp.vVec, hp.saltRlwe, hp.linDesc), (hp.ctxTag, hp.flags))) (by
    rintro ⟨⟩ ⟨⟩ h
    simp_all)

instance : Countable HpArtifact :=
  Function.Injective.countable
    (f := fun a => (a.hpA, a.hpB, a.mA, a.mB, a.paramsId, a.hpVersion)) (by
    rintro ⟨⟩ ⟨⟩ h
    simp_all)

structure ArtifactCodes where
  encodeBranch : Rlwe.HpBranch → Bytes
  decodeBranch : Bytes → Option Rlwe.HpBranch
  encodeArtifact : HpArtifact → Bytes
  decodeArtifact : Bytes → Option HpArtifact

def zeroHash : HashL := fun _ _ => .zero

def sealedSuite (codes : ArtifactCodes) : Suite :=
  { sampleSuite zeroHash with
    lattice := ⟨fun _ _ => .zero, plainRing, codes.encodeBranch, codes.decodeBranch⟩
    encodeArtifact := codes.encodeArtifact
    decodeArtifact := codes.decodeArtifact
    decrypt := fun _ _ _ ciphertext => some (ciphertext.take (ciphertext.length - 16)) }

def namedParams (paramsId : String) : OrchestrationParams := { sampleParams with paramsId := paramsId }

def zeroBranch (paramsId : String) : Rlwe.HpBranch :=
  Rlwe.buildBranchArtifact (sampleSuite zeroHash).lattice zeroHash "crs" paramsId .zero .zero

def zeroArtifact (paramsId : String) : HpArtifact :=
  ⟨[1], [1], (Bytes32.zero.xor .zero).val, (Bytes32.zero.xor .zero).val, paramsId, 1⟩

structure ArtifactCodes.Reads (codes : ArtifactCodes) (paramsId : String) : Prop where
  branch : codes.encodeBranch (zeroBranch paramsId) = [1]
  artifact : codes.encodeArtifact (zeroArtifact paramsId) = [1]
  ne_nil : ∀ hp, codes.encodeBranch hp ≠ []
  decodeBranch : ∀ hp, codes.decodeBranch (codes.encodeBranch hp) = some hp
  decodeArtifact : ∀ a, codes.decodeArtifact (codes.encodeArtifact a) = some a

theorem exists_reads (paramsId : String) : ∃ codes : ArtifactCodes, codes.Reads paramsId := by
  obtain ⟨encodeBranch, decodeBranch, hbranch, hne, hreadBranch⟩ :=
    exists_encoding (zeroBranch paramsId)
  obtain ⟨encodeArtifact, decodeArtifact, hartifact, -, hread⟩ :=
    exists_encoding (zeroArtifact paramsId)
  exact ⟨⟨encodeBranch, decodeBranch, encodeArtifact, decodeArtifact⟩,
    ⟨hbranch, hartifact, hne, hreadBranch, hread⟩⟩

variable {codes : ArtifactCodes} {paramsId : String}

theorem sealedSuite_faithful (h : codes.Reads paramsId) : (sealedSuite codes).Faithful where
  decrypt := by
    rintro key nonce aad message _ ⟨⟩
    simp [sealedSuite]
  tag := by
    rintro key nonce aad message _ ⟨⟩
    simp [AEAD_TAG_LEN]
  artifact := h.decodeArtifact
  branch := ⟨h.ne_nil, fun hp _ => h.decodeBranch hp⟩

theorem sealedSuite_hpArtifact (h : codes.Reads paramsId) (anchor : AnchorInstance)
    (seedDrbg : Bytes32) :
    hpArtifact (sealedSuite codes) (namedParams paramsId) anchor seedDrbg = zeroArtifact paramsId := by
  have hp : ∀ branch, (branchHash (sealedSuite codes) (namedParams paramsId) seedDrbg
      ((sealedSuite codes).codec.xkHash anchor) branch).hpBytes = [1] := by
    intro branch
    cases branch <;> exact h.branch
  simp only [hpArtifact, hp]
  rfl

theorem sealedSuite_returns (h : codes.Reads paramsId)
    (hprepared : ∃ prepared ∈ (prepareHeader (sampleCodec zeroHash) (sampleSuite zeroHash).fs
      sampleParts (namedParams paramsId) sampleHeader).toOption,
      HDR_SRX_ROOT_SW ∉ prepared.header ∧ HDR_SRX_SMALLWOOD ∉ prepared.header) :
    ∃ result, joinerKgenOr (sealedSuite codes) sampleParts (namedParams paramsId) ⟨.zero, .zero⟩
      (fun _ => 0) sampleHeader none none = .ok result none := by
  obtain ⟨prepared, hprepared, hroot, hproof⟩ := hprepared
  have hprepared : prepareHeader (sealedSuite codes).codec (sealedSuite codes).fs sampleParts
      (namedParams paramsId) sampleHeader = .ok prepared := Except.toOption_eq_some.mp hprepared
  have hkept (key : Nat) (hkey : key ≠ HDR_SEED_CTX_HASH) (hnone : key ∉ prepared.header) :
      (seedHeader (sampleCodec zeroHash) sampleParts
        (seedHeader (sampleCodec zeroHash) sampleParts prepared.header).header).header.get? key =
          none := by
    simpa [seedHeader, hkey] using OrdMap.not_mem_iff.mp hnone
  have hsealed : ∀ anchor seedDrbg xkHash commit, ∃ ciphertext, encryptHpBytes (sealedSuite codes)
      ((sealedSuite codes).encodeArtifact
        (hpArtifact (sealedSuite codes) (namedParams paramsId) anchor seedDrbg)) xkHash commit .zero =
        .ok ciphertext := by
    intro anchor seedDrbg xkHash commit
    rw [sealedSuite_hpArtifact h, show (sealedSuite codes).encodeArtifact _ = [1] from h.artifact]
    exact ⟨_, rfl⟩
  let settled : SettledEpoch := ⟨seedHeader (sampleCodec zeroHash) sampleParts
    (seedHeader (sampleCodec zeroHash) sampleParts prepared.header).header,
    (namedParams paramsId).fsJoin, prepared.fsDevCommit, none, none⟩
  obtain ⟨result, hresult⟩ : ∃ result, finishKgen (sealedSuite codes) sampleParts
      (namedParams paramsId) ⟨.zero, .zero⟩ none prepared settled = .ok result :=
    finishKgen_returns (by decide) hsealed (fun _ => ⟨_, rfl⟩)
      ⟨[1], rfl, ⟨_, rfl⟩, fun _ _ => ⟨_, rfl⟩⟩
      ⟨hkept _ (by decide) hroot, hkept _ (by decide) hproof⟩
  refine ⟨result, ?_⟩
  simp only [joinerKgenOr, EStateM.bind_eq_ok, EStateM.check_eq_ok]
  exact ⟨prepared, none, ⟨hprepared, rfl⟩, settled, none, rfl, hresult, rfl⟩

theorem extract_returns_epochKey_named :
    ∃ (suite : Suite) (result : JoinerKGenResult), suite.Faithful ∧
      joinerKgenOr suite sampleParts (namedParams "params") ⟨.zero, .zero⟩ (fun _ => 0) sampleHeader
        none none = .ok result none ∧
      (∀ witness ∈ [[], [0], [1]],
        result.extract sampleParts (namedParams "params") suite witness = .ok result.epochKey) ∧
      ∃ err, result.extract sampleParts (namedParams "params") suite [2] = .error err := by
  obtain ⟨codes, hcodes⟩ := exists_reads "params"
  obtain ⟨result, hresult⟩ := sealedSuite_returns hcodes (by decide +kernel)
  have hf := sealedSuite_faithful hcodes
  obtain ⟨hvalid, hempty, hinvalid⟩ := extract_returns_epochKey hf hresult (by decide)
  refine ⟨sealedSuite codes, result, hf, hresult, ?_, hinvalid [2] (by decide) ?_⟩
  · intro witness hmem
    simp only [List.mem_cons, List.not_mem_nil, or_false] at hmem
    rcases hmem with rfl | rfl | rfl
    · exact hempty
    · exact hvalid .A [0] ⟨.A rootLeaf none, ⟨.A, ⟨.zero, .zero, []⟩, none, none⟩, rfl, rfl, rfl⟩
    · exact hvalid .B [1] ⟨.B rootLeaf none none, ⟨.B, ⟨.zero, .zero, []⟩, none, none⟩, rfl, rfl, rfl⟩
  · rintro mode ⟨canonical, -, hdecode, -⟩
    cases hdecode

/-- A joiner may leave its parameters unnamed, and its key is then not
extracted even without a witness. -/
theorem extract_refuses_unnamed_params :
    ∃ (suite : Suite) (result : JoinerKGenResult), suite.Faithful ∧
      joinerKgenOr suite sampleParts (namedParams "") ⟨.zero, .zero⟩ (fun _ => 0) sampleHeader
        none none = .ok result none ∧
      result.extract sampleParts (namedParams "") suite [] =
        .error (.invalidInput "missing params_id") := by
  obtain ⟨codes, hcodes⟩ := exists_reads ""
  obtain ⟨result, hresult⟩ := sealedSuite_returns hcodes (by decide +kernel)
  have hf := sealedSuite_faithful hcodes
  obtain ⟨seedDrbg, hgen⟩ := joinerKgenOr_generated hresult
  exact ⟨sealedSuite codes, result, hf, hresult, hgen.extract_no_params hf rfl⟩

end Sample

end Joiner

end CityG
