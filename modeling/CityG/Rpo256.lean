import CityG.Bytes
import CityG.Witness
import Mathlib.Data.Nat.Digits.Lemmas

/-!
# The byte packing of `rpo-256/v2`

Bytes are packed into 64-bit words and the words reduced into the Goldilocks
field before the sponge absorbs them. The permutation is a parameter.
-/

namespace CityG

namespace Rpo256

def GOLDILOCKS : Nat := 18446744069414584321

abbrev BaseElement := Fin GOLDILOCKS

instance : NeZero GOLDILOCKS := ⟨by decide⟩

def BaseElement.new (value : Nat) : BaseElement := Fin.ofNat GOLDILOCKS value

def STATE_WIDTH : Nat := 12
def RATE_WIDTH : Nat := 8
def RATE_OFFSET : Nat := 4

def DS_MT_NODE_U64 : UInt64 := 0x4D545F4E4F444500

abbrev SpongeState := List BaseElement

def SpongeState.zero : SpongeState := List.replicate STATE_WIDTH 0

def SpongeState.addAt (state : SpongeState) (lane : Nat) (word : BaseElement) : SpongeState :=
  state.modify lane (· + word)

def beValue (bytes : Bytes) : Nat := bytes.foldl (fun acc b => acc * 256 + b.val) 0

def chunksFrom : Nat → Bytes → List Bytes
  | 0, _ => []
  | _ + 1, [] => []
  | fuel + 1, b :: rest => (b :: rest).take 8 :: chunksFrom fuel ((b :: rest).drop 8)

def chunkWord (chunk : Bytes) : Nat := beValue (chunk ++ List.replicate (8 - chunk.length) 0)

def payloadWords (bytes : Bytes) : List Nat := (chunksFrom bytes.length bytes).map chunkWord

def bytesToFieldElements (bytes : Bytes) : List BaseElement :=
  (payloadWords bytes).map BaseElement.new

def toBeBytes (value : Nat) : Bytes :=
  (List.range 8).map fun i => Fin.ofNat 256 (value / 256 ^ (7 - i))

section Sponge
variable (perm : SpongeState → SpongeState)

def absorbLoop : List BaseElement → SpongeState → Nat → SpongeState × Nat
  | [], state, lane => (state, lane)
  | word :: rest, state, lane =>
    if lane = RATE_WIDTH then absorbLoop rest ((perm state).addAt RATE_OFFSET word) 1
    else absorbLoop rest (state.addAt (RATE_OFFSET + lane) word) (lane + 1)

def absorbWords (state : SpongeState) (words : List BaseElement) : SpongeState :=
  if words = [] then state
  else
    let (state, lane) := absorbLoop perm words state 0
    if lane ≠ 0 then perm state else state

def squeeze (state : SpongeState) : Bytes32 :=
  ⟨(List.range 4).flatMap fun i => toBeBytes (state.getD (RATE_OFFSET + i) 0).val, by
    simp [toBeBytes, List.length_flatMap]⟩

structure Absorbed where
  tag : BaseElement
  byteLength : BaseElement
  words : List BaseElement
  deriving DecidableEq

def spongeDigest (input : Absorbed) : Bytes32 :=
  let state := absorbWords perm SpongeState.zero [input.tag]
  let state := absorbWords perm state [input.byteLength]
  let state := absorbWords perm state input.words
  squeeze (perm state)

def absorbedBy (dsTag : UInt64) (payload : Bytes) : Absorbed where
  tag := .new dsTag.toNat
  byteLength := .new (payload.length % 2 ^ 64)
  words := bytesToFieldElements payload

def rpoHashV2 (dsTag : UInt64) (payload : Bytes) : Bytes32 :=
  spongeDigest perm (absorbedBy dsTag payload)

def hashWithTag (tag : UInt64) (payload : Bytes) : Bytes32 := rpoHashV2 perm tag payload

def node (left right : Bytes32) : Bytes32 :=
  hashWithTag perm DS_MT_NODE_U64 (left.val ++ right.val)

def DS_NONMEM_BIND_U64 : UInt64 := 0x4D545F4E4D42494E

def merkleHash : MerkleHash where
  hashNode := node perm
  hashIntervalBinding leftId leftLeaf rightId rightLeaf lcaLeftHeight lcaRightHeight :=
    hashWithTag perm DS_NONMEM_BIND_U64 (leftId.val ++ leftLeaf.val ++ rightId.val ++
      rightLeaf.val ++ [lcaLeftHeight, lcaRightHeight])

end Sponge

theorem beValue_eq_ofDigits (bytes : Bytes) :
    beValue bytes = Nat.ofDigits 256 (bytes.reverse.map Fin.val) := by
  induction bytes using List.reverseRecOn with
  | nil => rfl
  | append_singleton bytes b ih =>
    rw [beValue, List.foldl_append, ← beValue, ih, List.reverse_append]
    simp only [List.foldl_cons, List.foldl_nil, List.reverse_singleton, List.singleton_append,
      List.map_cons, Nat.ofDigits_cons]
    omega

theorem beValue_lt (bytes : Bytes) : beValue bytes < 256 ^ bytes.length := by
  rw [beValue_eq_ofDigits]
  have h := Nat.ofDigits_lt_base_pow_length (b := 256) (l := bytes.reverse.map Fin.val) (by decide)
    (by simp)
  simpa using h

theorem beValue_inj {a b : Bytes} (hlen : a.length = b.length) (h : beValue a = beValue b) :
    a = b := by
  rw [beValue_eq_ofDigits, beValue_eq_ofDigits] at h
  have hdigits := Nat.ofDigits_inj_of_len_eq (by decide : 1 < 256) (by simpa using hlen)
    (by simp) (by simp) h
  exact List.reverse_injective (List.map_injective_iff.mpr Fin.val_injective hdigits)

theorem chunksFrom_length (fuel : Nat) (bytes : Bytes) (h : bytes.length ≤ fuel) :
    (chunksFrom fuel bytes).length = (bytes.length + 7) / 8 := by
  induction fuel generalizing bytes with
  | zero =>
    obtain rfl := List.length_eq_zero_iff.mp (Nat.le_zero.mp h)
    rfl
  | succ fuel ih =>
    cases bytes with
    | nil => rfl
    | cons b rest =>
      have hdrop : ((b :: rest).drop 8).length = (b :: rest).length - 8 := List.length_drop
      rw [List.length_cons] at h
      rw [chunksFrom, List.length_cons, ih _ (by rw [hdrop, List.length_cons]; omega), hdrop,
        List.length_cons]
      omega

theorem payloadWords_length (bytes : Bytes) :
    (payloadWords bytes).length = (bytes.length + 7) / 8 := by
  rw [payloadWords, List.length_map, chunksFrom_length _ _ (Nat.le_refl _)]

theorem chunksFrom_short {fuel : Nat} {bytes : Bytes} :
    ∀ chunk ∈ chunksFrom fuel bytes, chunk.length ≤ 8 := by
  induction fuel generalizing bytes with
  | zero =>
    intro chunk h
    cases h
  | succ fuel ih =>
    intro chunk h
    cases bytes with
    | nil => cases h
    | cons b rest =>
      rcases List.mem_cons.mp h with rfl | h
      · exact List.length_take_le 8 _
      · exact ih chunk h

theorem payloadWords_lt (bytes : Bytes) : ∀ word ∈ payloadWords bytes, word < 2 ^ 64 := by
  intro word hword
  obtain ⟨chunk, hchunk, rfl⟩ := List.mem_map.mp hword
  have hshort := chunksFrom_short chunk hchunk
  have hvalue := beValue_lt (chunk ++ List.replicate (8 - chunk.length) 0)
  rw [List.length_append, List.length_replicate, Nat.add_sub_cancel' hshort] at hvalue
  exact hvalue

theorem chunkWord_inj {a b : Bytes} (hlen : a.length = b.length) (h : chunkWord a = chunkWord b) :
    a = b := by
  rw [chunkWord, chunkWord, hlen] at h
  exact List.append_cancel_right (beValue_inj (by simp [hlen]) h)

theorem payloadWords_inj {a b : Bytes} (hlen : a.length = b.length)
    (h : payloadWords a = payloadWords b) : a = b := by
  have hfuel : ∀ fuel a b, a.length = b.length → a.length ≤ fuel →
      (chunksFrom fuel a).map chunkWord = (chunksFrom fuel b).map chunkWord → a = b := by
    intro fuel
    induction fuel with
    | zero =>
      intro a b hlen hle _
      obtain rfl := List.length_eq_zero_iff.mp (Nat.le_zero.mp hle)
      exact (List.length_eq_zero_iff.mp hlen.symm).symm
    | succ fuel ih =>
      intro a b hlen hle h
      cases a with
      | nil => exact (List.length_eq_zero_iff.mp hlen.symm).symm
      | cons x xs =>
        cases b with
        | nil => cases hlen
        | cons y ys =>
          rw [chunksFrom, chunksFrom, List.map_cons, List.map_cons, List.cons.injEq] at h
          have htake := chunkWord_inj (by rw [List.length_take, List.length_take, hlen]) h.1
          have hdrop := ih _ _ (by rw [List.length_drop, List.length_drop, hlen])
            (by rw [List.length_drop]; rw [List.length_cons] at hle ⊢; omega) h.2
          rw [← List.take_append_drop 8 (x :: xs), htake, hdrop, List.take_append_drop]
  rw [payloadWords, payloadWords, ← hlen] at h
  exact hfuel _ a b hlen (Nat.le_refl _) h

def SameResidue (w w' : Nat) : Prop := w = w' ∨ w = w' + GOLDILOCKS ∨ w' = w + GOLDILOCKS

instance : DecidableRel SameResidue := fun _ _ => inferInstanceAs (Decidable (_ ∨ _ ∨ _))

theorem BaseElement.new_eq_iff {w w' : Nat} (hw : w < 2 ^ 64) (hw' : w' < 2 ^ 64) :
    BaseElement.new w = BaseElement.new w' ↔ SameResidue w w' := by
  rw [BaseElement.new, BaseElement.new, Fin.ext_iff, Fin.val_ofNat, Fin.val_ofNat, SameResidue,
    GOLDILOCKS]
  omega

theorem map_new_eq_iff {ws ws' : List Nat} (hws : ∀ w ∈ ws, w < 2 ^ 64)
    (hws' : ∀ w ∈ ws', w < 2 ^ 64) :
    ws.map BaseElement.new = ws'.map BaseElement.new ↔ List.Forall₂ SameResidue ws ws' := by
  induction ws generalizing ws' with
  | nil => cases ws' <;> simp
  | cons w ws ih =>
    cases ws' with
    | nil => simp
    | cons w' ws' =>
      rw [List.map_cons, List.map_cons, List.cons.injEq, List.forall₂_cons,
        BaseElement.new_eq_iff (hws w List.mem_cons_self) (hws' w' List.mem_cons_self),
        ih (fun v hv => hws v (List.mem_cons_of_mem _ hv))
          (fun v hv => hws' v (List.mem_cons_of_mem _ hv))]

structure Twins (tag tag' : UInt64) (payload payload' : Bytes) : Prop where
  tag : SameResidue tag.toNat tag'.toNat
  length : payload.length = payload'.length
  words : List.Forall₂ SameResidue (payloadWords payload) (payloadWords payload')

theorem absorbedBy_eq_iff (tag tag' : UInt64) (payload payload' : Bytes) :
    absorbedBy tag payload = absorbedBy tag' payload' ↔ Twins tag tag' payload payload' := by
  have htag := BaseElement.new_eq_iff tag.toNat_lt tag'.toNat_lt
  have hwords := map_new_eq_iff (payloadWords_lt payload) (payloadWords_lt payload')
  rw [absorbedBy, absorbedBy, Absorbed.mk.injEq, bytesToFieldElements, bytesToFieldElements, htag,
    hwords]
  constructor
  · rintro ⟨htag, hlen, hwords⟩
    -- The number of words leaves fewer than eight lengths, which the prime tells apart.
    have hcount := hwords.length_eq
    rw [payloadWords_length, payloadWords_length] at hcount
    rw [BaseElement.new_eq_iff (Nat.mod_lt _ (by decide)) (Nat.mod_lt _ (by decide)), SameResidue,
      GOLDILOCKS] at hlen
    refine ⟨htag, ?_, hwords⟩
    rcases hlen with hlen | hlen | hlen
    · omega
    · omega
    · omega
  · rintro ⟨htag, hlen, hwords⟩
    exact ⟨htag, by rw [hlen], hwords⟩

def NoCollision (perm : SpongeState → SpongeState) (tag tag' : UInt64)
    (payload payload' : Bytes) : Prop :=
  spongeDigest perm (absorbedBy tag payload) = spongeDigest perm (absorbedBy tag' payload') →
    absorbedBy tag payload = absorbedBy tag' payload'

theorem hashWithTag_eq_iff {perm : SpongeState → SpongeState} {tag tag' : UInt64}
    {payload payload' : Bytes} (hsponge : NoCollision perm tag tag' payload payload') :
    hashWithTag perm tag payload = hashWithTag perm tag' payload' ↔
      Twins tag tag' payload payload' := by
  rw [← absorbedBy_eq_iff]
  constructor
  · exact hsponge
  · intro h
    rw [hashWithTag, hashWithTag, rpoHashV2, rpoHashV2, h]

def Reduced (tag : UInt64) (payload : Bytes) : Prop :=
  tag.toNat < GOLDILOCKS ∧ ∀ word ∈ payloadWords payload, word < GOLDILOCKS

theorem SameResidue.eq_of_reduced {w w' : Nat} (h : SameResidue w w') (hw : w < GOLDILOCKS)
    (hw' : w' < GOLDILOCKS) : w = w' := by
  rcases h with h | h | h
  · exact h
  · omega
  · omega

theorem words_eq_of_reduced {ws ws' : List Nat} (h : List.Forall₂ SameResidue ws ws')
    (hws : ∀ w ∈ ws, w < GOLDILOCKS) (hws' : ∀ w ∈ ws', w < GOLDILOCKS) : ws = ws' := by
  induction h with
  | nil => rfl
  | cons hw _ ih =>
    rw [hw.eq_of_reduced (hws _ List.mem_cons_self) (hws' _ List.mem_cons_self),
      ih (fun w hmem => hws w (List.mem_cons_of_mem _ hmem))
        (fun w hmem => hws' w (List.mem_cons_of_mem _ hmem))]

theorem Twins.eq_of_reduced {tag tag' : UInt64} {payload payload' : Bytes}
    (h : Twins tag tag' payload payload') (hred : Reduced tag payload)
    (hred' : Reduced tag' payload') : (tag, payload) = (tag', payload') := by
  have htag : tag = tag' := UInt64.toNat_inj.mp (h.tag.eq_of_reduced hred.1 hred'.1)
  have hwords := words_eq_of_reduced h.words hred.2 hred'.2
  rw [htag, payloadWords_inj h.length hwords]

/-- Which inputs the hash tells apart, as far as the sponge does: those that are
no twins. Reduced inputs are told apart, and so are Merkle nodes unless their
children are twins. -/
theorem hashWithTag_distinguishes_iff (perm : SpongeState → SpongeState) :
    (∀ tag tag' payload payload', NoCollision perm tag tag' payload payload' →
      (hashWithTag perm tag payload ≠ hashWithTag perm tag' payload' ↔
        ¬ Twins tag tag' payload payload')) ∧
    (∀ tag tag' payload payload', NoCollision perm tag tag' payload payload' →
      Reduced tag payload → Reduced tag' payload' → (tag, payload) ≠ (tag', payload') →
      hashWithTag perm tag payload ≠ hashWithTag perm tag' payload') ∧
    ∀ left right left' right' : Bytes32,
      NoCollision perm DS_MT_NODE_U64 DS_MT_NODE_U64 (left.val ++ right.val)
        (left'.val ++ right'.val) →
      (node perm left right ≠ node perm left' right' ↔
        ¬ List.Forall₂ SameResidue (payloadWords (left.val ++ right.val))
          (payloadWords (left'.val ++ right'.val))) := by
  refine ⟨?_, ?_, ?_⟩
  · intro tag tag' payload payload' hsponge
    exact not_congr (hashWithTag_eq_iff hsponge)
  · intro tag tag' payload payload' hsponge hred hred' hne heq
    exact hne (((hashWithTag_eq_iff hsponge).mp heq).eq_of_reduced hred hred')
  · intro left right left' right' hsponge
    refine not_congr ((hashWithTag_eq_iff hsponge).trans ?_)
    constructor
    · exact fun h => h.words
    · intro h
      refine ⟨.inl rfl, ?_, h⟩
      rw [List.length_append, List.length_append, left.property, right.property, left'.property,
        right'.property]

def primeLeaf : Bytes32 := ⟨[255, 255, 255, 255, 0, 0, 0, 1] ++ List.replicate 24 0, by decide⟩

/-- Two pairs of children with one node hash, whatever the permutation. -/
theorem node_collides :
    primeLeaf ≠ Bytes32.zero ∧
    ∀ perm, node perm primeLeaf Bytes32.zero = node perm Bytes32.zero Bytes32.zero := by
  refine ⟨by decide, ?_⟩
  intro perm
  have habsorbed : absorbedBy DS_MT_NODE_U64 (primeLeaf.val ++ Bytes32.zero.val) =
      absorbedBy DS_MT_NODE_U64 (Bytes32.zero.val ++ Bytes32.zero.val) := by
    decide +kernel
  rw [node, node, hashWithTag, hashWithTag, rpoHashV2, rpoHashV2, habsorbed]

theorem hashWithTag_distinguishes_bytes :
    hashWithTag id DS_MT_NODE_U64 [1] ≠ hashWithTag id DS_MT_NODE_U64 [2] ∧
    ¬ node id primeLeaf Bytes32.zero ≠ node id Bytes32.zero Bytes32.zero := by
  have hdigests : spongeDigest id (absorbedBy DS_MT_NODE_U64 [1]) ≠
      spongeDigest id (absorbedBy DS_MT_NODE_U64 [2]) := by
    decide +kernel
  have htwins : List.Forall₂ SameResidue (payloadWords (primeLeaf.val ++ Bytes32.zero.val))
      (payloadWords (Bytes32.zero.val ++ Bytes32.zero.val)) := by
    decide +kernel
  obtain ⟨_, hreduced, hnode⟩ := hashWithTag_distinguishes_iff id
  constructor
  · exact hreduced _ _ _ _ (fun h => absurd h hdigests) ⟨by decide, by decide⟩
      ⟨by decide, by decide⟩ (by decide)
  · intro hne
    refine (hnode _ _ _ _ ?_).mp hne htwins
    intro _
    decide +kernel

end Rpo256

end CityG
