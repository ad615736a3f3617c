import CityG.Rlwe.Ntt

/-!
# Expanding a matrix entry

Candidates of twelve bits are drawn from the XOF and written with a mask: every candidate
writes to a slot, and a refused one writes back what the slot held.
-/

namespace CityG.RlweCore

def R2_MOD_Q : Int := 1353

def signBit (x : Int) : Nat := (x / 2 ^ 31 % 2).toNat

def ctSelectI16 (current replacement mask : BitVec 16) : BitVec 16 :=
  (current &&& ~~~mask) ||| (replacement &&& mask)

def put (a : Coeffs) (i : Fin 256) (v : Int) : Coeffs := a.set i v

structure Filling where
  coeffs : Coeffs
  filled : Nat

def takeCandidate (st : Filling) (t : Nat) : Filling :=
  let idx := Fin.ofNat 256 (min st.filled 255)
  let space := signBit (st.filled - 256)
  let valid := signBit (t - Q)
  let take := valid &&& space
  let mask := BitVec.ofInt 16 (-take)
  let value := (montgomeryReduce (t * R2_MOD_Q)).val
  let slot := ctSelectI16 (.ofInt 16 (st.coeffs.get idx)) (.ofInt 16 value) mask
  ⟨put st.coeffs idx slot.toInt, st.filled + take⟩

def lowCandidate (b0 b1 : Fin 256) : Nat := (b0.val ||| b1.val <<< 8) &&& 0x0FFF

def highCandidate (b1 b2 : Fin 256) : Nat := (b1.val >>> 4 ||| b2.val <<< 4) &&& 0x0FFF

def fillFrom (buf : Nat → Fin 256) : Nat → Nat → Filling → Filling
  | 0, _, st => st
  | left + 1, idx, st =>
    let st := takeCandidate st (lowCandidate (buf idx) (buf (idx + 1)))
    let st := takeCandidate st (highCandidate (buf (idx + 1)) (buf (idx + 2)))
    if 256 ≤ st.filled then st else fillFrom buf left (idx + 3) st

def fillBuffers (stream : Nat → Fin 256) : Nat → Nat → Filling → Option Coeffs
  | 0, _, st => if st.filled < 256 then none else some st.coeffs
  | fuel + 1, block, st =>
    if st.filled < 256 then
      fillBuffers stream fuel (block + 1) (fillFrom (fun i => stream (384 * block + i)) 128 0 st)
    else some st.coeffs

def generatePoly (stream : Nat → Fin 256) (fuel : Nat) : Option Coeffs :=
  fillBuffers stream fuel 0 ⟨Vector.replicate 256 0, 0⟩

def candidate (stream : Nat → Fin 256) (k : Nat) : Nat :=
  let i := 3 * (k / 2)
  if k % 2 = 0 then lowCandidate (stream i) (stream (i + 1))
  else highCandidate (stream (i + 1)) (stream (i + 2))

def accepted (stream : Nat → Fin 256) (n : Nat) : List Nat :=
  ((List.range n).map (candidate stream)).filter fun t => (t : Int) < Q

def toMontgomery (t : Nat) : Int := (montgomeryReduce (t * R2_MOD_Q)).val

theorem toMontgomery_spec {t : Nat} (ht : (t : Int) < Q) :
    (0 ≤ toMontgomery t ∧ toMontgomery t < Q) ∧ (toMontgomery t : Fq) = t * 2 ^ 16 := by
  have hwide : 0 ≤ montgomeryWide (t * R2_MOD_Q) ∧ montgomeryWide (t * R2_MOD_Q) < Q := by
    simp only [montgomeryWide]
    obtain ⟨hneg, hmask⟩ | ⟨hpos, hmask⟩ :=
      signMask_cases ((t * R2_MOD_Q - t * R2_MOD_Q * QINV % 2 ^ 16 * Q) / 2 ^ 16) Q <;>
    rw [hmask] <;>
    simp only [R2_MOD_Q, QINV, Q] at * <;>
    omega
  have hval : toMontgomery t = montgomeryWide (t * R2_MOD_Q) := by
    refine asI16_val ?_
    simp only [Q] at hwide
    exact ⟨by omega, by omega⟩
  rw [hval]
  refine ⟨hwide, ?_⟩
  have hconst : ((R2_MOD_Q : Int) : Fq) * 169 = 2 ^ 16 := by decide
  rw [montgomeryWide_cast, Int.cast_mul, mul_assoc, hconst, Int.cast_natCast]

theorem signBit_cases {x : Int} (hlo : -2 ^ 31 ≤ x) (hhi : x < 2 ^ 31) :
    signBit x = if x < 0 then 1 else 0 := by
  unfold signBit
  split <;> omega

theorem ctSelectI16_zero (current replacement : BitVec 16) :
    ctSelectI16 current replacement 0#16 = current := by
  rw [ctSelectI16, BitVec.not_zero, BitVec.and_allOnes, BitVec.and_zero, BitVec.or_zero]

theorem ctSelectI16_ones (current replacement : BitVec 16) :
    ctSelectI16 current replacement (BitVec.allOnes 16) = replacement := by
  rw [ctSelectI16, BitVec.not_allOnes, BitVec.and_zero, BitVec.zero_or, BitVec.and_allOnes]

theorem toInt_ofInt_of_range {x : Int} (hlo : 0 ≤ x) (hhi : x < Q) : (BitVec.ofInt 16 x).toInt = x := by
  rw [BitVec.toInt_ofInt, Int.bmod_def]
  simp only [Q] at hhi
  split <;> omega

def InRange (a : Coeffs) : Prop := ∀ i, 0 ≤ a.get i ∧ a.get i < Q

theorem takeCandidate_eq {st : Filling} {t : Nat} (ht : t < 2 ^ 12) (hrange : InRange st.coeffs)
    (hfilled : st.filled ≤ 256) :
    takeCandidate st t =
      if (t : Int) < Q ∧ st.filled < 256 then
        ⟨put st.coeffs (Fin.ofNat 256 st.filled) (toMontgomery t), st.filled + 1⟩
      else st := by
  obtain ⟨coeffs, filled⟩ := st
  replace hfilled : filled ≤ 256 := hfilled
  have hspace : signBit ((filled : Int) - 256) = if filled < 256 then 1 else 0 := by
    rw [signBit_cases (by omega) (by omega)]
    split <;> split <;> omega
  have hvalid : signBit ((t : Int) - Q) = if (t : Int) < Q then 1 else 0 := by
    rw [signBit_cases (by simp only [Q]; omega) (by simp only [Q]; omega)]
    split <;> split <;> omega
  simp only [takeCandidate, hspace, hvalid]
  by_cases htake : (t : Int) < Q ∧ filled < 256
  · have hmin : min filled 255 = filled := by omega
    have hvalue := toMontgomery_spec htake.1
    have hslot : (BitVec.ofInt 16 (montgomeryReduce (t * R2_MOD_Q)).val).toInt = toMontgomery t :=
      toInt_ofInt_of_range hvalue.1.1 hvalue.1.2
    rw [if_pos htake, if_pos htake.1, if_pos htake.2, hmin]
    change Filling.mk (put coeffs _ (ctSelectI16 _ _ (BitVec.allOnes 16)).toInt) _ = _
    rw [ctSelectI16_ones, hslot]
    rfl
  · have hzero : ((if (t : Int) < Q then 1 else 0) &&& (if filled < 256 then 1 else 0) : Nat) = 0 := by
      split
      · split
        · next h h' => exact absurd ⟨h, h'⟩ htake
        · rfl
      · exact Nat.zero_and _
    obtain ⟨hlo, hhi⟩ := hrange (Fin.ofNat 256 (min filled 255))
    rw [if_neg htake, hzero]
    change Filling.mk (put coeffs _ (ctSelectI16 _ _ 0#16).toInt) _ = _
    rw [ctSelectI16_zero, toInt_ofInt_of_range hlo hhi]
    congr 1
    exact Vector.set_getElem_self _

theorem candidate_lt (stream : Nat → Fin 256) (k : Nat) : candidate stream k < 2 ^ 12 := by
  unfold candidate
  dsimp only
  split
  · exact Nat.and_lt_two_pow _ (by decide)
  · exact Nat.and_lt_two_pow _ (by decide)

theorem accepted_succ (stream : Nat → Fin 256) (n : Nat) : accepted stream (n + 1) =
    accepted stream n ++ if (candidate stream n : Int) < Q then [candidate stream n] else [] := by
  rw [accepted, List.range_succ, List.map_append, List.filter_append, accepted, List.map_singleton,
    List.filter_cons, List.filter_nil]
  simp only [decide_eq_true_eq]

structure Filled (stream : Nat → Fin 256) (n : Nat) (st : Filling) : Prop where
  range : InRange st.coeffs
  count : st.filled = min (accepted stream n).length 256
  slots : ∀ i < st.filled, ∃ t, (accepted stream n)[i]? = some t ∧ (t : Int) < Q ∧
    coeff st.coeffs i = toMontgomery t

section Fill
variable {stream : Nat → Fin 256} {n : Nat} {st : Filling}

theorem Filled.step (h : Filled stream n st) :
    Filled stream (n + 1) (takeCandidate st (candidate stream n)) := by
  have hcount := h.count
  have hslots : ∀ i < st.filled, ∃ t, (accepted stream (n + 1))[i]? = some t ∧ (t : Int) < Q ∧
      coeff st.coeffs i = toMontgomery t := by
    intro i hi
    obtain ⟨t, hget, ht, hval⟩ := h.slots i hi
    refine ⟨t, ?_, ht, hval⟩
    rw [accepted_succ, List.getElem?_append_left (by omega)]
    exact hget
  rw [takeCandidate_eq (candidate_lt stream n) h.range (by omega)]
  split
  · next htake =>
      obtain ⟨hq, hlt⟩ := htake
      have hlen : st.filled = (accepted stream n).length := by omega
      have hvalue := (toMontgomery_spec hq).1
      refine ⟨fun i => ?_, ?_, fun i hi => ?_⟩
      · simp only [put, PairOp.get_set]
        split
        · exact hvalue
        · exact h.range i
      · rw [accepted_succ, if_pos hq, List.length_append, List.length_singleton]
        simp only
        omega
      · replace hi : i < st.filled + 1 := hi
        simp only [coeff, put, PairOp.get_set]
        by_cases hlast : i = st.filled
        · subst hlast
          refine ⟨candidate stream n, ?_, hq, if_pos rfl⟩
          rw [accepted_succ, if_pos hq, hlen]
          simp
        · have hne : Fin.ofNat 256 st.filled ≠ Fin.ofNat 256 i := by
            intro heq
            have hval := congrArg Fin.val heq
            simp only [Fin.val_ofNat] at hval
            omega
          rw [if_neg hne]
          exact hslots i (by omega)
  · next htake =>
      refine ⟨h.range, ?_, hslots⟩
      rw [accepted_succ]
      by_cases hq : (candidate stream n : Int) < Q
      · have hfull : ¬ st.filled < 256 := fun hlt => htake ⟨hq, hlt⟩
        rw [if_pos hq, List.length_append, List.length_singleton]
        omega
      · rw [if_neg hq, List.append_nil]
        exact hcount

end Fill

def taken (stream : Nat → Fin 256) : Nat → Filling
  | 0 => ⟨Vector.replicate 256 0, 0⟩
  | n + 1 => takeCandidate (taken stream n) (candidate stream n)

theorem taken_filled (stream : Nat → Fin 256) (n : Nat) : Filled stream n (taken stream n) := by
  induction n with
  | zero =>
    refine ⟨fun i => ?_, rfl, fun i hi => absurd hi (Nat.not_lt_zero i)⟩
    have hzero : (taken stream 0).coeffs.get i = 0 := Vector.getElem_replicate i.isLt
    rw [hzero]
    decide
  | succ n ih => exact ih.step

theorem taken_full {stream : Nat → Fin 256} {n m : Nat} (hfull : 256 ≤ (taken stream n).filled)
    (h : n ≤ m) : taken stream m = taken stream n := by
  induction h with
  | refl => rfl
  | @step m _ ih =>
    have hfilled := taken_filled stream m
    have hcount := hfilled.count
    rw [taken, takeCandidate_eq (candidate_lt stream m) hfilled.range (by omega),
      if_neg fun htake => absurd htake.2 (not_lt.mpr (by rw [ih]; exact hfull))]
    exact ih

theorem fillFrom_taken {stream buf : Nat → Fin 256} {base : Nat}
    (hbuf : ∀ i, buf i = stream (base + i)) (left idx : Nat) {n : Nat}
    (hpos : 2 * (base + idx) = 3 * n) :
    fillFrom buf left idx (taken stream n) = taken stream (n + 2 * left) := by
  induction left generalizing n idx with
  | zero => rfl
  | succ left ih =>
    have hlow : candidate stream n = lowCandidate (buf idx) (buf (idx + 1)) := by
      have hdiv : 3 * (n / 2) = base + idx := by omega
      simp only [candidate, hdiv, hbuf]
      rw [if_pos (by omega), Nat.add_assoc]
    have hhigh : candidate stream (n + 1) = highCandidate (buf (idx + 1)) (buf (idx + 2)) := by
      have hdiv : 3 * ((n + 1) / 2) = base + idx := by omega
      simp only [candidate, hdiv, hbuf]
      rw [if_neg (by omega), Nat.add_assoc, Nat.add_assoc]
    have hstep : taken stream (n + 2) = takeCandidate (takeCandidate (taken stream n)
        (lowCandidate (buf idx) (buf (idx + 1)))) (highCandidate (buf (idx + 1)) (buf (idx + 2))) := by
      rw [← hlow, ← hhigh, taken, taken]
    simp only [fillFrom]
    rw [← hstep, show n + 2 * (left + 1) = n + 2 + 2 * left by omega]
    split
    · next hfull => exact (taken_full hfull (Nat.le_add_right _ _)).symm
    · exact ih (idx + 3) (by omega)

theorem fillBuffers_taken {stream : Nat → Fin 256} {n : Nat} (hfull : 256 ≤ (taken stream n).filled)
    (fuel block : Nat) (hfuel : n ≤ 256 * (block + fuel)) :
    fillBuffers stream fuel block (taken stream (256 * block)) = some (taken stream n).coeffs := by
  induction fuel generalizing block with
  | zero =>
    have hsame := taken_full hfull (show n ≤ 256 * block by omega)
    rw [fillBuffers, hsame, if_neg (by omega)]
  | succ fuel ih =>
    rw [fillBuffers]
    split
    · have hbuffer : fillFrom (fun i => stream (384 * block + i)) 128 0 (taken stream (256 * block)) =
          taken stream (256 * (block + 1)) :=
        fillFrom_taken (fun _ => rfl) 128 0 (by omega)
      rw [hbuffer]
      exact ih (block + 1) (by omega)
    · next hlt =>
        have hdone : 256 ≤ (taken stream (256 * block)).filled := by omega
        obtain hle | hle := Nat.le_total n (256 * block)
        · rw [taken_full hfull hle]
        · rw [taken_full hdone hle]

/-- The masked writes fill the polynomial of the plain sampler. -/
theorem generatePoly_samples (stream : Nat → Fin 256) (n : Nat)
    (h : 256 ≤ (accepted stream n).length) :
    (∀ fuel, n ≤ 256 * fuel → ∃ p, generatePoly stream fuel = some p ∧
      ∀ i : Fin 256, ∃ t, (accepted stream n)[i.val]? = some t ∧
        p.get i ≡ t * 2 ^ 16 [ZMOD Q] ∧ 0 ≤ p.get i ∧ p.get i < Q) ∧
    ∀ m m', 256 ≤ (taken stream m).filled → m ≤ m' → taken stream m' = taken stream m := by
  have hfilled := taken_filled stream n
  have hcount := hfilled.count
  have hfull : 256 ≤ (taken stream n).filled := by omega
  refine ⟨fun fuel hfuel => ⟨_, fillBuffers_taken hfull fuel 0 (by omega), fun i => ?_⟩,
    fun m m' => taken_full⟩
  obtain ⟨t, hget, ht, hval⟩ := hfilled.slots i (by omega)
  obtain ⟨hrange, hcast⟩ := toMontgomery_spec ht
  rw [coeff_val] at hval
  refine ⟨t, hget, ?_, hval ▸ hrange⟩
  rw [hval]
  refine (ZMod.intCast_eq_intCast_iff _ _ 3329).mp ?_
  rw [hcast]
  push_cast
  rfl

theorem generatePoly_samples_zeros :
    256 ≤ (accepted (fun _ => 0) 256).length ∧
      (∃ p, generatePoly (fun _ => 0) 1 = some p ∧ ∀ i : Fin 256, ∃ t,
        (accepted (fun _ => 0) 256)[i.val]? = some t ∧
          p.get i ≡ t * 2 ^ 16 [ZMOD Q] ∧ 0 ≤ p.get i ∧ p.get i < Q) := by
  have hlen : 256 ≤ (accepted (fun _ => 0) 256).length := by decide +kernel
  exact ⟨hlen, (generatePoly_samples _ 256 hlen).1 1 (by decide)⟩

end CityG.RlweCore
