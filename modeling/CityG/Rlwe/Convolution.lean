import CityG.Rlwe.Components
import Mathlib.Algebra.Polynomial.Expand
import Mathlib.RingTheory.AdjoinRoot

/-!
# Products through the transform

The transform stops at blocks of two: it takes the coefficients at even and at odd positions,
each a polynomial of degree below 128, to their values at the roots of `Y ^ 128 + 1`. Products
of single entries therefore multiply the two halves apart.
-/

namespace CityG.RlweCore

open Polynomial

section EvenOdd
variable {R : Type*} [CommRing R]

theorem contract_two_X : contract 2 (X : R[X]) = 0 := by
  ext n
  rw [coeff_contract two_ne_zero, coeff_X, if_neg (by omega), coeff_zero]

theorem expand_two_dvd_iff {m : R[X]} (hm : IsCoprime m X) (u v : R[X]) :
    expand R 2 m ∣ expand R 2 u + X * expand R 2 v ↔ m ∣ u ∧ m ∣ v := by
  constructor
  · rintro ⟨w, hw⟩
    have heven : u = contract 2 w * m := by
      rw [← contract_mul_expand two_ne_zero, mul_comm, ← hw, contract_add two_ne_zero,
        contract_expand 2 two_ne_zero, contract_mul_expand two_ne_zero, contract_two_X, zero_mul,
        add_zero]
    have hodd : X * v = contract 2 (X * w) * m := by
      have hshift : X * w * expand R 2 m = X * expand R 2 u + expand R 2 (X * v) := by
        rw [map_mul, expand_X]
        linear_combination -X * hw
      rw [← contract_mul_expand two_ne_zero, hshift, contract_add two_ne_zero,
        contract_expand 2 two_ne_zero, contract_mul_expand two_ne_zero, contract_two_X, zero_mul,
        zero_add]
    exact ⟨⟨_, heven.trans (mul_comm _ _)⟩,
      hm.dvd_of_dvd_mul_left ⟨_, hodd.trans (mul_comm _ _)⟩⟩
  · rintro ⟨⟨u, rfl⟩, ⟨v, rfl⟩⟩
    refine ⟨expand R 2 u + X * expand R 2 v, ?_⟩
    rw [map_mul, map_mul]
    ring

variable (R) in
noncomputable def negacyclic (n : Nat) : R[X] := X ^ n + 1

theorem negacyclic_coprime {n : Nat} (hn : n ≠ 0) : IsCoprime (negacyclic R n) X := by
  obtain ⟨n, rfl⟩ := Nat.exists_eq_add_one_of_ne_zero hn
  exact ⟨1, -X ^ n, by rw [negacyclic]; ring⟩

theorem negacyclic_monic {n : Nat} (hn : n ≠ 0) : (negacyclic R n).Monic := by
  rw [negacyclic, ← C_1]
  exact monic_X_pow_add_C 1 hn

theorem negacyclic_natDegree [Nontrivial R] (n : Nat) : (negacyclic R n).natDegree = n := by
  rw [negacyclic, ← C_1]
  exact natDegree_X_pow_add_C

theorem expand_negacyclic (n : Nat) : expand R 2 (negacyclic R n) = negacyclic R (2 * n) := by
  rw [negacyclic, negacyclic, map_add, map_pow, map_one, expand_X, ← pow_mul]

theorem eval_negacyclic {x : R} {n : Nat} (hx : x ^ n = -1) : (negacyclic R n).eval x = 0 := by
  rw [negacyclic, eval_add, eval_pow, eval_X, eval_one, hx, neg_add_cancel]

theorem eval_modByMonic_negacyclic {x : R} {n : Nat} (hx : x ^ n = -1) (p : R[X]) :
    (p %ₘ negacyclic R n).eval x = p.eval x := by
  conv_rhs => rw [← modByMonic_add_div p (negacyclic R n)]
  rw [eval_add, eval_mul, eval_negacyclic hx, zero_mul, add_zero]

theorem negacyclic_dvd_sub_modByMonic (n : Nat) (p : R[X]) :
    negacyclic R n ∣ p - p %ₘ negacyclic R n := by
  rw [modByMonic_eq_sub_mul_div, sub_sub_cancel]
  exact dvd_mul_right _ _

theorem dvd_sub_congr {m p r : R[X]} (h : m ∣ p - r) (q : R[X]) : m ∣ r - q ↔ m ∣ p - q := by
  rw [← sub_add_sub_cancel p r q]
  exact (dvd_add_right h).symm

theorem halves_dvd_iff {m : R[X]} (hm : IsCoprime m X) (p w s : R[X]) :
    m ∣ p - C 1 * (p + X * w) ∧ m ∣ w - C 1 * s ↔ m ∣ w ∧ m ∣ s := by
  have hfirst : p - C 1 * (p + X * w) = -(X * w) := by
    rw [C_1]
    ring
  rw [hfirst, C_1, one_mul, dvd_neg]
  constructor
  · rintro ⟨hX, hs⟩
    have hw := hm.dvd_of_dvd_mul_left hX
    exact ⟨hw, (dvd_sub_right hw).mp hs⟩
  · rintro ⟨hw, hs⟩
    exact ⟨hw.mul_left X, dvd_sub hw hs⟩

theorem negacyclic_dvd_C [Nontrivial R] {n : Nat} (hn : n ≠ 0) {r : R}
    (h : negacyclic R n ∣ C r) : r = 0 := by
  by_contra hr
  refine (negacyclic_monic hn).not_dvd_of_natDegree_lt (C_ne_zero.mpr hr) ?_ h
  rw [natDegree_C, negacyclic_natDegree]
  exact Nat.pos_of_ne_zero hn

end EvenOdd

noncomputable def part (len j : Nat) (a : Coeffs) : Fq[X] :=
  ∑ i ∈ Finset.range (256 / len), monomial i (coeff a (i * len + j) : Fq)

theorem part_split {len : Nat} (hlen : 256 / len = 2 * (256 / (2 * len))) (j : Nat) (a : Coeffs) :
    part len j a = expand Fq 2 (part (2 * len) j a) + X * expand Fq 2 (part (2 * len) (j + len) a) := by
  have hsum : ∀ (f : Nat → Fq[X]) m,
      ∑ i ∈ Finset.range (2 * m), f i = ∑ i ∈ Finset.range m, (f (2 * i) + f (2 * i + 1)) := by
    intro f m
    induction m with
    | zero => rfl
    | succ m ih =>
      rw [Nat.mul_succ, Finset.sum_range_succ, Finset.sum_range_succ, Finset.sum_range_succ, ih,
        add_assoc]
  simp only [part]
  rw [hlen, hsum, map_sum, map_sum, Finset.mul_sum, ← Finset.sum_add_distrib]
  refine Finset.sum_congr rfl fun i _ => ?_
  rw [expand_monomial, expand_monomial, X_mul_monomial, Nat.mul_comm i 2,
    show 2 * i * len + j = i * (2 * len) + j by ring,
    show (2 * i + 1) * len + j = i * (2 * len) + (j + len) by ring]

/-- The points of a layer: the roots of the block `k` are the square roots of that of `k / 2`. -/
def root (k : Nat) : Fq :=
  if k % 2 = 0 then zetaAt (k / 2) * 169 else -(zetaAt (k / 2) * 169)

theorem root_even (k : Nat) : root (2 * k) = zetaAt k * 169 := by
  rw [root, if_pos (by omega), Nat.mul_div_cancel_left k two_pos]

theorem root_odd (k : Nat) : root (2 * k + 1) = -(zetaAt k * 169) := by
  rw [root, if_neg (by omega), show (2 * k + 1) / 2 = k by omega]

theorem zeta_sq {k : Nat} (hpos : 0 < k) (hk : k < 128) : (zetaAt k * 169 : Fq) ^ 2 = root k := by
  have hall : ∀ k < 128, 0 < k → (zetaAt k * 169 : Fq) ^ 2 = root k := by decide +kernel
  exact hall k hk hpos

theorem root_pow {b : Nat} (hb : b < 128) : root (128 + b) ^ 128 = -1 := by
  have hall : ∀ b < 128, root (128 + b) ^ 128 = -1 := by decide +kernel
  exact hall b hb

def Evaluates (len : Nat) (x a : Coeffs) : Prop :=
  ∀ b < 256 / len, ∀ j < len,
    (coeff x (b * len + j) : Fq) = (part len j a).eval (root (256 / len + b))

section Layers
variable {a x : Coeffs} {len : Nat} {bound : Int}

theorem evaluates_self (a : Coeffs) : Evaluates 256 a a := by
  intro b hb j _
  have hzero : b = 0 := by omega
  subst hzero
  simp [part]

theorem Evaluates.forward (hlen : len ∈ lens) (hx : Bounded bound x) (hbound : bound ≤ 7 * 3328)
    (h : Evaluates (2 * len) x a) : Evaluates len (forward x len).val a := by
  have hdiv : 256 / len = 2 * (256 / (2 * len)) ∧ 128 / len = 256 / (2 * len) ∧
      0 < 256 / (2 * len) ∧ 256 / (2 * len) ≤ 64 ∧ 0 < len ∧ 256 / (2 * len) * (2 * len) = 256 := by
    simp only [lens, List.mem_cons, List.not_mem_nil, or_false] at hlen
    rcases hlen with rfl | rfl | rfl | rfl | rfl | rfl | rfl <;> decide
  obtain ⟨hhalf, hzeta, hpos, hle, hlenpos, hfull⟩ := hdiv
  intro b hb j hj
  have hB : b / 2 < 256 / (2 * len) := by omega
  have hlow : Low len (b / 2 * (2 * len) + j) := by
    have hblocks : (b / 2 + 1) * (2 * len) ≤ 256 := hfull ▸ Nat.mul_le_mul_right _ hB
    rw [Nat.succ_mul] at hblocks
    refine ⟨by omega, ?_⟩
    rw [Nat.mul_comm, Nat.mul_add_mod, Nat.mod_eq_of_lt (by omega)]
    exact hj
  have hblock : (b / 2 * (2 * len) + j) / (2 * len) = b / 2 := by
    rw [Nat.add_comm, Nat.add_mul_div_right _ _ (by omega), Nat.div_eq_of_lt (by omega), Nat.zero_add]
  obtain ⟨t, -, hcast, hlo, hhi⟩ := (forward_spec hlen hx hbound).2 _ hlow
  have hfirst := h (b / 2) hB j (by omega)
  have hsecond := h (b / 2) hB (j + len) (by omega)
  rw [hblock, hzeta, Nat.add_assoc, hsecond] at hcast
  have hsq := zeta_sq (Nat.add_pos_left hpos (b / 2)) (by omega)
  rw [part_split hhalf, eval_add, eval_mul, eval_X, expand_eval, expand_eval, hhalf]
  obtain hb | hb := Nat.mod_two_eq_zero_or_one b
  · have hindex : b * len + j = b / 2 * (2 * len) + j := by
      rw [← Nat.mul_assoc, Nat.div_mul_cancel (Nat.dvd_of_mod_eq_zero hb)]
    have hroot : 2 * (256 / (2 * len)) + b = 2 * (256 / (2 * len) + b / 2) := by omega
    rw [hindex, hlo, hroot, root_even, hsq, Int.cast_add, hfirst, hcast]
    ring
  · have hindex : b * len + j = b / 2 * (2 * len) + j + len := by
      have hodd : b = b / 2 * 2 + 1 := by omega
      conv_lhs => rw [hodd]
      ring
    have hroot : 2 * (256 / (2 * len)) + b = 2 * (256 / (2 * len) + b / 2) + 1 := by omega
    rw [hindex, hhi, hroot, root_odd, neg_sq, hsq, Int.cast_sub, hfirst, hcast]
    ring

theorem evaluates_run {l : List Nat} (hl : ∀ len ∈ l, len ∈ lens)
    (hchain : (len :: l).IsChain fun m n => m = 2 * n) (hx : Bounded bound x)
    (hbound : bound + 3328 * l.length ≤ 8 * 3328) (h : Evaluates len x a) :
    Evaluates ((len :: l).getLast (List.cons_ne_nil _ _)) (l.foldlM RlweCore.forward x).val a := by
  induction l generalizing len x bound with
  | nil => exact h
  | cons next l ih =>
    rw [List.length_cons, Nat.cast_add_one] at hbound
    obtain ⟨rfl, hrest⟩ := List.isChain_cons_cons.mp hchain
    have hnext := hl next List.mem_cons_self
    rw [List.getLast_cons (List.cons_ne_nil _ _), List.foldlM_cons, Traced.val_bind]
    exact ih (fun len h => hl len (List.mem_cons_of_mem _ h)) hrest
      (forward_bounded hnext hx (by omega)) (by omega) (h.forward hnext hx (by omega))

theorem ntt_evaluates (ha : Bounded 3328 a) : Evaluates 2 (ntt a).val a := by
  rw [ntt_eq]
  exact evaluates_run (fun _ h => h) (by decide) ha (by decide) (evaluates_self a)

end Layers

instance : Nontrivial Fq := ⟨0, 1, by decide⟩

noncomputable def ofParts (p : Nat → Fq[X]) : Coeffs :=
  Vector.ofFn fun i => (((p (i % 2)).coeff (i / 2)).val : Int)

theorem coeff_ofParts (p : Nat → Fq[X]) {i : Nat} (hi : i < 256) :
    coeff (ofParts p) i = ((p (i % 2)).coeff (i / 2)).val := by
  have hget : coeff (ofParts p) i = _ := Vector.getElem_ofFn (Fin.ofNat 256 i).isLt
  rw [hget]
  simp only [Fin.val_ofNat, Nat.mod_eq_of_lt hi]

theorem bounded_ofParts (p : Nat → Fq[X]) : Bounded 3328 (ofParts p) := by
  intro i hi
  have hlt := ZMod.val_lt ((p (i % 2)).coeff (i / 2))
  rw [coeff_ofParts p hi, Nat.abs_cast]
  omega

theorem part_ofParts {p : Nat → Fq[X]} {j : Nat} (hj : j < 2) (hdeg : (p j).natDegree < 128) :
    part 2 j (ofParts p) = p j := by
  conv_rhs => rw [(p j).as_sum_range' 128 hdeg]
  refine Finset.sum_congr rfl fun i hi => ?_
  have hlt := Finset.mem_range.mp hi
  rw [coeff_ofParts p (by omega), show (i * 2 + j) % 2 = j by omega,
    show (i * 2 + j) / 2 = i by omega, Int.cast_natCast, ZMod.natCast_zmod_val]

def nttProduct (a b : Coeffs) : Checked Coeffs := do
  let aNtt ← ntt a
  let bNtt ← ntt b
  let prod ← pointwiseMul aNtt bNtt
  invNtt prod

theorem nttProduct_val (a b : Coeffs) :
    (nttProduct a b).val = (invNtt (pointwiseMul (ntt a).val (ntt b).val).val).val := by
  rw [nttProduct, Traced.val_bind, Traced.val_bind, Traced.val_bind]

section Product
variable {a b : Coeffs}

noncomputable def halfProducts (a b : Coeffs) (j : Nat) : Fq[X] :=
  (part 2 j a * part 2 j b) %ₘ negacyclic Fq 128

theorem halfProducts_natDegree (a b : Coeffs) (j : Nat) : (halfProducts a b j).natDegree < 128 := by
  have hdeg := natDegree_modByMonic_lt (part 2 j a * part 2 j b)
    (negacyclic_monic (by decide : 128 ≠ 0)) (fun h => by
      have hone := congrArg natDegree h
      rw [negacyclic_natDegree, natDegree_one] at hone
      exact absurd hone (by decide))
  rwa [negacyclic_natDegree] at hdeg

theorem part_nttProduct (ha : Bounded 3328 a) (hb : Bounded 3328 b) {j : Nat} (hj : j < 2) :
    part 2 j (nttProduct a b).val = halfProducts a b j := by
  have hwide : Bounded 26624 (ntt a).val := (ntt_spec ha (Int.le_refl _)).2
  have hwide' : Bounded 26624 (ntt b).val := (ntt_spec hb (Int.le_refl _)).2
  have hsmall : Bounded 10817 (pointwiseMul (ntt a).val (ntt b).val).val :=
    (pointwiseMul_spec hwide hwide' (by decide) (by decide) (by decide)).2
  have hnear : NearPairs 2 (pointwiseMul (ntt a).val (ntt b).val).val := fun i hi =>
    .of_bound (by decide) (hsmall i hi.1) (hsmall _ (hi.add_lt (by decide)))
  have hscaled : Scaled 169 (pointwiseMul (ntt a).val (ntt b).val).val
      (ntt (ofParts (halfProducts a b))).val := by
    intro i hi
    have hindex : i = i / 2 * 2 + i % 2 := by omega
    have hhalf : i % 2 < 2 := Nat.mod_lt i two_pos
    have hblock : i / 2 < 256 / 2 := by omega
    rw [coeff_pointwiseMul, (fqmul_of_bounded hwide hwide' (c := 10817) (by decide) (by decide)
      (by decide) hi).2.2, hindex, ntt_evaluates ha _ hblock _ hhalf,
      ntt_evaluates hb _ hblock _ hhalf,
      ntt_evaluates (bounded_ofParts _) _ hblock _ hhalf,
      part_ofParts hhalf (halfProducts_natDegree a b _), halfProducts,
      eval_modByMonic_negacyclic (root_pow hblock), eval_mul]
    ring
  have hconst : (169 * 2 ^ 16 : Fq) = 1 := by decide
  rw [← part_ofParts hj (halfProducts_natDegree a b j), nttProduct_val]
  refine Finset.sum_congr rfl fun i _ => ?_
  have hget := invNtt_scaled (bounded_ofParts _) hnear hscaled (Fin.ofNat 256 (i * 2 + j))
  rw [hconst, one_mul] at hget
  exact congrArg (monomial i) hget

noncomputable def poly (a : Coeffs) : Fq[X] := part 1 0 a

theorem poly_eq (a : Coeffs) :
    poly a = expand Fq 2 (part 2 0 a) + X * expand Fq 2 (part 2 1 a) := part_split (by decide) 0 a

def Agrees (c : Fq) (a b : Coeffs) : Prop :=
  AdjoinRoot.mk (negacyclic Fq 256) (poly (nttProduct a b).val) =
    AdjoinRoot.mk (negacyclic Fq 256) (C c * (poly a * poly b))

theorem agrees_iff (ha : Bounded 3328 a) (hb : Bounded 3328 b) (c : Fq) :
    Agrees c a b ↔
      negacyclic Fq 128 ∣ part 2 0 a * part 2 0 b -
        C c * (part 2 0 a * part 2 0 b + X * (part 2 1 a * part 2 1 b)) ∧
      negacyclic Fq 128 ∣ part 2 1 a * part 2 1 b -
        C c * (part 2 0 a * part 2 1 b + part 2 1 a * part 2 0 b) := by
  have hreduced : ∀ j, negacyclic Fq 128 ∣ part 2 j a * part 2 j b - halfProducts a b j :=
    fun j => negacyclic_dvd_sub_modByMonic 128 (part 2 j a * part 2 j b)
  have hdiff : poly (nttProduct a b).val - C c * (poly a * poly b) =
      expand Fq 2 (halfProducts a b 0 -
        C c * (part 2 0 a * part 2 0 b + X * (part 2 1 a * part 2 1 b))) +
      X * expand Fq 2 (halfProducts a b 1 -
        C c * (part 2 0 a * part 2 1 b + part 2 1 a * part 2 0 b)) := by
    rw [poly_eq, poly_eq, poly_eq, part_nttProduct ha hb two_pos, part_nttProduct ha hb one_lt_two]
    simp only [map_sub, map_add, map_mul, expand_C, expand_X]
    ring
  have hmodulus : negacyclic Fq 256 = expand Fq 2 (negacyclic Fq 128) := (expand_negacyclic 128).symm
  have hcoprime : IsCoprime (negacyclic Fq 128) X := negacyclic_coprime (by decide)
  rw [Agrees, AdjoinRoot.mk_eq_mk, hdiff, hmodulus, expand_two_dvd_iff hcoprime]
  exact and_congr (dvd_sub_congr (hreduced 0) _) (dvd_sub_congr (hreduced 1) _)

end Product

def unit (k : Nat) : Coeffs := sparse [(k, 1)]

theorem part_unit {k j : Nat} (hk : k < 2) (hj : j < 2) : part 2 j (unit k) = if j = k then 1 else 0 := by
  have hcoeff : ∀ i < 128, coeff (unit k) (i * 2 + j) = if i = 0 ∧ j = k then 1 else 0 := by
    intro i hi
    have hindex : (i * 2 + j) % 256 = i * 2 + j := Nat.mod_eq_of_lt (by omega)
    simp only [unit, coeff_sparse, hindex, List.lookup_cons, List.lookup_nil]
    by_cases heq : i * 2 + j = k
    · rw [beq_iff_eq.mpr heq, if_pos (by omega), Option.getD_some]
    · rw [beq_eq_false_iff_ne.mpr heq, if_neg (by omega), Option.getD_none]
  rw [part, Finset.sum_eq_single_of_mem 0 (Finset.mem_range.mpr (by decide))]
  · rw [hcoeff 0 (by decide)]
    simp
  · intro i hi hne
    rw [hcoeff i (Finset.mem_range.mp hi), if_neg (fun h => hne h.1), Int.cast_zero, map_zero]

theorem bounded_unit (k : Nat) : Bounded 3328 (unit k) := by
  have hone : ∀ e ∈ [(k, (1 : Int))], |e.2| ≤ 3328 := by
    intro e he
    rw [List.mem_singleton.mp he]
    exact (by decide : |(1 : Int)| ≤ 3328)
  exact bounded_of_get fun i => sparse_forall (p := fun x => |x| ≤ 3328) (by decide) hone i

theorem agrees_one_iff (c : Fq) : Agrees c (unit 0) (unit 0) ↔ c = 1 := by
  rw [agrees_iff (bounded_unit 0) (bounded_unit 0), part_unit two_pos two_pos,
    part_unit two_pos one_lt_two, if_pos rfl, if_neg one_ne_zero]
  constructor
  · rintro ⟨h, -⟩
    have hC : (1 * 1 - C c * (1 * 1 + X * (0 * 0)) : Fq[X]) = C (1 - c) := by
      rw [C_sub, C_1]
      ring
    rw [hC] at h
    exact (sub_eq_zero.mp (negacyclic_dvd_C (by decide) h)).symm
  · rintro rfl
    constructor <;> simp

/-- The products agree when the odd halves do not meet and the mixed products cancel. -/
theorem nttProduct_agrees_iff (a b : Coeffs) (ha : ∀ i, 0 ≤ a.get i ∧ a.get i < Q)
    (hb : ∀ i, 0 ≤ b.get i ∧ b.get i < Q) :
    (∃ c, c ≠ 0 ∧ Agrees c (unit 0) (unit 0) ∧ Agrees c a b) ↔
      negacyclic Fq 128 ∣ part 2 1 a * part 2 1 b ∧
      negacyclic Fq 128 ∣ part 2 0 a * part 2 1 b + part 2 1 a * part 2 0 b := by
  have hbound : ∀ x : Coeffs, (∀ i, 0 ≤ x.get i ∧ x.get i < Q) → Bounded 3328 x := by
    intro x hx
    refine bounded_of_get fun i => ?_
    obtain ⟨hlo, hhi⟩ := hx i
    simp only [Q] at hhi
    exact abs_le.mpr (by omega)
  have hcoprime : IsCoprime (negacyclic Fq 128) X := negacyclic_coprime (by decide)
  have hone := agrees_iff (hbound a ha) (hbound b hb) 1
  rw [halves_dvd_iff hcoprime] at hone
  rw [← hone]
  constructor
  · rintro ⟨c, -, hunit, hagrees⟩
    rwa [(agrees_one_iff c).mp hunit] at hagrees
  · intro h
    exact ⟨1, one_ne_zero, (agrees_one_iff 1).mpr rfl, h⟩

theorem nttProduct_agrees_iff_one :
    (∃ c, c ≠ 0 ∧ Agrees c (unit 0) (unit 0) ∧ Agrees c (unit 0) (unit 0)) ↔
      negacyclic Fq 128 ∣ part 2 1 (unit 0) * part 2 1 (unit 0) ∧
      negacyclic Fq 128 ∣ part 2 0 (unit 0) * part 2 1 (unit 0) +
        part 2 1 (unit 0) * part 2 0 (unit 0) := by
  have hrange : ∀ i, 0 ≤ (unit 0).get i ∧ (unit 0).get i < Q :=
    fun i => sparse_forall (p := fun x => 0 ≤ x ∧ x < Q) (by decide) (by decide) i
  exact nttProduct_agrees_iff (unit 0) (unit 0) hrange hrange

/-- The square of `X` comes out as `X`. -/
theorem nttProduct_X : ¬ ∃ c, c ≠ 0 ∧ Agrees c (unit 1) (unit 1) := by
  rintro ⟨c, -, h⟩
  rw [agrees_iff (bounded_unit 1) (bounded_unit 1), part_unit one_lt_two two_pos,
    part_unit one_lt_two one_lt_two, if_pos rfl, if_neg zero_ne_one] at h
  have hC : (1 * 1 - C c * (0 * 1 + 1 * 0) : Fq[X]) = C 1 := by
    rw [C_1]
    ring
  exact one_ne_zero (negacyclic_dvd_C (by decide) (hC ▸ h.2))

end CityG.RlweCore
