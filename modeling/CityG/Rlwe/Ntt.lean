import CityG.Lib.BitPack
import CityG.Rlwe.Arithmetic
import Mathlib.Tactic.LinearCombination

/-!
# The number-theoretic transform

Seven layers of butterflies in each direction, down to blocks of two coefficients. The
inverse runs through the same pairs with the table of powers read backwards.
-/

namespace CityG.RlweCore

abbrev Coeffs := Vector Int 256

abbrev Butterfly := PairOp Int 256

def F_INV_NTT : Int := 1441

def ZETAS_FWD : List Int :=
  [-1044, -758, -359, -1517, 1493, 1422, 287, 202, -171, 622, 1577, 182, 962, -1202, -1474, 1468,
    573, -1325, 264, 383, -829, 1458, -1602, -130, -681, 1017, 732, 608, -1542, 411, -205, -1571,
    1223, 652, -552, 1015, -1293, 1491, -282, -1544, 516, -8, -320, -666, -1618, -1162, 126, 1469,
    -853, -90, -271, 830, 107, -1421, -247, -951, -398, 961, -1508, -725, 448, -1065, 677, -1275,
    -1103, 430, 555, 843, -1251, 871, 1550, 105, 422, 587, 177, -235, -291, -460, 1574, 1653, -246,
    778, 1159, -147, -777, 1483, -602, 1119, -1590, 644, -872, 349, 418, 329, -156, -75, 817, 1097,
    603, 610, 1322, -1285, -1465, 384, -1215, -136, 1218, -1335, -874, 220, -1187, -1659, -1185,
    -1530, -1278, 794, -1510, -854, -870, 478, -108, -308, 996, 991, 958, -1460, 1522, 1628]

def zetaAt (k : Nat) : Int := ZETAS_FWD.getD k 0

def layer (zeta : Nat → Int) (len : Nat) : List Butterfly :=
  (List.range (128 / len)).flatMap fun block =>
    (List.range len).map fun i =>
      ⟨zeta block, Fin.ofNat 256 (2 * len * block + i), Fin.ofNat 256 (2 * len * block + i + len)⟩

def nttPair (zeta tmp next : Int) : Checked (Int × Int) := do
  let t ← fqmul zeta next
  let sum := tmp + t
  let diff := tmp - t
  debugAssertAbs sum (Q * 8)
  debugAssertAbs diff (Q * 8)
  let hi ← asI16 diff
  let lo ← asI16 sum
  pure (lo, hi)

def invNttPair (zeta t next : Int) : Checked (Int × Int) := do
  let sum := t + next
  let diff := next - t
  debugAssertAbs sum (Q * 8)
  debugAssertAbs diff (Q * 8)
  let lo ← barrettReduce sum
  let diff16 ← asI16 diff
  let hi ← fqmul zeta diff16
  pure (lo, hi)

def nttLayers : List Nat → Nat → Coeffs → Checked Coeffs
  | [], _, a => pure a
  | len :: rest, k, a => do
    let a ← PairOp.pass nttPair (layer (fun block => zetaAt (k + block)) len) a
    nttLayers rest (k + 128 / len) a

def ntt (a : Coeffs) : Checked Coeffs := nttLayers [128, 64, 32, 16, 8, 4, 2] 1 a

def invNttLayers : List Nat → Nat → Coeffs → Checked Coeffs
  | [], _, a => pure a
  | len :: rest, k, a => do
    let a ← PairOp.pass invNttPair (layer (fun block => zetaAt (k - block)) len) a
    invNttLayers rest (k - 128 / len) a

def invNtt (a : Coeffs) : Checked Coeffs := do
  let a ← invNttLayers [2, 4, 8, 16, 32, 64, 128] 127 a
  Traced.ofFn fun i => fqmul (a.get i) F_INV_NTT

def coeff (a : Coeffs) (i : Nat) : Int := a.get (Fin.ofNat 256 i)

theorem coeff_val (a : Coeffs) (i : Fin 256) : coeff a i.val = a.get i := by
  rw [coeff, Fin.ofNat_eq_cast, Fin.cast_val_eq_self]

def lens : List Nat := [128, 64, 32, 16, 8, 4, 2]

def Low (len i : Nat) : Prop := i < 256 ∧ i % (2 * len) < len

section Layers
variable {zeta : Nat → Int} {len : Nat}

theorem position_inj (hlen : len ∈ lens) {b b' i i' : Nat} (hb : b < 128 / len)
    (hb' : b' < 128 / len) (hi : i < 2 * len) (hi' : i' < 2 * len)
    (h : Fin.ofNat 256 (2 * len * b + i) = Fin.ofNat 256 (2 * len * b' + i')) :
    b = b' ∧ i = i' := by
  have hval := congrArg Fin.val h
  simp only [Fin.val_ofNat] at hval
  simp only [lens, List.mem_cons, List.not_mem_nil, or_false] at hlen
  rcases hlen with rfl | rfl | rfl | rfl | rfl | rfl | rfl <;> omega

theorem layer_nodup (hlen : len ∈ lens) : (PairOp.footprint (layer zeta len)).Nodup := by
  have hmem : ∀ {b p}, p ∈ PairOp.footprint ((List.range len).map fun i =>
      (⟨zeta b, Fin.ofNat 256 (2 * len * b + i), Fin.ofNat 256 (2 * len * b + i + len)⟩ :
        Butterfly)) → ∃ i < 2 * len, p = Fin.ofNat 256 (2 * len * b + i) := by
    intro b p hp
    simp only [PairOp.footprint, List.flatMap_map, List.mem_flatMap, List.mem_range,
      List.mem_cons, List.not_mem_nil, or_false] at hp
    obtain ⟨i, hi, rfl | rfl⟩ := hp
    · exact ⟨i, by omega, rfl⟩
    · exact ⟨i + len, by omega, by rw [Nat.add_assoc]⟩
  rw [PairOp.footprint, layer, List.flatMap_assoc, List.nodup_flatMap]
  constructor
  · intro b hb
    rw [List.mem_range] at hb
    rw [List.flatMap_map, List.nodup_flatMap]
    constructor
    · intro i hi
      rw [List.mem_range] at hi
      refine List.nodup_cons.mpr ⟨?_, List.nodup_singleton _⟩
      rw [List.mem_singleton, Nat.add_assoc]
      intro h
      have := (position_inj hlen hb hb (by omega) (by omega) h).2
      omega
    · refine List.pairwise_lt_range.imp_of_mem fun {i i'} hi hi' hlt => ?_
      rw [List.mem_range] at hi hi'
      simp only [Function.onFun, List.disjoint_iff_ne, List.mem_cons, List.not_mem_nil, or_false]
      rintro p (rfl | rfl) p' (rfl | rfl) h
      all_goals
        try rw [Nat.add_assoc _ _ len] at h
        try rw [Nat.add_assoc _ i' len] at h
        have := (position_inj hlen hb hb (by omega) (by omega) h).2
        omega
  · refine List.pairwise_lt_range.imp_of_mem fun {b b'} hb hb' hlt => ?_
    rw [List.mem_range] at hb hb'
    refine List.disjoint_iff_ne.mpr fun p hp p' hp' h => ?_
    obtain ⟨i, hi, rfl⟩ := hmem hp
    obtain ⟨i', hi', rfl⟩ := hmem hp'
    have := (position_inj hlen hb hb' hi hi' h).1
    omega

theorem Low.mem_layer {i : Nat} (hlen : len ∈ lens) (hi : Low len i) :
    ⟨zeta (i / (2 * len)), Fin.ofNat 256 i, Fin.ofNat 256 (i + len)⟩ ∈ layer zeta len := by
  obtain ⟨hlt, hlow⟩ := hi
  refine List.mem_flatMap.mpr ⟨i / (2 * len), ?_, List.mem_map.mpr ⟨i % (2 * len), ?_, ?_⟩⟩
  · simp only [lens, List.mem_cons, List.not_mem_nil, or_false] at hlen
    rw [List.mem_range]
    rcases hlen with rfl | rfl | rfl | rfl | rfl | rfl | rfl <;> omega
  · exact List.mem_range.mpr hlow
  · rw [Nat.div_add_mod]

theorem mem_layer {o : Butterfly} (hlen : len ∈ lens) (ho : o ∈ layer zeta len) :
    ∃ i, Low len i ∧ o = ⟨zeta (i / (2 * len)), Fin.ofNat 256 i, Fin.ofNat 256 (i + len)⟩ := by
  obtain ⟨block, hblock, ho⟩ := List.mem_flatMap.mp ho
  obtain ⟨i, hi, rfl⟩ := List.mem_map.mp ho
  rw [List.mem_range] at hblock hi
  have hdiv : (2 * len * block + i) / (2 * len) = block := by
    rw [Nat.mul_add_div (by omega), Nat.div_eq_of_lt (by omega), Nat.add_zero]
  refine ⟨2 * len * block + i, ⟨?_, ?_⟩, by rw [hdiv]⟩
  · simp only [lens, List.mem_cons, List.not_mem_nil, or_false] at hlen
    rcases hlen with rfl | rfl | rfl | rfl | rfl | rfl | rfl <;> omega
  · rw [Nat.mul_add_mod, Nat.mod_eq_of_lt (by omega)]
    exact hi

theorem low_or_high (hlen : len ∈ lens) {j : Nat} (hj : j < 256) :
    Low len j ∨ ∃ i, Low len i ∧ j = i + len := by
  unfold Low
  simp only [lens, List.mem_cons, List.not_mem_nil, or_false] at hlen
  by_cases hlow : j % (2 * len) < len
  · exact .inl ⟨hj, hlow⟩
  · refine .inr ⟨j - len, ?_⟩
    rcases hlen with rfl | rfl | rfl | rfl | rfl | rfl | rfl <;> omega

theorem coeff_pass (f : Int → Int → Int → Checked (Int × Int)) (zeta : Nat → Int)
    (hlen : len ∈ lens) (a : Coeffs) {i : Nat} (hi : Low len i) :
    (coeff (PairOp.pass f (layer zeta len) a).val i,
      coeff (PairOp.pass f (layer zeta len) a).val (i + len)) =
      (f (zeta (i / (2 * len))) (coeff a i) (coeff a (i + len))).val :=
  PairOp.get_pass a (layer_nodup hlen) (hi.mem_layer hlen)

theorem all_layer {f : Int → Int → Int → Checked (Int × Int)} {p : Event → Prop}
    (hlen : len ∈ lens) (a : Coeffs) :
    Traced.All p (PairOp.pass f (layer zeta len) a) ↔ ∀ i, Low len i →
      Traced.All p (f (zeta (i / (2 * len))) (coeff a i) (coeff a (i + len))) := by
  rw [PairOp.all_pass a (layer_nodup hlen)]
  constructor
  · exact fun h i hi => h _ (hi.mem_layer hlen)
  · intro h o ho
    obtain ⟨i, hi, rfl⟩ := mem_layer hlen ho
    exact h i hi

end Layers

section Pairs
variable {zeta x y : Int}

theorem zetaAt_abs_le (k : Nat) : |zetaAt k| ≤ 1659 := by
  by_cases hk : k < ZETAS_FWD.length
  · have hall : ∀ z ∈ ZETAS_FWD, |z| ≤ 1659 := by decide +kernel
    rw [zetaAt, List.getD_eq_getElem _ _ hk]
    exact hall _ (List.getElem_mem hk)
  · rw [zetaAt, List.getD_eq_default _ _ (not_lt.mp hk)]
    decide

theorem fqmul_zeta (hz : |zeta| ≤ 1659) (hx : |x| < 2 ^ 15) :
    (fqmul zeta x).All Event.Ok ∧ |(fqmul zeta x).val| ≤ 3328 ∧
      ((fqmul zeta x).val : Fq) = zeta * x * 169 := by
  refine fqmul_spec ?_ (Int.le_refl _) (by decide)
  calc |zeta * x| = |zeta| * |x| := abs_mul zeta x
    _ ≤ 1659 * 2 ^ 15 := mul_le_mul hz hx.le (abs_nonneg x) (by decide)
    _ ≤ 3328 * 2 ^ 16 := by decide

theorem nttPair_spec {bound : Int} (hz : |zeta| ≤ 1659) (hx : |x| ≤ bound) (hy : |y| ≤ bound)
    (hbound : bound ≤ 7 * 3328) :
    (nttPair zeta x y).All Event.Ok ∧ ∃ t : Int, |t| ≤ 3328 ∧ (t : Fq) = zeta * y * 169 ∧
      (nttPair zeta x y).val = (x + t, x - t) := by
  obtain ⟨hok, habs, hcast⟩ := fqmul_zeta hz (show |y| < 2 ^ 15 by omega)
  obtain ⟨hxlo, hxhi⟩ := abs_le.mp hx
  obtain ⟨htlo, hthi⟩ := abs_le.mp habs
  have hsum : (Event.narrow (x + (fqmul zeta y).val)).Ok := by constructor <;> omega
  have hdiff : (Event.narrow (x - (fqmul zeta y).val)).Ok := by constructor <;> omega
  refine ⟨?_, _, habs, hcast, ?_⟩
  · simp only [nttPair, debugAssertAbs, Traced.all_bind, Traced.all_emit, all_asI16,
      Traced.all_pure, and_true]
    refine ⟨hok, ?_, ?_, hdiff, hsum⟩
    · exact abs_le.mpr (by simp only [Q]; omega)
    · exact abs_le.mpr (by simp only [Q]; omega)
  · simp only [nttPair, Traced.val_bind, Traced.val_pure, asI16_val hsum, asI16_val hdiff]

def Near (x y : Int) : Prop := |x + y| ≤ 2 ^ 17 ∧ |y - x| < 2 ^ 15

theorem Near.of_bound {bound : Int} (hbound : bound < 2 ^ 14) (hx : |x| ≤ bound) (hy : |y| ≤ bound) :
    Near x y := by
  obtain ⟨hxlo, hxhi⟩ := abs_le.mp hx
  obtain ⟨hylo, hyhi⟩ := abs_le.mp hy
  exact ⟨abs_le.mpr (by omega), abs_lt.mpr (by omega)⟩

theorem Near.diff_ok (h : Near x y) : (Event.narrow (y - x)).Ok := by
  obtain ⟨hlo, hhi⟩ := abs_lt.mp h.2
  exact ⟨hlo.le, hhi⟩

theorem barrettReduce_spec {a : Int} (h : |a| ≤ 2 ^ 17) :
    (barrettReduce a).All Event.Ok ∧ |(barrettReduce a).val| ≤ 1665 ∧
      ((barrettReduce a).val : Fq) = a := by
  have hrange := barrettWide_range h
  obtain ⟨hlo, hhi⟩ := abs_le.mp hrange
  have hok : (Event.narrow (barrettWide a)).Ok := by constructor <;> omega
  have hval : (barrettReduce a).val = barrettWide a := asI16_val hok
  refine ⟨?_, hval ▸ hrange, by rw [hval, barrettWide_cast]⟩
  simp only [barrettReduce, debugAssertAbs, Traced.all_bind, Traced.all_emit, all_asI16]
  exact ⟨h.trans (by decide), hok⟩

theorem invNttPair_spec (hz : |zeta| ≤ 1659) (h : Near x y) :
    |(invNttPair zeta x y).val.1| ≤ 3328 ∧ |(invNttPair zeta x y).val.2| ≤ 3328 ∧
      ((invNttPair zeta x y).val.1 : Fq) = x + y ∧
      ((invNttPair zeta x y).val.2 : Fq) = zeta * (y - x) * 169 := by
  obtain ⟨-, hlo, hlocast⟩ := barrettReduce_spec h.1
  obtain ⟨-, hhi, hhicast⟩ := fqmul_zeta hz h.2
  simp only [invNttPair, Traced.val_bind, Traced.val_pure, asI16_val h.diff_ok]
  exact ⟨hlo.trans (by decide), hhi, by rw [hlocast, Int.cast_add], by rw [hhicast, Int.cast_sub]⟩

theorem all_invNttPair {p : Event → Prop} (hp : ∀ e, e.Ok → p e) (hz : |zeta| ≤ 1659)
    (h : Near x y) : (invNttPair zeta x y).All p ↔
      p (.bounded (x + y) (Q * 8)) ∧ p (.bounded (y - x) (Q * 8)) := by
  obtain ⟨hbarrett, -⟩ := barrettReduce_spec h.1
  obtain ⟨hmul, -⟩ := fqmul_zeta hz h.2
  have hmul' : (fqmul zeta (asI16 (y - x)).val).All p := by
    rw [asI16_val h.diff_ok]
    exact fun e he => hp e (hmul e he)
  have hbarrett' : (barrettReduce (x + y)).All p := fun e he => hp e (hbarrett e he)
  simp only [invNttPair, debugAssertAbs, Traced.all_bind, Traced.all_emit, all_asI16,
    Traced.all_pure, and_true, hmul', hbarrett', hp _ h.diff_ok]

end Pairs

def forward (a : Coeffs) (len : Nat) : Checked Coeffs :=
  PairOp.pass nttPair (layer (fun block => zetaAt (128 / len + block)) len) a

def backward (a : Coeffs) (len : Nat) : Checked Coeffs :=
  PairOp.pass invNttPair (layer (fun block => zetaAt (256 / len - 1 - block)) len) a

theorem ntt_eq (a : Coeffs) : ntt a = lens.foldlM forward a := rfl

def outerLens : List Nat := [128, 64, 32, 16, 8, 4]

theorem ntt_val (a : Coeffs) : (ntt a).val = (forward (outerLens.foldlM forward a).val 2).val := by
  rw [ntt_eq, Traced.val_foldlM, Traced.val_foldlM]
  rfl

theorem outerLens_subset : ∀ len ∈ outerLens, len ∈ lens := by decide

theorem outerLens_reverse_subset : ∀ len ∈ outerLens.reverse, len ∈ lens := by decide

theorem invNtt_eq (a : Coeffs) : invNtt a = (do
    let a ← lens.reverse.foldlM backward a
    Traced.ofFn fun i => fqmul (a.get i) F_INV_NTT) := rfl

theorem invNtt_get (a : Coeffs) (i : Fin 256) : (invNtt a).val.get i =
    (fqmul ((outerLens.reverse.foldlM backward (backward a 2).val).val.get i) F_INV_NTT).val := by
  have hreverse : lens.reverse = 2 :: outerLens.reverse := rfl
  rw [invNtt_eq, hreverse, Traced.val_bind, Traced.get_ofFn, List.foldlM_cons, Traced.val_bind]

def Bounded (bound : Int) (a : Coeffs) : Prop := ∀ i < 256, |coeff a i| ≤ bound

theorem bounded_of_get {bound : Int} {a : Coeffs} (h : ∀ i, |a.get i| ≤ bound) : Bounded bound a := by
  intro i hi
  have hget := h ⟨i, hi⟩
  rw [← coeff_val] at hget
  exact hget

def NearPairs (len : Nat) (a : Coeffs) : Prop := ∀ i, Low len i → Near (coeff a i) (coeff a (i + len))

def Scaled (k : Fq) (x a : Coeffs) : Prop :=
  ∀ i < 256, (coeff x i : Fq) = k * (coeff a i : Fq)

section Runs
variable {a x : Coeffs} {len : Nat} {bound : Int} {k : Fq}

theorem Low.add_lt {i : Nat} (hlen : len ∈ lens) (hi : Low len i) : i + len < 256 := by
  obtain ⟨hlt, hlow⟩ := hi
  simp only [lens, List.mem_cons, List.not_mem_nil, or_false] at hlen
  rcases hlen with rfl | rfl | rfl | rfl | rfl | rfl | rfl <;> omega

theorem forward_spec (hlen : len ∈ lens) (ha : Bounded bound a) (hbound : bound ≤ 7 * 3328) :
    (forward a len).All Event.Ok ∧ ∀ i, Low len i → ∃ t : Int, |t| ≤ 3328 ∧
      (t : Fq) = zetaAt (128 / len + i / (2 * len)) * coeff a (i + len) * 169 ∧
      coeff (forward a len).val i = coeff a i + t ∧
      coeff (forward a len).val (i + len) = coeff a i - t := by
  have hpair : ∀ i, Low len i → _ := fun i hi =>
    nttPair_spec (zetaAt_abs_le (128 / len + i / (2 * len))) (ha i hi.1) (ha _ (hi.add_lt hlen))
      hbound
  refine ⟨(all_layer hlen a).mpr fun i hi => (hpair i hi).1, fun i hi => ?_⟩
  obtain ⟨-, t, ht, hcast, hval⟩ := hpair i hi
  have hpass := coeff_pass nttPair (fun block => zetaAt (128 / len + block)) hlen a hi
  rw [hval, Prod.mk.injEq] at hpass
  exact ⟨t, ht, hcast, hpass.1, hpass.2⟩

theorem forward_bounded (hlen : len ∈ lens) (ha : Bounded bound a) (hbound : bound ≤ 7 * 3328) :
    Bounded (bound + 3328) (forward a len).val := by
  intro j hj
  have hspec := (forward_spec hlen ha hbound).2
  obtain hlow | ⟨i, hlow, rfl⟩ := low_or_high hlen hj
  · obtain ⟨t, ht, -, hval, -⟩ := hspec j hlow
    rw [hval]
    exact (abs_add_le _ _).trans (add_le_add (ha j hj) ht)
  · obtain ⟨t, ht, -, -, hval⟩ := hspec i hlow
    rw [hval]
    exact (abs_sub _ _).trans (add_le_add (ha i hlow.1) ht)

theorem forward_run {l : List Nat} (hl : ∀ len ∈ l, len ∈ lens) (ha : Bounded bound a)
    (hbound : bound + 3328 * l.length ≤ 8 * 3328) :
    (l.foldlM forward a).All Event.Ok ∧
      Bounded (bound + 3328 * l.length) (l.foldlM forward a).val := by
  induction l generalizing a bound with
  | nil => exact ⟨Traced.all_pure a, by simpa using ha⟩
  | cons len l ih =>
    rw [List.length_cons, Nat.cast_add_one] at hbound ⊢
    have hlen := hl len List.mem_cons_self
    have hstep : bound ≤ 7 * 3328 := by omega
    obtain ⟨hok, hrun⟩ := ih (fun len h => hl len (List.mem_cons_of_mem _ h))
      (forward_bounded hlen ha hstep) (by omega)
    rw [List.foldlM_cons, Traced.all_bind, Traced.val_bind]
    refine ⟨⟨(forward_spec hlen ha hstep).1, hok⟩, ?_⟩
    have hsum : bound + 3328 * (l.length + 1) = bound + 3328 + 3328 * l.length := by omega
    rw [hsum]
    exact hrun

theorem backward_spec (hlen : len ∈ lens) (hx : NearPairs len x) :
    Bounded 3328 (backward x len).val ∧ ∀ i, Low len i →
      (coeff (backward x len).val i : Fq) = coeff x i + coeff x (i + len) ∧
      (coeff (backward x len).val (i + len) : Fq) =
        zetaAt (256 / len - 1 - i / (2 * len)) * (coeff x (i + len) - coeff x i) * 169 := by
  have hpair : ∀ i, Low len i → _ := fun i hi =>
    And.intro (invNttPair_spec (zetaAt_abs_le (256 / len - 1 - i / (2 * len))) (hx i hi))
      (coeff_pass invNttPair (fun block => zetaAt (256 / len - 1 - block)) hlen x hi)
  constructor
  · intro j hj
    obtain hlow | ⟨i, hlow, rfl⟩ := low_or_high hlen hj
    · obtain ⟨⟨habs, -⟩, hpass⟩ := hpair j hlow
      rw [← hpass] at habs
      exact habs
    · obtain ⟨⟨-, habs, -⟩, hpass⟩ := hpair i hlow
      rw [← hpass] at habs
      exact habs
  · intro i hi
    obtain ⟨⟨-, -, hlo, hhi⟩, hpass⟩ := hpair i hi
    rw [← hpass] at hlo hhi
    exact ⟨hlo, hhi⟩

theorem Bounded.nearPairs (hlen : len ∈ lens) (hx : Bounded 3328 x) : NearPairs len x :=
  fun i hi => .of_bound (by decide) (hx i hi.1) (hx _ (hi.add_lt hlen))

theorem backward_bounded {l : List Nat} (hl : ∀ len ∈ l, len ∈ lens) (hx : Bounded 3328 x) :
    (l.foldlM backward x).All Event.Ok ∧ Bounded 3328 (l.foldlM backward x).val := by
  induction l generalizing x with
  | nil => exact ⟨Traced.all_pure x, hx⟩
  | cons len l ih =>
    have hlen := hl len List.mem_cons_self
    have hnear := hx.nearPairs hlen
    have hok : (backward x len).All Event.Ok := by
      refine (all_layer hlen x).mpr fun i hi => ?_
      refine (all_invNttPair (fun _ h => h) (zetaAt_abs_le _) (hnear i hi)).mpr ?_
      obtain ⟨hlo, hhi⟩ := abs_le.mp (hx i hi.1)
      obtain ⟨hlo', hhi'⟩ := abs_le.mp (hx _ (hi.add_lt hlen))
      exact ⟨abs_le.mpr (by simp only [Q]; omega), abs_le.mpr (by simp only [Q]; omega)⟩
    obtain ⟨hrest, hbounded⟩ := ih (fun len h => hl len (List.mem_cons_of_mem _ h))
      (backward_spec hlen hnear).1
    rw [List.foldlM_cons, Traced.all_bind, Traced.val_bind]
    exact ⟨⟨hok, hrest⟩, hbounded⟩

theorem zeta_cancel (hlen : len ∈ lens) {block : Nat} (hblock : block < 128 / len) :
    (zetaAt (128 / len + block) * 169 * (zetaAt (256 / len - 1 - block) * 169) : Fq) = -1 := by
  have hall : ∀ len ∈ lens, ∀ block < 128 / len,
      (zetaAt (128 / len + block) * 169 * (zetaAt (256 / len - 1 - block) * 169) : Fq) = -1 := by
    decide +kernel
  exact hall len hlen block hblock

theorem backward_forward (hlen : len ∈ lens) (ha : Bounded bound a) (hbound : bound ≤ 7 * 3328)
    (hx : NearPairs len x) (h : Scaled k x (forward a len).val) :
    Scaled (k * 2) (backward x len).val a := by
  have hspec := (forward_spec hlen ha hbound).2
  have hback := (backward_spec hlen hx).2
  intro j hj
  obtain hlow | ⟨i, hlow, rfl⟩ := low_or_high hlen hj
  · obtain ⟨t, -, -, hlo, hhi⟩ := hspec j hlow
    rw [(hback j hlow).1, h j hj, h _ (hlow.add_lt hlen), hlo, hhi]
    push_cast
    ring
  · obtain ⟨t, -, hcast, hlo, hhi⟩ := hspec i hlow
    have hblock : i / (2 * len) < 128 / len := by
      have hlt := hlow.1
      simp only [lens, List.mem_cons, List.not_mem_nil, or_false] at hlen
      rcases hlen with rfl | rfl | rfl | rfl | rfl | rfl | rfl <;> omega
    rw [(hback i hlow).2, h i hlow.1, h _ hj, hlo, hhi]
    push_cast
    rw [hcast]
    linear_combination (-2 * k * coeff a (i + len)) * zeta_cancel hlen hblock

theorem backward_run {l : List Nat} (hl : ∀ len ∈ l, len ∈ lens) (ha : Bounded bound a)
    (hbound : bound + 3328 * l.length ≤ 8 * 3328) (hx : Bounded 3328 x)
    (h : Scaled k x (l.foldlM forward a).val) :
    Scaled (k * 2 ^ l.length) (l.reverse.foldlM backward x).val a := by
  induction l generalizing a bound with
  | nil => simpa using h
  | cons len l ih =>
    rw [List.length_cons, Nat.cast_add_one] at hbound
    have hlen := hl len List.mem_cons_self
    have hrest : ∀ len ∈ l, len ∈ lens := fun len h => hl len (List.mem_cons_of_mem _ h)
    have hscaled := ih hrest (forward_bounded hlen ha (by omega)) (by omega) h
    have hsmall := (backward_bounded (l := l.reverse)
      (fun len h => hrest len (List.mem_reverse.mp h)) hx).2
    have hlast : ((len :: l).reverse.foldlM backward x).val =
        (backward (l.reverse.foldlM backward x).val len).val := by
      rw [Traced.val_foldlM, Traced.val_foldlM, List.reverse_cons, List.foldl_append]
      rfl
    rw [hlast, List.length_cons, pow_succ, ← mul_assoc]
    exact backward_forward hlen ha (by omega) (hsmall.nearPairs hlen) hscaled

theorem invNtt_scaled (ha : Bounded 3328 a) (hx : NearPairs 2 x) (h : Scaled k x (ntt a).val)
    (i : Fin 256) : ((invNtt x).val.get i : Fq) = k * 2 ^ 16 * (a.get i : Fq) := by
  have htwo : 2 ∈ lens := by decide
  obtain ⟨-, hbefore⟩ := forward_run outerLens_subset ha (by decide)
  rw [ntt_val] at h
  have hfirst := (backward_spec htwo hx).1
  have hscaled := backward_run outerLens_subset ha (by decide) hfirst
    (backward_forward htwo hbefore (by decide) hx h)
  have hsmall := (backward_bounded outerLens_reverse_subset hfirst).2
  have hi := hscaled i.val i.isLt
  have habs := hsmall i.val i.isLt
  rw [coeff_val] at habs
  rw [coeff_val, coeff_val] at hi
  have hmul : |(outerLens.reverse.foldlM backward (backward x 2).val).val.get i * F_INV_NTT| ≤
      3328 * 2 ^ 16 := by
    rw [abs_mul]
    exact mul_le_mul habs (by decide) (abs_nonneg _) (by decide)
  have hcast := (fqmul_spec hmul (Int.le_refl _) (by decide)).2.2
  have hconst : ((2 : Fq) * 2 ^ outerLens.length * (F_INV_NTT : Int) * 169) = 2 ^ 16 := by
    decide
  rw [invNtt_get, hcast, hi]
  linear_combination (k * (a.get i : Fq)) * hconst

end Runs

section Entries

def nttEntry (a : Nat → Int) : List Nat → Nat → Int
  | [], i => a i
  | len :: rest, i =>
    if i % (2 * len) < len then
      (nttPair (zetaAt (128 / len + i / (2 * len))) (nttEntry a rest i)
        (nttEntry a rest (i + len))).val.1
    else
      (nttPair (zetaAt (128 / len + (i - len) / (2 * len))) (nttEntry a rest (i - len))
        (nttEntry a rest i)).val.2

theorem coeff_forward_run (a : Coeffs) {l : List Nat} (hl : ∀ len ∈ l, len ∈ lens) {i : Nat}
    (hi : i < 256) : coeff (l.reverse.foldlM forward a).val i = nttEntry (coeff a) l i := by
  induction l generalizing i with
  | nil => rfl
  | cons len l ih =>
    have hlen := hl len List.mem_cons_self
    have hrest := fun {i} => ih (fun len h => hl len (List.mem_cons_of_mem _ h)) (i := i)
    have hlast : ((len :: l).reverse.foldlM forward a).val =
        (forward (l.reverse.foldlM forward a).val len).val := by
      rw [Traced.val_foldlM, Traced.val_foldlM, List.reverse_cons, List.foldl_append]
      rfl
    rw [hlast, nttEntry]
    obtain hlow | ⟨j, hlow, rfl⟩ := low_or_high hlen hi
    · have hpass := congrArg Prod.fst (coeff_pass nttPair
        (fun block => zetaAt (128 / len + block)) hlen
        (l.reverse.foldlM forward a).val hlow)
      rw [if_pos hlow.2, ← hrest hi, ← hrest (hlow.add_lt hlen)]
      exact hpass
    · have hpass := congrArg Prod.snd (coeff_pass nttPair
        (fun block => zetaAt (128 / len + block)) hlen
        (l.reverse.foldlM forward a).val hlow)
      have hhigh : ¬ (j + len) % (2 * len) < len := by
        have hj := hlow.2
        rw [Nat.add_mod, Nat.mod_eq_of_lt (by omega : len < 2 * len),
          Nat.mod_eq_of_lt (by omega : j % (2 * len) + len < 2 * len)]
        omega
      rw [if_neg hhigh, Nat.add_sub_cancel, ← hrest hi, ← hrest hlow.1]
      exact hpass

theorem coeff_ntt (a : Coeffs) {i : Nat} (hi : i < 256) :
    coeff (ntt a).val i = nttEntry (coeff a) lens.reverse i := by
  rw [ntt_eq, ← coeff_forward_run a (by decide) hi, List.reverse_reverse]

end Entries

theorem ntt_pairs {a : Coeffs} {bound : Int} (ha : Bounded bound a) (hbound : bound ≤ 3328)
    {i : Nat} (hi : Low 2 i) : ∃ y t : Int, |y| ≤ bound + 6 * 3328 ∧ |t| ≤ 3328 ∧
      coeff (ntt a).val i = y + t ∧ coeff (ntt a).val (i + 2) = y - t := by
  have hsum : bound + 3328 * (outerLens.length : Int) = bound + 6 * 3328 := rfl
  obtain ⟨-, hbefore⟩ := forward_run outerLens_subset ha (by omega)
  rw [hsum] at hbefore
  rw [ntt_val]
  obtain ⟨t, ht, -, hlo, hhi⟩ := (forward_spec (by decide : 2 ∈ lens) hbefore (by omega)).2 i hi
  exact ⟨_, t, hbefore i hi.1, ht, hlo, hhi⟩

/-- The transform and its inverse give every coefficient back, times `2 ^ 16`. -/
theorem invNtt_ntt (a : Coeffs) (ha : ∀ i, -Q < a.get i ∧ a.get i < Q) (i : Fin 256) :
    (invNtt (ntt a).val).val.get i ≡ a.get i * 2 ^ 16 [ZMOD Q] := by
  have hbounded : Bounded 3328 a := bounded_of_get fun j => by
    obtain ⟨hlo, hhi⟩ := ha j
    simp only [Q] at hlo hhi
    exact abs_le.mpr (by omega)
  have hnear : NearPairs 2 (ntt a).val := by
    intro j hj
    obtain ⟨y, t, hy, ht, hlo, hhi⟩ := ntt_pairs hbounded (Int.le_refl _) hj
    obtain ⟨hylo, hyhi⟩ := abs_le.mp hy
    obtain ⟨htlo, hthi⟩ := abs_le.mp ht
    rw [hlo, hhi]
    exact ⟨abs_le.mpr (by omega), abs_lt.mpr (by omega)⟩
  have hcast := invNtt_scaled hbounded hnear (k := 1) (fun j _ => (one_mul _).symm) i
  refine (ZMod.intCast_eq_intCast_iff _ _ 3329).mp ?_
  rw [hcast]
  push_cast
  ring

def sparse (entries : List (Nat × Int)) : Coeffs :=
  Vector.ofFn fun i => (entries.lookup i.val).getD 0

theorem get_sparse (entries : List (Nat × Int)) (i : Fin 256) :
    (sparse entries).get i = (entries.lookup i.val).getD 0 := Vector.getElem_ofFn i.isLt

theorem coeff_sparse (entries : List (Nat × Int)) :
    coeff (sparse entries) = fun i => (entries.lookup (i % 256)).getD 0 :=
  funext fun i => get_sparse entries (Fin.ofNat 256 i)

theorem sparse_forall {p : Int → Prop} {entries : List (Nat × Int)} (hzero : p 0)
    (h : ∀ e ∈ entries, p e.2) (i : Fin 256) : p ((sparse entries).get i) := by
  rw [get_sparse]
  induction entries with
  | nil => exact hzero
  | cons e entries ih =>
    obtain ⟨he, hrest⟩ := List.forall_mem_cons.mp h
    rw [List.lookup_cons]
    split
    · exact he
    · exact ih hrest

theorem invNtt_ntt_sparse :
    (∀ i, -Q < (sparse [(0, 3328), (255, -3328)]).get i ∧
      (sparse [(0, 3328), (255, -3328)]).get i < Q) ∧
    (invNtt (ntt (sparse [(0, 3328), (255, -3328)])).val).val.get 255 ≡
      (sparse [(0, 3328), (255, -3328)]).get 255 * 2 ^ 16 [ZMOD Q] := by
  have hrange : ∀ i, -Q < (sparse [(0, 3328), (255, -3328)]).get i ∧
      (sparse [(0, 3328), (255, -3328)]).get i < Q :=
    sparse_forall (p := fun c => -Q < c ∧ c < Q) (by decide) (by decide)
  exact ⟨hrange, invNtt_ntt _ hrange 255⟩

end CityG.RlweCore
