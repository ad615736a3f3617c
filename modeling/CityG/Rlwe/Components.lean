import CityG.Rlwe.Ntt

/-!
# The vectors of a branch

The products of a row are added up in the transformed domain, taken back, masked with noise
and transformed again. Nothing is reduced between the transform and the inverse one.
-/

namespace CityG.RlweCore

abbrev PolyVec := Vector Coeffs 3

abbrev Matrix := Vector PolyVec 3

def pointwiseMul (a b : Coeffs) : Checked Coeffs := Traced.ofFn fun i => fqmul (a.get i) (b.get i)

def addAssign (a b : Coeffs) : Checked Coeffs := Traced.ofFn fun i => montgomeryAdd (a.get i) (b.get i)

def PolyVec.ntt (v : PolyVec) : Checked PolyVec := Traced.ofFn fun i => RlweCore.ntt (v.get i)

def rowProduct (row vec : PolyVec) : Checked Coeffs := do
  let acc ← pointwiseMul (row.get 0) (vec.get 0)
  let prod ← pointwiseMul (row.get 1) (vec.get 1)
  let acc ← addAssign acc prod
  let prod ← pointwiseMul (row.get 2) (vec.get 2)
  addAssign acc prod

def maskWithError (acc error : Coeffs) : Checked Coeffs := do
  let acc ← invNtt acc
  let acc ← addAssign acc error
  ntt acc

def matVecMul (matrix : Matrix) (vecNtt error : PolyVec) : Checked PolyVec :=
  Traced.ofFn fun i => do
    let rowAcc ← rowProduct (matrix.get i) vecNtt
    maskWithError rowAcc (error.get i)

def componentWiseMul (bNtt rNtt error : PolyVec) : Checked PolyVec :=
  Traced.ofFn fun i => do
    let prod ← pointwiseMul (bNtt.get i) (rNtt.get i)
    maskWithError prod (error.get i)

structure Noise where
  eB : PolyVec
  e1 : PolyVec
  e2 : PolyVec
  s : PolyVec
  r : PolyVec

def Matrix.ntt (a : Matrix) : Checked Matrix := Traced.ofFn fun i => PolyVec.ntt (a.get i)

def computeRlweComponents (a : Matrix) (noise : Noise) : Checked (PolyVec × PolyVec × PolyVec) := do
  let aNtt ← Matrix.ntt a
  let sNtt ← PolyVec.ntt noise.s
  let rNtt ← PolyVec.ntt noise.r
  let bNtt ← matVecMul aNtt sNtt noise.eB
  let uNtt ← matVecMul aNtt rNtt noise.e1
  let vNtt ← componentWiseMul bNtt rNtt noise.e2
  pure (bNtt, uNtt, vNtt)

def noiseCoeff (bits : Fin 16) : Int :=
  (barrettReduce ((((bits.val % 4 : Nat) : Int) - ((bits.val / 4 : Nat) : Int) + Q) % Q)).val

theorem noiseCoeff_abs_le (bits : Fin 16) : |noiseCoeff bits| ≤ 3 := by
  revert bits
  decide

theorem coeff_pointwiseMul (a b : Coeffs) (i : Nat) :
    coeff (pointwiseMul a b).val i = (fqmul (coeff a i) (coeff b i)).val := Traced.get_ofFn _ _

theorem coeff_addAssign (a b : Coeffs) (i : Nat) :
    coeff (addAssign a b).val i = (montgomeryAdd (coeff a i) (coeff b i)).val := Traced.get_ofFn _ _

theorem addWide_cases (a b : Int) :
    (Q ≤ a + b ∧ addWide a b = a + b - Q) ∨ (a + b < Q ∧ addWide a b = a + b) := by
  simp only [addWide]
  obtain ⟨h, hmask⟩ | ⟨h, hmask⟩ := signMask_cases (a + b - Q) Q <;> omega

theorem montgomeryWide_near {a b d : Int} (h : |a - b| ≤ d * 2 ^ 16) :
    |montgomeryWide a - montgomeryWide b| ≤ d + Q := by
  obtain ⟨hlo, hhi⟩ := abs_le.mp h
  rw [abs_le]
  simp only [montgomeryWide]
  obtain ⟨hneg, hmask⟩ | ⟨hpos, hmask⟩ :=
    signMask_cases ((a - a * QINV % 2 ^ 16 * Q) / 2 ^ 16) Q <;>
  obtain ⟨hneg', hmask'⟩ | ⟨hpos', hmask'⟩ :=
    signMask_cases ((b - b * QINV % 2 ^ 16 * Q) / 2 ^ 16) Q <;>
  rw [hmask, hmask'] <;>
  simp only [QINV, Q] at * <;>
  omega

section Stages
variable {a b x : Coeffs} {bound bound' c : Int}

theorem fqmul_of_bounded (ha : Bounded bound a) (hb : Bounded bound' b)
    (h : bound * bound' ≤ c * 2 ^ 16) (hlo : 3328 ≤ c) (hhi : c < 2 ^ 15) {i : Nat} (hi : i < 256) :
    (fqmul (coeff a i) (coeff b i)).All Event.Ok ∧ |(fqmul (coeff a i) (coeff b i)).val| ≤ c ∧
      ((fqmul (coeff a i) (coeff b i)).val : Fq) = coeff a i * coeff b i * 169 := by
  refine fqmul_spec ?_ hlo hhi
  have hpos : 0 ≤ bound := (abs_nonneg _).trans (ha i hi)
  rw [abs_mul]
  exact (mul_le_mul (ha i hi) (hb i hi) (abs_nonneg _) hpos).trans h

theorem pointwiseMul_spec (ha : Bounded bound a) (hb : Bounded bound' b)
    (h : bound * bound' ≤ c * 2 ^ 16) (hlo : 3328 ≤ c) (hhi : c < 2 ^ 15) :
    (pointwiseMul a b).All Event.Ok ∧ Bounded c (pointwiseMul a b).val := by
  constructor
  · refine Traced.all_ofFn.mpr fun i => ?_
    rw [← coeff_val, ← coeff_val]
    exact (fqmul_of_bounded ha hb h hlo hhi i.isLt).1
  · intro i hi
    rw [coeff_pointwiseMul]
    exact (fqmul_of_bounded ha hb h hlo hhi hi).2.1

theorem montgomeryAdd_spec {x y : Int} (hx : |x| ≤ bound) (hy : |y| ≤ bound')
    (hlo : 3328 ≤ bound + bound') (hhi : bound + bound' < 2 ^ 15) :
    (Event.narrow (addWide x y)).Ok ∧ |addWide x y| ≤ bound + bound' := by
  obtain ⟨hxlo, hxhi⟩ := abs_le.mp hx
  obtain ⟨hylo, hyhi⟩ := abs_le.mp hy
  have hrange : |addWide x y| ≤ bound + bound' := by
    rw [abs_le]
    obtain ⟨hle, heq⟩ | ⟨hlt, heq⟩ := addWide_cases x y <;> simp only [Q] at * <;> omega
  obtain ⟨hge, hle⟩ := abs_le.mp hrange
  exact ⟨⟨by omega, by omega⟩, hrange⟩

theorem addAssign_spec (ha : Bounded bound a) (hb : Bounded bound' b)
    (hlo : 3328 ≤ bound + bound') (hhi : bound + bound' < 2 ^ 15) :
    (addAssign a b).All Event.Ok ∧ Bounded (bound + bound') (addAssign a b).val ∧
      ∀ i < 256, coeff (addAssign a b).val i = addWide (coeff a i) (coeff b i) := by
  have hspec : ∀ i < 256, _ := fun i hi => montgomeryAdd_spec (ha i hi) (hb i hi) hlo hhi
  have hval : ∀ i < 256, coeff (addAssign a b).val i = addWide (coeff a i) (coeff b i) := by
    intro i hi
    rw [coeff_addAssign]
    exact asI16_val (hspec i hi).1
  refine ⟨Traced.all_ofFn.mpr fun i => ?_, fun i hi => ?_, hval⟩
  · rw [← coeff_val, ← coeff_val]
    exact all_asI16.mpr (hspec i.val i.isLt).1
  · rw [hval i hi]
    exact (hspec i hi).2

theorem ntt_spec (ha : Bounded bound a) (hbound : bound ≤ 3328) :
    (ntt a).All Event.Ok ∧ Bounded (bound + 7 * 3328) (ntt a).val := by
  have hlength : bound + 3328 * (lens.length : Int) = bound + 7 * 3328 := rfl
  obtain ⟨hok, hrun⟩ := forward_run (l := lens) (fun _ h => h) ha (by omega)
  rw [hlength] at hrun
  exact ⟨hok, hrun⟩

theorem invNtt_range (hx : NearPairs 2 x) {i : Nat} (hi : i < 256) :
    -74 ≤ coeff (invNtt x).val i ∧ coeff (invNtt x).val i ≤ 3328 := by
  have hsmall := (backward_bounded outerLens_reverse_subset
    (backward_spec (by decide : 2 ∈ lens) hx).1).2 i hi
  have hmul : |coeff (outerLens.reverse.foldlM backward (backward x 2).val).val i * F_INV_NTT| ≤
      74 * 2 ^ 16 := by
    rw [abs_mul]
    exact (mul_le_mul hsmall (le_of_eq rfl) (abs_nonneg _) (by decide)).trans (by decide)
  obtain ⟨hlo, hhi⟩ := montgomeryWide_range hmul
  have hok : (Event.narrow (montgomeryWide
      (coeff (outerLens.reverse.foldlM backward (backward x 2).val).val i * F_INV_NTT))).Ok :=
    ⟨by omega, by omega⟩
  have hval : coeff (invNtt x).val i = montgomeryWide
      (coeff (outerLens.reverse.foldlM backward (backward x 2).val).val i * F_INV_NTT) := by
    rw [coeff, invNtt_get]
    exact asI16_val hok
  rw [hval]
  omega

theorem all_invNtt {p : Event → Prop} (hp : ∀ e, e.Ok → p e) (hx : NearPairs 2 x) :
    (invNtt x).All p ↔ ∀ i, Low 2 i → p (.bounded (coeff x i + coeff x (i + 2)) (Q * 8)) ∧
      p (.bounded (coeff x (i + 2) - coeff x i) (Q * 8)) := by
  have htwo : 2 ∈ lens := by decide
  have hreverse : lens.reverse = 2 :: outerLens.reverse := rfl
  obtain ⟨hrest, hsmall⟩ := backward_bounded outerLens_reverse_subset (backward_spec htwo hx).1
  have hlast : (Traced.ofFn fun i => fqmul
      ((outerLens.reverse.foldlM backward (backward x 2).val).val.get i) F_INV_NTT).All p := by
    refine Traced.all_ofFn.mpr fun i e he => hp e ?_
    have habs := hsmall i.val i.isLt
    rw [coeff_val] at habs
    refine (fqmul_spec ?_ (Int.le_refl 3328) (by decide)).1 e he
    rw [abs_mul]
    exact mul_le_mul habs (by decide) (abs_nonneg _) (by decide)
  have hfirst : (backward x 2).All p ↔ ∀ i, Low 2 i →
      p (.bounded (coeff x i + coeff x (i + 2)) (Q * 8)) ∧
        p (.bounded (coeff x (i + 2) - coeff x i) (Q * 8)) := by
    refine (all_layer htwo x).trans (forall₂_congr fun i hi => ?_)
    exact all_invNttPair hp (zetaAt_abs_le _) (hx i hi)
  rw [invNtt_eq, hreverse, Traced.all_bind, List.foldlM_cons, Traced.all_bind, Traced.val_bind,
    hfirst]
  exact ⟨fun h => h.1.1, fun h => ⟨⟨h, fun e he => hp e (hrest e he)⟩, hlast⟩⟩

theorem pointwiseMul_near (ha : Bounded 3328 a) (hb : Bounded 3 b) {i : Nat} (hi : Low 2 i) :
    |coeff (pointwiseMul (ntt a).val (ntt b).val).val i -
      coeff (pointwiseMul (ntt a).val (ntt b).val).val (i + 2)| ≤ 4395 + Q := by
  have hi2 : i + 2 < 256 := hi.add_lt (by decide : 2 ∈ lens)
  obtain ⟨Y, T, hY, hT, hlo, hhi⟩ := ntt_pairs ha (Int.le_refl _) hi
  obtain ⟨y, t, hy, ht, hlo', hhi'⟩ := ntt_pairs hb (by decide) hi
  have hnarrow : ∀ {j}, j < 256 → coeff (pointwiseMul (ntt a).val (ntt b).val).val j =
      montgomeryWide (coeff (ntt a).val j * coeff (ntt b).val j) := by
    intro j hj
    rw [coeff_pointwiseMul]
    have hok := (fqmul_of_bounded (c := 9466) (ntt_spec ha (Int.le_refl _)).2
      (ntt_spec hb (by decide)).2 (by decide) (by decide) (by decide) hj).1
    exact asI16_val (all_asI16.mp hok)
  rw [hnarrow hi.1, hnarrow hi2, hlo, hhi, hlo', hhi']
  refine montgomeryWide_near ?_
  have hdiff : (Y + T) * (y + t) - (Y - T) * (y - t) = 2 * (Y * t) + 2 * (T * y) := by ring
  have hYt : |Y * t| ≤ (3328 + 6 * 3328) * 3328 := by
    rw [abs_mul]
    exact mul_le_mul hY ht (abs_nonneg _) (by decide)
  have hTy : |T * y| ≤ 3328 * (3 + 6 * 3328) := by
    rw [abs_mul]
    exact mul_le_mul hT hy (abs_nonneg _) (by decide)
  rw [hdiff, abs_le]
  obtain ⟨h1, h2⟩ := abs_le.mp hYt
  obtain ⟨h3, h4⟩ := abs_le.mp hTy
  omega

theorem addWide_error {y e : Int} (hlo : -74 ≤ y) (hhi : y ≤ 3328) (he : |e| ≤ 3) :
    (Event.narrow (addWide y e)).Ok ∧ |addWide y e| ≤ 3328 := by
  obtain ⟨helo, hehi⟩ := abs_le.mp he
  have hrange : -77 ≤ addWide y e ∧ addWide y e ≤ 3328 := by
    obtain ⟨hle, heq⟩ | ⟨hlt, heq⟩ := addWide_cases y e <;> simp only [Q] at * <;> omega
  exact ⟨⟨by omega, by omega⟩, abs_le.mpr ⟨by omega, hrange.2⟩⟩

theorem addError_spec {error : Coeffs} (hx : NearPairs 2 x) (herror : Bounded 3 error) :
    (addAssign (invNtt x).val error).All Event.Ok ∧
      Bounded 3328 (addAssign (invNtt x).val error).val := by
  have hadd : ∀ i < 256, _ := fun i hi =>
    addWide_error (invNtt_range hx hi).1 (invNtt_range hx hi).2 (herror i hi)
  constructor
  · refine Traced.all_ofFn.mpr fun i => all_asI16.mpr ?_
    rw [← coeff_val, ← coeff_val]
    exact (hadd i.val i.isLt).1
  · intro i hi
    rw [coeff_addAssign]
    have hval := asI16_val (hadd i hi).1
    rw [montgomeryAdd, hval]
    exact (hadd i hi).2

theorem maskWithError_spec {p : Event → Prop} (hp : ∀ e, e.Ok → p e) {error : Coeffs}
    (hx : NearPairs 2 x) (herror : Bounded 3 error) :
    ((maskWithError x error).All p ↔ (invNtt x).All p) ∧
      Bounded (3328 + 7 * 3328) (maskWithError x error).val := by
  obtain ⟨hadd, hbounded⟩ := addError_spec hx herror
  obtain ⟨hntt, hout⟩ := ntt_spec hbounded (Int.le_refl _)
  rw [maskWithError, Traced.all_bind, Traced.all_bind, Traced.val_bind, Traced.val_bind]
  refine ⟨⟨fun h => h.1, fun h => ⟨h, ?_, ?_⟩⟩, hout⟩
  · exact fun e he => hp e (hadd e he)
  · exact fun e he => hp e (hntt e he)

end Stages

section Rows
variable {row vec : PolyVec}

theorem get_nttVec (v : PolyVec) (i : Fin 3) : (PolyVec.ntt v).val.get i = (ntt (v.get i)).val :=
  Traced.get_ofFn _ i

theorem rowProduct_spec (hrow : ∀ i, Bounded 3328 (row.get i)) (hvec : ∀ i, Bounded 3 (vec.get i)) :
    (rowProduct (PolyVec.ntt row).val (PolyVec.ntt vec).val).All Event.Ok ∧
      NearPairs 2 (rowProduct (PolyVec.ntt row).val (PolyVec.ntt vec).val).val := by
  let f : Fin 3 → Checked Coeffs := fun i =>
    pointwiseMul (ntt (row.get i)).val (ntt (vec.get i)).val
  have hf : ∀ i, (f i).All Event.Ok ∧ Bounded 9466 (f i).val := fun i =>
    pointwiseMul_spec (ntt_spec (hrow i) (Int.le_refl _)).2 (ntt_spec (hvec i) (by decide)).2
      (by decide) (by decide) (by decide)
  obtain ⟨hok1, hbounded1, hval1⟩ := addAssign_spec (hf 0).2 (hf 1).2 (by decide) (by decide)
  obtain ⟨hok2, hbounded2, hval2⟩ := addAssign_spec hbounded1 (hf 2).2 (by decide) (by decide)
  simp only [rowProduct, get_nttVec, Traced.all_bind, Traced.val_bind]
  refine ⟨⟨(hf 0).1, (hf 1).1, hok1, (hf 2).1, hok2⟩, fun i hi => ?_⟩
  have hi2 : i + 2 < 256 := hi.add_lt (by decide : 2 ∈ lens)
  constructor
  · refine (abs_add_le _ _).trans ?_
    exact (add_le_add (hbounded2 i hi.1) (hbounded2 _ hi2)).trans (by decide)
  · have hdiff : ∀ k, _ := fun k => abs_le.mp (pointwiseMul_near (hrow k) (hvec k) hi)
    have h0 := hdiff 0
    have h1 := hdiff 1
    have h2 := hdiff 2
    rw [hval2 i hi.1, hval2 _ hi2, hval1 i hi.1, hval1 _ hi2, abs_lt]
    obtain ⟨hc, he⟩ | ⟨hc, he⟩ := addWide_cases (addWide (coeff (f 0).val i) (coeff (f 1).val i))
      (coeff (f 2).val i) <;>
    obtain ⟨hc', he'⟩ | ⟨hc', he'⟩ := addWide_cases (coeff (f 0).val i) (coeff (f 1).val i) <;>
    obtain ⟨hd, hg⟩ | ⟨hd, hg⟩ := addWide_cases
      (addWide (coeff (f 0).val (i + 2)) (coeff (f 1).val (i + 2))) (coeff (f 2).val (i + 2)) <;>
    obtain ⟨hd', hg'⟩ | ⟨hd', hg'⟩ := addWide_cases (coeff (f 0).val (i + 2))
      (coeff (f 1).val (i + 2)) <;>
    simp only [Q, f] at * <;>
    omega

end Rows

def FirstLayer (p : Event → Prop) (row vec : PolyVec) : Prop :=
  ∀ i, Low 2 i →
    let acc := (rowProduct (PolyVec.ntt row).val (PolyVec.ntt vec).val).val
    p (.bounded (coeff acc i + coeff acc (i + 2)) (Q * 8)) ∧
      p (.bounded (coeff acc (i + 2) - coeff acc i) (Q * 8))

section Products
variable {p : Event → Prop} {a : Matrix} {v error : PolyVec}

theorem matVecMul_spec (hp : ∀ e, e.Ok → p e) (ha : ∀ i j, Bounded 3328 ((a.get i).get j))
    (hv : ∀ i, Bounded 3 (v.get i)) (herror : ∀ i, Bounded 3 (error.get i)) :
    ((matVecMul (Matrix.ntt a).val (PolyVec.ntt v).val error).All p ↔
      ∀ i, FirstLayer p (a.get i) v) ∧
    ∀ i, Bounded (3328 + 7 * 3328)
      ((matVecMul (Matrix.ntt a).val (PolyVec.ntt v).val error).val.get i) := by
  have hget : ∀ i, (Matrix.ntt a).val.get i = (PolyVec.ntt (a.get i)).val := Traced.get_ofFn _
  have hmask : ∀ i, _ := fun i =>
    maskWithError_spec hp (rowProduct_spec (ha i) hv).2 (herror i)
  constructor
  · rw [matVecMul, Traced.all_ofFn]
    refine forall_congr' fun i => ?_
    rw [hget, Traced.all_bind, (hmask i).1, all_invNtt hp (rowProduct_spec (ha i) hv).2]
    exact ⟨fun h => h.2, fun h => ⟨fun e he => hp e ((rowProduct_spec (ha i) hv).1 e he), h⟩⟩
  · intro i
    rw [matVecMul, Traced.get_ofFn, Traced.val_bind, hget]
    exact (hmask i).2

theorem componentWiseMul_ok {b : PolyVec} (hb : ∀ i, Bounded (3328 + 7 * 3328) (b.get i))
    (hv : ∀ i, Bounded 3 (v.get i)) (herror : ∀ i, Bounded 3 (error.get i)) :
    (componentWiseMul b (PolyVec.ntt v).val error).All Event.Ok := by
  rw [componentWiseMul, Traced.all_ofFn]
  intro i
  rw [get_nttVec, Traced.all_bind]
  obtain ⟨hok, hbounded⟩ := pointwiseMul_spec (c := 9466) (hb i) (ntt_spec (hv i) (by decide)).2
    (by decide) (by decide) (by decide)
  have htwo : 2 ∈ lens := by decide
  have hnear : NearPairs 2 (pointwiseMul (b.get i) (ntt (v.get i)).val).val := fun j hj =>
    .of_bound (by decide) (hbounded j hj.1) (hbounded _ (hj.add_lt htwo))
  refine ⟨hok, ?_⟩
  rw [(maskWithError_spec (fun _ h => h) hnear (herror i)).1, all_invNtt (fun _ h => h) hnear]
  intro j hj
  obtain ⟨hlo, hhi⟩ := abs_le.mp (hbounded j hj.1)
  obtain ⟨hlo', hhi'⟩ := abs_le.mp (hbounded _ (hj.add_lt htwo))
  exact ⟨abs_le.mpr (by simp only [Q]; omega), abs_le.mpr (by simp only [Q]; omega)⟩

end Products

def Noise.vectors (noise : Noise) : List PolyVec := [noise.eB, noise.e1, noise.e2, noise.s, noise.r]

structure Sampled (a : Matrix) (noise : Noise) : Prop where
  matrix : ∀ i j k, 0 ≤ ((a.get i).get j).get k ∧ ((a.get i).get j).get k < Q
  noise : ∀ v ∈ noise.vectors, ∀ i k, ∃ bits, (v.get i).get k = noiseCoeff bits

section Components
variable {a : Matrix} {noise : Noise} {p : Event → Prop}

theorem Sampled.matrix_bounded (h : Sampled a noise) (i j : Fin 3) :
    Bounded 3328 ((a.get i).get j) := by
  refine bounded_of_get fun k => abs_le.mpr ?_
  obtain ⟨hlo, hhi⟩ := h.matrix i j k
  simp only [Q] at hhi
  omega

theorem Sampled.noise_bounded (h : Sampled a noise) {v : PolyVec} (hv : v ∈ noise.vectors)
    (i : Fin 3) : Bounded 3 (v.get i) := by
  refine bounded_of_get fun k => ?_
  obtain ⟨bits, hbits⟩ := h.noise v hv i k
  rw [hbits]
  exact noiseCoeff_abs_le bits

theorem all_components (hp : ∀ e, e.Ok → p e) (h : Sampled a noise) :
    (computeRlweComponents a noise).All p ↔
      ∀ i, FirstLayer p (a.get i) noise.s ∧ FirstLayer p (a.get i) noise.r := by
  have hb : ∀ v ∈ noise.vectors, ∀ i, Bounded 3 (v.get i) := fun v hv => h.noise_bounded hv
  simp only [Noise.vectors, List.forall_mem_cons] at hb
  obtain ⟨heB, he1, he2, hs, hr, -⟩ := hb
  have hvec : ∀ {v : PolyVec}, (∀ i, Bounded 3 (v.get i)) → (PolyVec.ntt v).All p := fun hv =>
    Traced.all_ofFn.mpr fun i e he => hp e ((ntt_spec (hv i) (by decide)).1 e he)
  have hmatrix : (Matrix.ntt a).All p := Traced.all_ofFn.mpr fun i => Traced.all_ofFn.mpr
    fun j e he => hp e ((ntt_spec (h.matrix_bounded i j) (Int.le_refl _)).1 e he)
  obtain ⟨hball, hbout⟩ := matVecMul_spec hp h.matrix_bounded hs heB
  have hv := componentWiseMul_ok hbout hr he2
  rw [computeRlweComponents, Traced.all_bind, Traced.all_bind, Traced.all_bind, Traced.all_bind,
    Traced.all_bind, Traced.all_bind, hball, (matVecMul_spec hp h.matrix_bounded hr he1).1,
    forall_and]
  constructor
  · exact fun h => ⟨h.2.2.2.1, h.2.2.2.2.1⟩
  · exact fun h => ⟨hmatrix, hvec hs, hvec hr, h.1, h.2, fun e he => hp e (hv e he),
      Traced.all_pure _⟩

end Components

def peakEntry : Coeffs :=
  sparse [(0, 3321), (2, 2932), (4, 1290), (8, 2373), (16, 326), (32, 1759), (64, 1569), (128, 2451)]

def peakSecret : Coeffs :=
  sparse [(0, 2), (2, -2), (4, 1), (6, -1), (8, 2), (12, -1), (16, 2), (20, -2), (24, -2), (30, -1),
    (48, 1), (88, -2), (96, -2), (128, -2), (160, -2), (192, 1), (224, 2), (240, 1)]

def peakMatrix : Matrix := Vector.replicate 3 (Vector.replicate 3 peakEntry)

def zeroVec : PolyVec := Vector.replicate 3 (sparse [])

def peakNoise : Noise := ⟨zeroVec, zeroVec, zeroVec, Vector.replicate 3 peakSecret, zeroVec⟩

theorem get_replicate {α : Type} (x : α) (i : Fin 3) : (Vector.replicate 3 x).get i = x :=
  Vector.getElem_replicate i.isLt

theorem peak_sampled : Sampled peakMatrix peakNoise := by
  constructor
  · intro i j k
    rw [peakMatrix, get_replicate, get_replicate]
    exact sparse_forall (p := fun c => 0 ≤ c ∧ c < Q) (by decide) (by decide) k
  · have hzero : ∀ i k, ∃ bits, (zeroVec.get i).get k = noiseCoeff bits := by
      intro i k
      rw [zeroVec, get_replicate]
      exact sparse_forall (p := fun c => ∃ bits, c = noiseCoeff bits) (by decide) (by decide) k
    intro v hv i k
    simp only [Noise.vectors, peakNoise, List.mem_cons, List.not_mem_nil, or_false] at hv
    obtain rfl | rfl | rfl | rfl | rfl := hv
    · exact hzero i k
    · exact hzero i k
    · exact hzero i k
    · rw [get_replicate]
      exact sparse_forall (p := fun c => ∃ bits, c = noiseCoeff bits) (by decide) (by decide) k
    · exact hzero i k

theorem coeff_rowProduct (row vec : PolyVec) (i : Nat) : coeff (rowProduct row vec).val i =
    (montgomeryAdd (montgomeryAdd (fqmul (coeff (row.get 0) i) (coeff (vec.get 0) i)).val
      (fqmul (coeff (row.get 1) i) (coeff (vec.get 1) i)).val).val
      (fqmul (coeff (row.get 2) i) (coeff (vec.get 2) i)).val).val := by
  rw [rowProduct, Traced.val_bind, Traced.val_bind, Traced.val_bind, Traced.val_bind,
    coeff_addAssign, coeff_addAssign, coeff_pointwiseMul, coeff_pointwiseMul, coeff_pointwiseMul]

theorem peak_row (i : Fin 3) :
    let acc := (rowProduct (PolyVec.ntt (peakMatrix.get i)).val (PolyVec.ntt peakNoise.s).val).val
    coeff acc 0 = 21206 ∧ coeff acc 2 = 8291 := by
  have h0 : coeff (ntt peakEntry).val 0 = 26392 := by
    rw [coeff_ntt _ (by decide), peakEntry, coeff_sparse]
    decide +kernel
  have h2 : coeff (ntt peakEntry).val 2 = 19916 := by
    rw [coeff_ntt _ (by decide), peakEntry, coeff_sparse]
    decide +kernel
  have h0' : coeff (ntt peakSecret).val 0 = 23092 := by
    rw [coeff_ntt _ (by decide), peakSecret, coeff_sparse]
    decide +kernel
  have h2' : coeff (ntt peakSecret).val 2 = 16456 := by
    rw [coeff_ntt _ (by decide), peakSecret, coeff_sparse]
    decide +kernel
  simp only [coeff_rowProduct, get_nttVec, peakMatrix, peakNoise, get_replicate, h0, h2, h0', h2']
  decide

end CityG.RlweCore
