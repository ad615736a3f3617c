import CityG.Lib.Except
import Mathlib.LinearAlgebra.Matrix.NonsingularInverse
import Mathlib.Tactic.LinearCombination

/-!
# The constant-time linear solver

Gauss-Jordan elimination without branches on the entries: rows are swapped by
arithmetic with a mask that is zero or one. In-place arrays are functions of
their index.
-/

namespace CityG.Capss

variable {F : Type} {n : Nat}

structure System (F : Type) (n : Nat) where
  matrix : Fin n → Fin n → F
  rhs : Fin n → F

variable [Field F]

def boolMask (flag : Bool) : F := if flag then 1 else 0

namespace System

def conditionalSwap (s : System F n) (a b : Fin n) (swap : Bool) : System F n :=
  if a = b then s
  else
    let mask : F := boolMask swap
    let inv := 1 - mask
    { matrix := fun i j =>
        if i = a then s.matrix a j * inv + s.matrix b j * mask
        else if i = b then s.matrix a j * mask + s.matrix b j * inv
        else s.matrix i j
      rhs := fun i =>
        if i = a then s.rhs a * inv + s.rhs b * mask
        else if i = b then s.rhs a * mask + s.rhs b * inv
        else s.rhs i }

def scaleRow (s : System F n) (col : Fin n) (inv : F) : System F n where
  matrix := fun i j => if i = col then s.matrix i j * inv else s.matrix i j
  rhs := fun i => if i = col then s.rhs i * inv else s.rhs i

def eliminate (s : System F n) (col : Fin n) : System F n where
  matrix := fun i j =>
    if i = col then s.matrix i j else s.matrix i j - s.matrix i col * s.matrix col j
  rhs := fun i => if i = col then s.rhs i else s.rhs i - s.matrix i col * s.rhs col

variable [DecidableEq F]

def selectPivot (col : Fin n) (acc : Bool × System F n) (row : Fin n) : Bool × System F n :=
  let nz := decide (acc.2.matrix row col ≠ 0)
  let select := nz && !acc.1
  (acc.1 || select, acc.2.conditionalSwap col row select)

def pivotSearch (s : System F n) (col : Fin n) : Bool × System F n :=
  ((List.finRange n).filter (col ≤ ·)).foldl (selectPivot col) (false, s)

def clearColumn (s : System F n) (col : Fin n) : Except String (System F n) := do
  let (pivotFound, s) := s.pivotSearch col
  Except.ensure (pivotFound = true) "singular matrix"
  Except.ensure (s.matrix col col ≠ 0) "non invertible pivot"
  pure ((s.scaleRow col (s.matrix col col)⁻¹).eliminate col)

def solve (s : System F n) : Except String (Fin n → F) := do
  let s ← (List.finRange n).foldlM clearColumn s
  pure s.rhs

end System

def solveLinearSystem [DecidableEq F] (matrix : List (List F)) (rhs : List F) :
    Except String (List F) := do
  let n := rhs.length
  Except.ensure (matrix.length = n) "non square matrix"
  Except.ensure (∀ row ∈ matrix, row.length = n) "non square matrix"
  let solution ← System.solve
    { matrix := fun i j : Fin n => (matrix.getD i []).getD j 0, rhs := fun i => rhs.getD i 0 }
  pure (List.ofFn solution)

namespace System

/-- `x` solves the system with its right-hand side scaled by `t`: `t = 1` is a solution, `t = 0`
an element of the kernel. -/
def Solves (s : System F n) (x : Fin n → F) (t : F) : Prop :=
  ∀ i, ∑ j, s.matrix i j * x j = t * s.rhs i

def Equivalent (s s' : System F n) : Prop := ∀ x t, s'.Solves x t ↔ s.Solves x t

variable {s : System F n} {col : Fin n}

theorem Equivalent.trans {s' s'' : System F n} (h : Equivalent s s') (h' : Equivalent s' s'') :
    Equivalent s s'' := fun x t => (h' x t).trans (h x t)

def Cleared (k : Nat) (s : System F n) : Prop :=
  ∀ i j : Fin n, j.val < k → s.matrix i j = if i = j then 1 else 0

theorem conditionalSwap_false (s : System F n) (a b : Fin n) : s.conditionalSwap a b false = s := by
  unfold conditionalSwap
  split
  · rfl
  · obtain ⟨matrix, rhs⟩ := s
    simp only [boolMask, Bool.false_eq_true, if_false, sub_zero, mul_one, mul_zero, add_zero,
      zero_add, System.mk.injEq]
    constructor
    · funext i j
      split_ifs with hi hi' <;> simp_all
    · funext i
      split_ifs with hi hi' <;> simp_all

theorem conditionalSwap_true (s : System F n) (a b : Fin n) :
    s.conditionalSwap a b true =
      ⟨fun i => s.matrix (Equiv.swap a b i), fun i => s.rhs (Equiv.swap a b i)⟩ := by
  unfold conditionalSwap
  split
  · next h => simp [h]
  · simp only [boolMask, if_true, sub_self, mul_zero, mul_one, zero_add, add_zero,
      System.mk.injEq]
    constructor
    · funext i j
      rw [Equiv.swap_apply_def]
      split_ifs <;> rfl
    · funext i
      rw [Equiv.swap_apply_def]
      split_ifs <;> rfl

theorem conditionalSwap_equivalent (s : System F n) (a b : Fin n) :
    Equivalent s (s.conditionalSwap a b true) := by
  intro x t
  rw [conditionalSwap_true]
  exact (Equiv.swap a b).forall_congr fun _ => Iff.rfl

theorem scaleRow_equivalent (s : System F n) {c : F} (hc : c ≠ 0) :
    Equivalent s (s.scaleRow col c) := by
  intro x t
  refine forall_congr' fun i => ?_
  by_cases hi : i = col
  · subst hi
    simp only [scaleRow, if_true]
    have hsum : ∑ j, s.matrix i j * c * x j = (∑ j, s.matrix i j * x j) * c := by
      rw [Finset.sum_mul]
      exact Finset.sum_congr rfl fun j _ => by ring
    rw [hsum, ← mul_assoc]
    exact mul_left_inj' hc
  · simp only [scaleRow, if_neg hi]

theorem eliminate_equivalent (s : System F n) (col : Fin n) : Equivalent s (s.eliminate col) := by
  intro x t
  have hrow : ∀ i, i ≠ col → ∑ j, (s.eliminate col).matrix i j * x j =
      ∑ j, s.matrix i j * x j - s.matrix i col * ∑ j, s.matrix col j * x j := by
    intro i hi
    simp only [eliminate, if_neg hi]
    rw [Finset.mul_sum, ← Finset.sum_sub_distrib]
    exact Finset.sum_congr rfl fun j _ => by ring
  constructor
  · intro h i
    have hcol := h col
    simp only [eliminate, if_true] at hcol
    by_cases hi : i = col
    · rw [hi, hcol]
    · have hrow' := h i
      rw [hrow i hi] at hrow'
      simp only [eliminate, if_neg hi] at hrow'
      linear_combination hrow' + s.matrix i col * hcol
  · intro h i
    by_cases hi : i = col
    · subst hi
      simpa only [eliminate, if_true] using h i
    · rw [hrow i hi, h i, h col]
      simp only [eliminate, if_neg hi]
      ring

section Search

variable [DecidableEq F]

theorem selectPivot_found (col : Fin n) (s : System F n) (rows : List (Fin n)) :
    rows.foldl (selectPivot col) (true, s) = (true, s) := by
  induction rows with
  | nil => rfl
  | cons row rows ih =>
    rw [List.foldl_cons, selectPivot]
    simpa [conditionalSwap_false] using ih

theorem selectPivot_foldl (col : Fin n) (s : System F n) (rows : List (Fin n)) :
    (∃ r ∈ rows, s.matrix r col ≠ 0 ∧
      rows.foldl (selectPivot col) (false, s) = (true, s.conditionalSwap col r true)) ∨
    ((∀ r ∈ rows, s.matrix r col = 0) ∧
      rows.foldl (selectPivot col) (false, s) = (false, s)) := by
  induction rows with
  | nil => exact .inr ⟨nofun, rfl⟩
  | cons row rows ih =>
    rw [List.foldl_cons]
    by_cases hrow : s.matrix row col = 0
    · have hstep : selectPivot col (false, s) row = (false, s) := by
        simp [selectPivot, hrow, conditionalSwap_false]
      rw [hstep]
      obtain ⟨r, hr, hne, heq⟩ | ⟨hzero, heq⟩ := ih
      · exact .inl ⟨r, List.mem_cons_of_mem _ hr, hne, heq⟩
      · exact .inr ⟨List.forall_mem_cons.mpr ⟨hrow, hzero⟩, heq⟩
    · have hstep : selectPivot col (false, s) row = (true, s.conditionalSwap col row true) := by
        simp [selectPivot, hrow]
      rw [hstep, selectPivot_found]
      exact .inl ⟨row, List.mem_cons_self, hrow, rfl⟩

theorem pivotSearch_cases (s : System F n) (col : Fin n) :
    (∃ r, col ≤ r ∧ s.matrix r col ≠ 0 ∧
      s.pivotSearch col = (true, s.conditionalSwap col r true)) ∨
    ((∀ r, col ≤ r → s.matrix r col = 0) ∧ s.pivotSearch col = (false, s)) := by
  obtain ⟨r, hr, hne, heq⟩ | ⟨hzero, heq⟩ :=
    selectPivot_foldl col s ((List.finRange n).filter (col ≤ ·))
  · exact .inl ⟨r, of_decide_eq_true (List.mem_filter.mp hr).2, hne, heq⟩
  · exact .inr ⟨fun r hr => hzero r (List.mem_filter.mpr ⟨List.mem_finRange r, decide_eq_true hr⟩), heq⟩

end Search

theorem Cleared.conditionalSwap {r : Fin n} (h : Cleared col s) (hr : col ≤ r) :
    Cleared col (s.conditionalSwap col r true) := by
  intro i j hj
  have hcol : col ≠ j := fun he => by subst he; exact lt_irrefl _ hj
  have hrj : r ≠ j := fun he => by subst he; exact absurd hj (not_lt.mpr hr)
  rw [conditionalSwap_true]
  simp only [h _ j hj]
  rw [Equiv.swap_apply_def]
  split_ifs <;> simp_all

theorem Cleared.eliminate (h : Cleared col s) (hpivot : s.matrix col col ≠ 0) :
    Cleared (col + 1) ((s.scaleRow col (s.matrix col col)⁻¹).eliminate col) := by
  intro i j hj
  have hone : (s.scaleRow col (s.matrix col col)⁻¹).matrix col col = 1 := by
    simp [scaleRow, hpivot]
  obtain hlt | heq := Nat.lt_succ_iff_lt_or_eq.mp hj
  · have hcj : col ≠ j := fun he => by subst he; exact lt_irrefl _ hlt
    by_cases hi : i = col
    · subst hi
      simp [System.eliminate, scaleRow, h i j hlt, hcj]
    · simp [System.eliminate, scaleRow, hi, h i j hlt, h col j hlt, hcj]
  · obtain rfl : j = col := Fin.ext heq
    by_cases hi : i = j
    · subst hi
      simp only [System.eliminate, if_true, hone]
    · simp only [System.eliminate, if_neg hi, hone, mul_one, sub_self]

theorem Cleared.kernel (h : Cleared col s) (hzero : ∀ r, col ≤ r → s.matrix r col = 0) :
    ∃ x, s.Solves x 0 ∧ x ≠ 0 := by
  let x : Fin n → F := fun j =>
    if j = col then 1 else if j < col then -s.matrix j col else 0
  refine ⟨x, fun i => ?_, fun hx => ?_⟩
  · have hterm : ∀ j, s.matrix i j * x j =
        (if j = col then s.matrix i col else 0) +
          (if j = i then (if i < col then -s.matrix i col else 0) else 0) := by
      intro j
      simp only [x]
      by_cases hj : j = col
      · subst hj
        by_cases hji : j = i
        · subst hji
          simp
        · simp [hji]
      · by_cases hlt : j < col
        · rw [h i j hlt]
          by_cases hji : j = i
          · subst hji
            simp [hj, hlt]
          · simp [hj, hlt, hji, Ne.symm hji]
        · by_cases hji : j = i
          · subst hji
            simp [hj, hlt]
          · simp [hj, hlt, hji]
    rw [Finset.sum_congr rfl fun j _ => hterm j, Finset.sum_add_distrib]
    simp only [Finset.sum_ite_eq', Finset.mem_univ, if_true, zero_mul]
    split_ifs with hi
    · ring
    · rw [hzero i (not_lt.mp hi), add_zero]
  · have := congrFun hx col
    simp [x] at this

theorem Cleared.solves_iff (h : Cleared n s) {x : Fin n → F} {t : F} :
    s.Solves x t ↔ x = fun i => t * s.rhs i := by
  have hrow : ∀ i, ∑ j, s.matrix i j * x j = x i := by
    intro i
    rw [Finset.sum_congr rfl fun j _ => by rw [h i j j.isLt]]
    simp
  simp only [Solves, hrow, funext_iff]

variable [DecidableEq F]

theorem clearColumn_cases (hcleared : Cleared col s) :
    (∃ s', s.clearColumn col = .ok s' ∧ Cleared (col + 1) s' ∧ Equivalent s s') ∨
    (s.clearColumn col = .error "singular matrix" ∧ ∃ x, s.Solves x 0 ∧ x ≠ 0) := by
  obtain ⟨r, hr, hne, hsearch⟩ | ⟨hzero, hsearch⟩ := s.pivotSearch_cases col
  · have hpivot : (s.conditionalSwap col r true).matrix col col ≠ 0 := by
      rw [conditionalSwap_true]
      simpa using hne
    refine .inl ⟨((s.conditionalSwap col r true).scaleRow col _).eliminate col, ?_,
      (hcleared.conditionalSwap hr).eliminate hpivot, ?_⟩
    · simp only [clearColumn, hsearch, Except.bind_eq_ok, Except.ensure_eq_ok]
      exact ⟨(), trivial, (), hpivot, rfl⟩
    · exact ((s.conditionalSwap_equivalent col r).trans
        (scaleRow_equivalent _ (inv_ne_zero hpivot))).trans (eliminate_equivalent _ col)
  · refine .inr ⟨?_, hcleared.kernel hzero⟩
    simp only [clearColumn, hsearch]
    rfl

theorem clearColumns_cases (rest : List (Fin n)) {k : Nat} (hrest : rest = (List.finRange n).drop k)
    (hcleared : Cleared k s) :
    (∃ s', rest.foldlM clearColumn s = .ok s' ∧ Cleared n s' ∧ Equivalent s s') ∨
    (rest.foldlM clearColumn s = .error "singular matrix" ∧ ∃ x, s.Solves x 0 ∧ x ≠ 0) := by
  induction rest generalizing k s with
  | nil =>
    have hk : n ≤ k := by simpa using hrest.symm
    exact .inl ⟨s, rfl, fun i j _ => hcleared i j (lt_of_lt_of_le j.isLt hk), fun _ _ => Iff.rfl⟩
  | cons col rest ih =>
    have hk : k < n := by
      by_contra hle
      rw [List.drop_eq_nil_of_le (by simpa using hle)] at hrest
      exact List.cons_ne_nil _ _ hrest
    rw [List.drop_eq_getElem_cons (by simpa using hk), List.cons.injEq] at hrest
    obtain ⟨hcol, hrest⟩ := hrest
    obtain rfl : k = col.val := by simp [hcol]
    rw [List.foldlM_cons]
    obtain ⟨s', hstep, hcleared', hequiv⟩ | ⟨hstep, hker⟩ := clearColumn_cases hcleared
    · rw [hstep, Except.ok_bind]
      obtain ⟨s'', hrun, hdone, hequiv'⟩ | ⟨hrun, x, hx, hne⟩ := ih hrest hcleared'
      · exact .inl ⟨s'', hrun, hdone, hequiv.trans hequiv'⟩
      · exact .inr ⟨hrun, x, (hequiv x 0).mp hx, hne⟩
    · rw [hstep]
      exact .inr ⟨rfl, hker⟩

theorem solve_cases (s : System F n) :
    (∃ x, s.solve = .ok x ∧ s.Solves x 1 ∧ ∀ y t, s.Solves y t → y = fun i => t * x i) ∨
    (s.solve = .error "singular matrix" ∧ ∃ x, s.Solves x 0 ∧ x ≠ 0) := by
  obtain ⟨s', hrun, hcleared, hequiv⟩ | ⟨hrun, hker⟩ :=
    clearColumns_cases (List.finRange n) rfl (s := s) (fun _ _ h => absurd h (Nat.not_lt_zero _))
  · refine .inl ⟨s'.rhs, ?_, (hequiv _ _).mp ?_, ?_⟩
    · rw [solve, hrun]
      rfl
    · exact hcleared.solves_iff.mpr (by simp)
    · exact fun y t hy => hcleared.solves_iff.mp ((hequiv y t).mpr hy)
  · refine .inr ⟨?_, hker⟩
    rw [solve, hrun]
    rfl

end System

variable [DecidableEq F]

def matrixRows (A : Matrix (Fin n) (Fin n) F) : List (List F) :=
  List.ofFn fun i => List.ofFn (A i)

theorem solveLinearSystem_rows (rhs : List F) (A : Matrix (Fin rhs.length) (Fin rhs.length) F) :
    solveLinearSystem (matrixRows A) rhs = (System.solve ⟨A, rhs.get⟩).map List.ofFn := by
  have hsystem : (⟨fun i j => ((matrixRows A).getD i []).getD j 0, fun i => rhs.getD i 0⟩ :
      System F rhs.length) = ⟨A, rhs.get⟩ := by
    congr 1
    · funext i j
      simp [matrixRows]
    · funext i
      simp
  have hrows : ∀ row ∈ matrixRows A, row.length = rhs.length := by
    intro row hrow
    obtain ⟨i, rfl⟩ := List.mem_ofFn.mp hrow
    exact List.length_ofFn
  have hshape : (matrixRows A).length = rhs.length := List.length_ofFn
  simp only [solveLinearSystem, hshape, hsystem, Except.ensure, if_true, if_pos hrows]
  cases System.solve ⟨A, rhs.get⟩ <;> rfl

/-- A square system is answered with its only solution when the matrix is invertible, and
refused when the matrix is singular. -/
theorem solveLinearSystem_unique (rhs : List F) (A : Matrix (Fin rhs.length) (Fin rhs.length) F) :
    (IsUnit A ∧ ∃ x, solveLinearSystem (matrixRows A) rhs = .ok (List.ofFn x) ∧
      A.mulVec x = rhs.get ∧ ∀ y, A.mulVec y = rhs.get → y = x) ∨
    (¬ IsUnit A ∧ solveLinearSystem (matrixRows A) rhs = .error "singular matrix") := by
  have hsolves : ∀ x t, System.Solves ⟨A, rhs.get⟩ x t ↔ A.mulVec x = t • rhs.get :=
    fun x t => funext_iff.symm
  rw [solveLinearSystem_rows, ← Matrix.mulVec_injective_iff_isUnit]
  obtain ⟨x, hrun, hx, hunique⟩ | ⟨hrun, x, hx, hne⟩ := System.solve_cases ⟨A, rhs.get⟩
  · refine .inl ⟨?_, x, by rw [hrun]; rfl, ((hsolves x 1).mp hx).trans (one_smul F _), ?_⟩
    · refine (injective_iff_map_eq_zero A.mulVecLin).mpr fun y hy => ?_
      have hker := hunique y 0 ((hsolves y 0).mpr (hy.trans (zero_smul F _).symm))
      simpa [funext_iff] using hker
    · intro y hy
      simpa using hunique y 1 ((hsolves y 1).mpr (hy.trans (one_smul F _).symm))
  · refine .inr ⟨fun hinj => hne ?_, by rw [hrun]; rfl⟩
    have hzero : A.mulVec x = 0 := ((hsolves x 0).mp hx).trans (zero_smul F _)
    exact hinj (hzero.trans (Matrix.mulVec_zero A).symm)

end CityG.Capss
