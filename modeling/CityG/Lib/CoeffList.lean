import Mathlib.Data.List.GetD
import Mathlib.LinearAlgebra.Vandermonde
import Mathlib.Tactic.LinearCombination

/-!
# Vectors and polynomials as lists

A list of ring elements is a vector, or a polynomial with its constant term
first. Entries past the end of a list read as zero.
-/

namespace CoeffList

variable {F : Type*}

section Ring

variable [CommRing F]

def dot (a b : List F) : F := (List.zipWith (· * ·) a b).sum

@[simp] theorem dot_nil_left (b : List F) : dot [] b = 0 := by simp [dot]

@[simp] theorem dot_nil_right (a : List F) : dot a [] = 0 := by simp [dot]

@[simp] theorem dot_cons (x y : F) (a b : List F) : dot (x :: a) (y :: b) = x * y + dot a b := by
  simp [dot]

theorem dot_comm (a b : List F) : dot a b = dot b a := by
  rw [dot, dot, List.zipWith_comm]
  simp only [mul_comm]

theorem dot_append {a b : List F} (c d : List F) (h : a.length = b.length) :
    dot (a ++ c) (b ++ d) = dot a b + dot c d := by
  rw [dot, List.zipWith_append h, List.sum_append]
  rfl

@[simp] theorem dot_replicate_zero (n : Nat) (b : List F) : dot (List.replicate n 0) b = 0 := by
  induction n generalizing b with
  | zero => simp
  | succ n ih => cases b <;> simp [List.replicate_succ, ih]

def powers (x : F) (n : Nat) : List F := (List.range n).map (x ^ ·)

@[simp] theorem length_powers (x : F) (n : Nat) : (powers x n).length = n := by simp [powers]

theorem powers_succ (x : F) (n : Nat) : powers x (n + 1) = 1 :: (powers x n).map (x * ·) := by
  rw [powers, List.range_succ_eq_map, powers]
  simp [pow_succ', Function.comp_def]

def eval (coeffs : List F) (x : F) : F := dot coeffs (powers x coeffs.length)

theorem dot_map_mul (a b : List F) (x : F) : dot a (b.map (x * ·)) = x * dot a b := by
  induction a generalizing b with
  | nil => simp
  | cons y a ih =>
    cases b with
    | nil => simp
    | cons z b =>
      rw [List.map_cons, dot_cons, dot_cons, ih]
      ring

@[simp] theorem eval_nil (x : F) : eval [] x = 0 := by simp [eval]

@[simp] theorem eval_cons (a : F) (coeffs : List F) (x : F) :
    eval (a :: coeffs) x = a + x * eval coeffs x := by
  rw [eval, List.length_cons, powers_succ, dot_cons, dot_map_mul, mul_one]
  rfl

theorem eval_append (a b : List F) (x : F) :
    eval (a ++ b) x = eval a x + x ^ a.length * eval b x := by
  induction a with
  | nil => simp
  | cons y a ih =>
    rw [List.cons_append, eval_cons, ih, eval_cons, List.length_cons, pow_succ]
    ring

theorem eval_take_add_drop (coeffs : List F) (n : Nat) (x : F) :
    eval coeffs x = eval (coeffs.take n) x + x ^ n * eval (coeffs.drop n) x := by
  by_cases hn : n ≤ coeffs.length
  · nth_rewrite 1 [← List.take_append_drop n coeffs]
    rw [eval_append, List.length_take, min_eq_left hn]
  · rw [List.take_of_length_le (by omega), List.drop_of_length_le (by omega), eval_nil, mul_zero,
      add_zero]

@[simp] theorem eval_replicate_zero (n : Nat) (x : F) : eval (List.replicate n 0) x = 0 := by
  induction n with
  | zero => simp
  | succ n ih => simp [List.replicate_succ, ih]

def addScaled (coeff : F) : List F → List F → List F
  | a :: acc, r :: row => (a + coeff * r) :: addScaled coeff acc row
  | acc, _ => acc

@[simp] theorem addScaled_nil (coeff : F) (acc : List F) : addScaled coeff acc [] = acc := by
  cases acc <;> rfl

@[simp] theorem length_addScaled (coeff : F) (acc row : List F) :
    (addScaled coeff acc row).length = acc.length := by
  induction acc generalizing row with
  | nil => rfl
  | cons a acc ih =>
    cases row with
    | nil => rfl
    | cons r row => simp [addScaled, ih]

theorem addScaled_append {coeff : F} {acc row : List F} (h : row.length ≤ acc.length) (rest : List F) :
    addScaled coeff (acc ++ rest) row = addScaled coeff acc row ++ rest := by
  induction acc generalizing row with
  | nil =>
    rw [List.eq_nil_of_length_eq_zero (Nat.le_zero.mp h)]
    simp
  | cons a acc ih =>
    cases row with
    | nil => simp
    | cons r row => simp [addScaled, ih (Nat.le_of_succ_le_succ h)]

theorem eval_addScaled {coeff : F} {acc row : List F} (h : row.length ≤ acc.length) (x : F) :
    eval (addScaled coeff acc row) x = eval acc x + coeff * eval row x := by
  induction acc generalizing row with
  | nil =>
    rw [List.eq_nil_of_length_eq_zero (Nat.le_zero.mp h)]
    simp [addScaled]
  | cons a acc ih =>
    cases row with
    | nil => simp
    | cons r row =>
      rw [addScaled, eval_cons, ih (Nat.le_of_succ_le_succ h), eval_cons, eval_cons]
      ring

theorem getD_addScaled {coeff : F} {acc row : List F} (h : row.length ≤ acc.length) (i : Nat) :
    (addScaled coeff acc row).getD i 0 = acc.getD i 0 + coeff * row.getD i 0 := by
  induction acc generalizing row i with
  | nil =>
    rw [List.eq_nil_of_length_eq_zero (Nat.le_zero.mp h)]
    simp [addScaled]
  | cons a acc ih =>
    cases row with
    | nil => simp
    | cons r row =>
      cases i with
      | zero => simp [addScaled]
      | succ i => simpa [addScaled] using ih (Nat.le_of_succ_le_succ h) i

def combine (start : List F) (coeffs : List F) (rows : List (List F)) : List F :=
  (coeffs.zip rows).foldl (fun acc term => addScaled term.1 acc term.2) start

@[simp] theorem combine_nil (start : List F) (rows : List (List F)) :
    combine start [] rows = start := rfl

@[simp] theorem combine_rows_nil (start coeffs : List F) : combine start coeffs [] = start := by
  simp [combine]

theorem combine_cons (start : List F) (c : F) (coeffs row : List F) (rows : List (List F)) :
    combine start (c :: coeffs) (row :: rows) = combine (addScaled c start row) coeffs rows := rfl

@[simp] theorem length_combine (start coeffs : List F) (rows : List (List F)) :
    (combine start coeffs rows).length = start.length := by
  induction coeffs generalizing start rows with
  | nil => rfl
  | cons c coeffs ih =>
    cases rows with
    | nil => simp
    | cons row rows => rw [combine_cons, ih, length_addScaled]

theorem read_combine (read : List F → F) {n : Nat}
    (hread : ∀ coeff acc row, acc.length = n → row.length ≤ n →
      read (addScaled coeff acc row) = read acc + coeff * read row)
    {start coeffs : List F} {rows : List (List F)} (hstart : start.length = n)
    (hrows : ∀ row ∈ rows, row.length ≤ n) :
    read (combine start coeffs rows) = read start + dot coeffs (rows.map read) := by
  induction coeffs generalizing start rows with
  | nil => simp
  | cons c coeffs ih =>
    cases rows with
    | nil => simp
    | cons row rows =>
      have hrow := hrows row List.mem_cons_self
      rw [combine_cons, ih (by rw [length_addScaled, hstart])
        (fun r hr => hrows r (List.mem_cons_of_mem _ hr)), hread c start row hstart hrow,
        List.map_cons, dot_cons]
      ring

theorem getD_combine {start coeffs : List F} {rows : List (List F)}
    (hrows : ∀ row ∈ rows, row.length ≤ start.length) (i : Nat) :
    (combine start coeffs rows).getD i 0 =
      start.getD i 0 + dot coeffs (rows.map (·.getD i 0)) :=
  read_combine (·.getD i 0)
    (fun _ _ _ hacc hrow => getD_addScaled (hacc ▸ hrow) i) rfl hrows

end Ring

section Field

variable [Field F]

end Field

end CoeffList
