import Mathlib.Data.List.GetD

/-!
# Lists of rows of one length
-/

namespace Rows

theorem getD_map_of_lt {α β : Type*} {f : α → β} {l : List α} {i : Nat} (hi : i < l.length) (d : β) :
    (l.map f).getD i d = f l[i] := by
  rw [List.getD_eq_getElem _ _ (by simpa using hi), List.getElem_map]

theorem length_flatten_of_forall {α : Type*} {rows : List (List α)} {size : Nat}
    (h : ∀ row ∈ rows, row.length = size) : rows.flatten.length = rows.length * size := by
  induction rows with
  | nil => simp
  | cons row rows ih =>
    rw [List.flatten_cons, List.length_append, h row List.mem_cons_self,
      ih fun r hr => h r (List.mem_cons_of_mem _ hr), List.length_cons, Nat.succ_mul, Nat.add_comm]

theorem flatMap_range_blocks {α : Type*} (f : Nat → α) (count size : Nat) :
    ((List.range count).flatMap fun k => (List.range size).map fun i => f (k * size + i)) =
      (List.range (count * size)).map f := by
  induction count with
  | zero => simp
  | succ count ih =>
    rw [List.range_succ, List.flatMap_append, ih, Nat.succ_mul, List.range_add, List.map_append,
      List.map_map]
    simp [Function.comp_def]

theorem getD_flatMap_range {α β : Type*} (f : α → Nat → β) (l : List α) {size i k : Nat}
    (hi : i < l.length) (hk : k < size) (d : β) :
    (l.flatMap fun a => (List.range size).map (f a)).getD (i * size + k) d = f l[i] k := by
  induction l generalizing i with
  | nil => exact absurd hi (Nat.not_lt_zero _)
  | cons a l ih =>
    rw [List.flatMap_cons]
    cases i with
    | zero =>
      rw [Nat.zero_mul, Nat.zero_add, List.getD_append _ _ _ _ (by simpa using hk),
        getD_map_of_lt (by simpa using hk)]
      simp
    | succ i =>
      rw [List.getD_append_right _ _ _ _ (by simp [Nat.succ_mul]; omega), List.length_map,
        List.length_range, show (i + 1) * size + k - size = i * size + k by
          rw [Nat.succ_mul]; omega, ih (Nat.lt_of_succ_lt_succ hi), List.getElem_cons_succ]

theorem take_map_range_getD {α β : Type*} (f : α → β) (l : List α) (d : α) {n : Nat}
    (hn : l.length ≤ n) : (((List.range n).map fun i => f (l.getD i d)).take l.length) = l.map f := by
  refine List.ext_getElem (by simp [hn]) fun i hi hi' => ?_
  have hlt : i < l.length := by simpa using hi'
  rw [List.getElem_take, List.getElem_map, List.getElem_range, List.getElem_map,
    List.getD_eq_getElem _ _ hlt]

end Rows
