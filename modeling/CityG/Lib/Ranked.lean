import Mathlib.Data.List.Sort

/-!
# The first elements of a sorted list

An element is among the first `n` of the sorted list exactly when fewer than `n`
others come before it.
-/

namespace List

variable {α : Type*} [DecidableEq α] {r : α → α → Prop} [DecidableRel r]

def othersBefore (r : α → α → Prop) [DecidableRel r] (l : List α) (a : α) : List α :=
  l.filter fun b => r b a ∧ b ≠ a

theorem mem_take_of_pairwise {l : List α} (hsorted : l.Pairwise r) (hnodup : l.Nodup)
    (hantisymm : ∀ a ∈ l, ∀ b ∈ l, r a b → r b a → a = b) {n : Nat} {a : α} :
    a ∈ l.take n ↔ a ∈ l ∧ (l.othersBefore r a).length < n := by
  induction l generalizing n with
  | nil => simp
  | cons x l ih =>
    obtain ⟨hhead, htail⟩ := pairwise_cons.mp hsorted
    obtain ⟨hx, hnodup⟩ := nodup_cons.mp hnodup
    have ih := @ih htail hnodup
      fun a ha b hb => hantisymm a (mem_cons_of_mem x ha) b (mem_cons_of_mem x hb)
    cases n with
    | zero => simp
    | succ n =>
      by_cases hax : a = x
      · subst hax
        have hnone : (a :: l).othersBefore r a = [] := by
          refine filter_eq_nil_iff.mpr fun b hb => ?_
          simp only [decide_eq_true_eq, not_and, not_not]
          intro hba
          rcases mem_cons.mp hb with rfl | hb
          · rfl
          · exact hantisymm b (mem_cons_of_mem a hb) a mem_cons_self hba (hhead b hb)
        simp [hnone]
      · have hcount : a ∈ l → (x :: l).othersBefore r a = x :: l.othersBefore r a :=
          fun ha => filter_cons_of_pos (by simpa [Ne.symm hax] using hhead a ha)
        rw [take_succ_cons, mem_cons, mem_cons, or_iff_right hax, or_iff_right hax, ih]
        refine and_congr_right fun ha => ?_
        rw [hcount ha, length_cons, Nat.add_lt_add_iff_right]

theorem mem_take_insertionSort [Std.Total r] [IsTrans α r] {l : List α} (hnodup : l.Nodup)
    (hantisymm : ∀ a ∈ l, ∀ b ∈ l, r a b → r b a → a = b) {n : Nat} {a : α} :
    a ∈ (l.insertionSort r).take n ↔ a ∈ l ∧ (l.othersBefore r a).length < n := by
  have hperm := perm_insertionSort r l
  rw [mem_take_of_pairwise (pairwise_insertionSort r l) (hperm.nodup_iff.mpr hnodup)
    (fun a ha b hb => hantisymm a (hperm.mem_iff.mp ha) b (hperm.mem_iff.mp hb)), hperm.mem_iff,
    othersBefore, (hperm.filter _).length_eq, othersBefore]

end List
