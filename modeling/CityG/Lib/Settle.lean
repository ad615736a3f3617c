import Mathlib.Logic.Function.Iterate
import Mathlib.Tactic.Common

/-!
# Searching for a fixed point in a bounded number of rounds

A loop feeds a map its own last value and stops as soon as the value repeats.
When the rounds run out, the last value was computed from another argument.
-/

namespace Function

variable {α : Type*} [DecidableEq α]

def settle (f : α → α) : Nat → α → α × α
  | 0, a => (a, f a)
  | n + 1, a => if f a = a then (a, f a) else settle f n (f a)

variable {f : α → α}

theorem settle_snd (n : Nat) (a : α) : (settle f n a).2 = f (settle f n a).1 := by
  induction n generalizing a with
  | zero => rfl
  | succ n ih =>
    unfold settle
    split
    · rfl
    · exact ih (f a)

theorem settle_agrees_iff (n : Nat) (a : α) :
    (settle f n a).1 = (settle f n a).2 ↔ ∃ i ≤ n, f (f^[i] a) = f^[i] a := by
  induction n generalizing a with
  | zero =>
    simp only [settle, Nat.le_zero, exists_eq_left, iterate_zero, id_eq]
    exact eq_comm
  | succ n ih =>
    unfold settle
    split
    · next hfixed => exact ⟨fun _ => ⟨0, Nat.zero_le _, hfixed⟩, fun _ => hfixed.symm⟩
    · next hmoved =>
        rw [ih (f a)]
        constructor
        · rintro ⟨i, hi, h⟩
          exact ⟨i + 1, Nat.succ_le_succ hi, h⟩
        · rintro ⟨i, hi, h⟩
          -- The first candidate moved, so the fixed one comes later.
          cases i with
          | zero => exact absurd h hmoved
          | succ i => exact ⟨i, Nat.le_of_succ_le_succ hi, h⟩

end Function
