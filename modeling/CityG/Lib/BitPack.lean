import Mathlib.Data.List.GetD
import Mathlib.Data.Nat.Bitwise

/-!
# Numbers as bytes

Little-endian bytes, and values of a fixed bit width packed one after the other
without padding between them.
-/

/-- The numerals of an octet. -/
instance octets : NeZero 256 := ⟨by decide⟩

namespace BitPack

def leBytes (width n : Nat) : List (Fin 256) :=
  (List.range width).map fun i => Fin.ofNat 256 (n / 256 ^ i)

def leNat : List (Fin 256) → Nat
  | [] => 0
  | b :: bytes => b.val + 256 * leNat bytes

theorem leBytes_succ (width n : Nat) :
    leBytes (width + 1) n = Fin.ofNat 256 n :: leBytes width (n / 256) := by
  rw [leBytes, List.range_succ_eq_map, leBytes]
  simp [Nat.pow_succ', Nat.div_div_eq_div_mul, Function.comp_def]

theorem leNat_leBytes (width n : Nat) : leNat (leBytes width n) = n % 256 ^ width := by
  induction width generalizing n with
  | zero => simp [leBytes, leNat, Nat.mod_one]
  | succ width ih =>
    rw [leBytes_succ, leNat, ih, Nat.pow_succ', Nat.mod_mul]
    rfl

theorem leNat_take_leBytes {k width : Nat} (hk : k ≤ width) (n : Nat) :
    leNat ((leBytes width n).take k) = n % 256 ^ k := by
  rw [← leNat_leBytes, leBytes, ← List.map_take, List.take_range, Nat.min_eq_left hk]
  rfl

end BitPack
