import CityG.Bytes
import CityG.Lib.BitPack
import CityG.Lib.Except
import Mathlib.Algebra.Field.ZMod
import Mathlib.NumberTheory.LucasPrimality
import Mathlib.Tactic.NormNum.Prime
import Mathlib.Tactic.ReduceModChar

/-!
# The field of the proof system

`BaseField` is the prime field of 254 bits that the crate fixes. Elements travel
as 32 little-endian bytes or packed at 254 bits each.
-/

namespace CityG.Capss

/-- How a computation of the proof system ends without a value: an error with its text, a failed
assertion or index, or a loop that never returns. -/
inductive Failure where
  | error (message : String)
  | panic
  | loops
  deriving Repr, DecidableEq

def modulus : Nat :=
  21888242871839275222246405745257275088548364400416034343698204186575808495617

theorem prime_of_factors {p : Nat} (a : ZMod p) (factors : List Nat)
    (hprime : ∀ q ∈ factors, q.Prime) (hprod : factors.prod = p - 1) (ha : a ^ (p - 1) = 1)
    (hne : ∀ q ∈ factors, a ^ ((p - 1) / q) ≠ 1) : p.Prime := by
  refine lucas_primality p a ha fun q hq hdvd => ?_
  rw [← hprod] at hdvd
  obtain ⟨r, hr, hqr⟩ := (Prime.dvd_prod_iff hq.prime).mp hdvd
  rw [(Nat.prime_dvd_prime_iff_eq hq (hprime r hr)).mp hqr]
  exact hne r hr

section Certificates

private theorem prime_405928799 : Nat.Prime 405928799 := by
  refine prime_of_factors 22 [2, 11, 3691, 4999] ?_ (by norm_num) ?_ ?_
  · intro q hq
    fin_cases hq <;> norm_num
  · norm_num
    reduce_mod_char
  · intro q hq
    fin_cases hq <;> norm_num <;> reduce_mod_char <;> decide

private theorem prime_639533339 : Nat.Prime 639533339 := by
  refine prime_of_factors 2 [2, 229, 853, 1637] ?_ (by norm_num) ?_ ?_
  · intro q hq
    fin_cases hq <;> norm_num
  · norm_num
    reduce_mod_char
  · intro q hq
    fin_cases hq <;> norm_num <;> reduce_mod_char <;> decide

private theorem prime_12048837557 : Nat.Prime 12048837557 := by
  refine prime_of_factors 2 [2, 2, 7, 7, 661, 93001] ?_ (by norm_num) ?_ ?_
  · intro q hq
    fin_cases hq <;> norm_num
  · norm_num
    reduce_mod_char
  · intro q hq
    fin_cases hq <;> norm_num <;> reduce_mod_char <;> decide

private theorem prime_5156902474397 : Nat.Prime 5156902474397 := by
  refine prime_of_factors 2 [2, 2, 107, 12048837557] ?_ (by norm_num) ?_ ?_
  · intro q hq
    fin_cases hq <;> first | exact prime_12048837557 | norm_num
  · norm_num
    reduce_mod_char
  · intro q hq
    fin_cases hq <;> norm_num <;> reduce_mod_char <;> decide

private theorem prime_1670836401704629 : Nat.Prime 1670836401704629 := by
  refine prime_of_factors 2 [2, 2, 3, 3, 3, 3, 5156902474397] ?_ (by norm_num) ?_ ?_
  · intro q hq
    fin_cases hq <;> first | exact prime_5156902474397 | norm_num
  · norm_num
    reduce_mod_char
  · intro q hq
    fin_cases hq <;> norm_num <;> reduce_mod_char <;> decide

private theorem prime_65865678001877903 : Nat.Prime 65865678001877903 := by
  refine prime_of_factors 5 [2, 83, 379, 1637, 639533339] ?_ (by norm_num) ?_ ?_
  · intro q hq
    fin_cases hq <;> first | exact prime_639533339 | norm_num
  · norm_num
    reduce_mod_char
  · intro q hq
    fin_cases hq <;> norm_num <;> reduce_mod_char <;> decide

private theorem prime_13818364434197438864469338081 :
    Nat.Prime 13818364434197438864469338081 := by
  refine prime_of_factors 3 [2, 2, 2, 2, 2, 5, 823, 1593227, 65865678001877903] ?_ (by norm_num)
    ?_ ?_
  · intro q hq
    fin_cases hq <;> first | exact prime_65865678001877903 | norm_num
  · norm_num
    reduce_mod_char
  · intro q hq
    fin_cases hq <;> norm_num <;> reduce_mod_char <;> decide

end Certificates

theorem modulus_prime : Nat.Prime modulus := by
  change Nat.Prime
    21888242871839275222246405745257275088548364400416034343698204186575808495617
  refine prime_of_factors 5 (List.replicate 28 2 ++ [3, 3, 13, 29, 983, 11003, 237073, 405928799,
    1670836401704629, 13818364434197438864469338081]) ?_ (by norm_num) ?_ ?_
  · intro q hq
    simp only [List.mem_append, List.mem_replicate] at hq
    obtain ⟨-, rfl⟩ | hq := hq
    · norm_num
    · fin_cases hq <;> first
        | exact prime_405928799
        | exact prime_1670836401704629
        | exact prime_13818364434197438864469338081
        | norm_num
  · norm_num
    reduce_mod_char
  · intro q hq
    simp only [List.mem_append, List.mem_replicate] at hq
    obtain ⟨-, rfl⟩ | hq := hq
    · norm_num
      reduce_mod_char
      decide +kernel
    · fin_cases hq <;> norm_num <;> reduce_mod_char <;> decide +kernel

instance : Fact modulus.Prime := ⟨modulus_prime⟩

abbrev BaseField := ZMod modulus

open BitPack

def bytesToField (bytes : Bytes) : BaseField := (leNat bytes : BaseField)

end CityG.Capss
