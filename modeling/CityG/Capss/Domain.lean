import CityG.Capss.Field
import Mathlib.Data.UInt

/-!
# Points of the evaluation domain

The committed polynomials are evaluated at one, two and so on up to the size of the
domain. The index of a queried point is read off its low 64 bits, without branching on
them.
-/

namespace CityG.Capss

open BitPack

def fieldToBytes (f : BaseField) : Bytes := leBytes 32 f.val

/-- Meant to be one when `raw` is nonzero and `raw - 1` is below `nb`, and zero otherwise. -/
def validMask (raw nb : UInt64) : UInt64 :=
  let idx := raw - 1
  let isZeroMask := (((raw ||| -raw) >>> 63) ^^^ 1) &&& 1
  let nonzeroMask := 1 ^^^ isZeroMask
  let withinMask := (((nb - (idx + 1)) >>> 63) ^^^ 1) &&& 1
  nonzeroMask &&& withinMask

def findIndex (query : BaseField) (nbEvals : UInt64) : Except Failure UInt64 := do
  Except.ensure (nbEvals ≠ 0) (.error "empty evaluation domain")
  let raw := UInt64.ofNat (leNat ((fieldToBytes query).take 8))
  Except.ensure (validMask raw nbEvals ≠ 0) (.error "query outside evaluation domain")
  pure (raw - 1)

theorem toNat_shiftRight_63 (x : UInt64) : (x >>> 63).toNat = x.toNat / 2 ^ 63 := by
  rw [UInt64.toNat_shiftRight, show (63 : UInt64).toNat % 64 = 63 from rfl,
    Nat.shiftRight_eq_div_pow]

theorem shiftRight_63_cases (x : UInt64) :
    (x.toNat < 2 ^ 63 ∧ x >>> 63 = 0) ∨ (2 ^ 63 ≤ x.toNat ∧ x >>> 63 = 1) := by
  have hlt := x.toNat_lt
  by_cases h : x.toNat < 2 ^ 63
  · refine .inl ⟨h, UInt64.toNat_inj.mp ?_⟩
    rw [toNat_shiftRight_63, Nat.div_eq_of_lt h]
    rfl
  · refine .inr ⟨not_lt.mp h, UInt64.toNat_inj.mp ?_⟩
    rw [toNat_shiftRight_63]
    change _ = 1
    omega

theorem or_neg_high {raw : UInt64} (hraw : raw ≠ 0) : (raw ||| -raw) >>> 63 = 1 := by
  have hpos : 0 < raw.toNat := Nat.pos_of_ne_zero fun h => hraw (UInt64.toNat_inj.mp h)
  have hneg : (-raw).toNat = 2 ^ 64 - raw.toNat := by
    rw [UInt64.toNat_neg]
    exact Nat.mod_eq_of_lt (by simp only [UInt64.size]; omega)
  have hle : raw.toNat ≤ (raw ||| -raw).toNat := by
    rw [UInt64.toNat_or]
    exact Nat.left_le_or
  have hle' : (-raw).toNat ≤ (raw ||| -raw).toNat := by
    rw [UInt64.toNat_or]
    exact Nat.right_le_or
  -- One of a word and its negation has the top bit.
  obtain ⟨hlow, -⟩ | ⟨-, hhigh⟩ := shiftRight_63_cases (raw ||| -raw)
  · omega
  · exact hhigh

/-- The masks accept a word when `nb - raw` has no top bit, so also when the difference wraps
around far enough. -/
theorem validMask_ne_zero_iff (raw nb : UInt64) :
    validMask raw nb ≠ 0 ↔ raw ≠ 0 ∧ (nb - raw).toNat < 2 ^ 63 := by
  have hidx : raw - 1 + 1 = raw := by simp
  simp only [validMask, hidx]
  by_cases hraw : raw = 0
  · subst hraw
    simp
  · rw [or_neg_high hraw]
    obtain ⟨hlow, hbit⟩ | ⟨hhigh, hbit⟩ := shiftRight_63_cases (nb - raw)
    · rw [hbit]
      exact iff_of_true (by decide) ⟨hraw, hlow⟩
    · rw [hbit]
      exact iff_of_false (by decide) fun h => absurd h.2 (not_lt.mpr hhigh)

/-- What a successful lookup has seen: only the low 64 bits of the point, and of their
distance to the size of the domain only the top bit. -/
theorem findIndex_eq_ok {query : BaseField} {nbEvals i : UInt64} :
    findIndex query nbEvals = .ok i ↔ nbEvals ≠ 0 ∧ query.val % 2 ^ 64 = i.toNat + 1 ∧
      (i.toNat < nbEvals.toNat ∧ nbEvals.toNat ≤ i.toNat + 2 ^ 63 ∨
        nbEvals.toNat + 2 ^ 63 ≤ i.toNat) := by
  have hraw : leNat ((fieldToBytes query).take 8) = query.val % 2 ^ 64 :=
    leNat_take_leBytes (by decide) _
  obtain ⟨raw, hval⟩ : ∃ raw : UInt64, raw.toNat = query.val % 2 ^ 64 :=
    ⟨UInt64.ofNat (query.val % 2 ^ 64), UInt64.toNat_ofNat_of_lt' (Nat.mod_lt _ (by decide))⟩
  have hword : UInt64.ofNat (query.val % 2 ^ 64) = raw := by rw [← hval, UInt64.ofNat_toNat]
  have hsub : (nbEvals - raw).toNat =
      if raw.toNat ≤ nbEvals.toNat then nbEvals.toNat - raw.toNat
      else 2 ^ 64 - raw.toNat + nbEvals.toNat := by
    have hr := raw.toNat_lt
    have hn := nbEvals.toNat_lt
    rw [UInt64.toNat_sub]
    split <;> omega
  have hpred : ∀ j : UInt64, raw ≠ 0 → (raw - 1 = j ↔ raw.toNat = j.toNat + 1) := by
    intro j hne
    have hpos : 0 < raw.toNat := Nat.pos_of_ne_zero fun h => hne (UInt64.toNat_inj.mp h)
    have hone : (1 : UInt64) ≤ raw := UInt64.le_iff_toNat_le.mpr hpos
    rw [← UInt64.toNat_inj, UInt64.toNat_sub_of_le _ _ hone]
    change raw.toNat - 1 = _ ↔ _
    omega
  simp only [findIndex, hraw, hword, Except.bind_eq_ok, Except.ensure_eq_ok, Except.pure_eq_ok,
    validMask_ne_zero_iff, hsub]
  rw [← hval]
  have hi := i.toNat_lt
  constructor
  · rintro ⟨_, hnb, _, ⟨hne, hdiff⟩, hidx⟩
    have heq := (hpred i hne).mp hidx
    refine ⟨hnb, heq, ?_⟩
    split at hdiff <;> omega
  · rintro ⟨hnb, heq, hrange⟩
    have hne : raw ≠ 0 := fun h => by subst h; simp at heq
    refine ⟨(), hnb, (), ⟨hne, ?_⟩, (hpred i hne).mpr heq⟩
    split <;> omega

/-- The lookup gives the index of the point in the domain, or none, exactly when the point has
at most the size of the domain as its value, or the word that is looked at is refused. -/
theorem findIndex_names_point_iff (query : BaseField) (nbEvals : UInt64) :
    (∀ i, findIndex query nbEvals = .ok i →
      i < nbEvals ∧ query = ((i.toNat + 1 : Nat) : BaseField)) ↔
    nbEvals = 0 ∨ query.val ≤ nbEvals.toNat ∨ query.val % 2 ^ 64 = 0 ∨
      (nbEvals.toNat < query.val % 2 ^ 64 ∧ query.val % 2 ^ 64 ≤ nbEvals.toNat + 2 ^ 63) ∨
      query.val % 2 ^ 64 + 2 ^ 63 ≤ nbEvals.toNat := by
  have hmod : 2 ^ 64 < modulus := by norm_num [modulus]
  have hnb := nbEvals.toNat_lt
  constructor
  · intro h
    by_contra hcond
    obtain ⟨hne, hgt, hpos, hmiss, hfar⟩ := not_or.mp hcond |>.imp_right fun h => by
      simpa only [not_or] using h
    have hraw : query.val % 2 ^ 64 - 1 < 2 ^ 64 := by omega
    have hidx : (UInt64.ofNat (query.val % 2 ^ 64 - 1)).toNat = query.val % 2 ^ 64 - 1 :=
      UInt64.toNat_ofNat_of_lt' hraw
    obtain ⟨hlt, hpoint⟩ := h (UInt64.ofNat (query.val % 2 ^ 64 - 1))
      (findIndex_eq_ok.mpr ⟨hne, by omega, by omega⟩)
    have hval := congrArg ZMod.val hpoint
    rw [UInt64.lt_iff_toNat_lt] at hlt
    rw [ZMod.val_natCast, Nat.mod_eq_of_lt (by omega)] at hval
    omega
  · intro hcond i hi
    obtain ⟨hne, hraw, hrange⟩ := findIndex_eq_ok.mp hi
    obtain hzero | hle | hrest := hcond
    · exact absurd hzero hne
    · have hval : query.val = i.toNat + 1 := by
        rw [← hraw, Nat.mod_eq_of_lt (lt_of_le_of_lt hle hnb)]
      refine ⟨UInt64.lt_iff_toNat_lt.mpr (by omega), ?_⟩
      rw [← hval, ZMod.natCast_zmod_val]
    · omega

/-- A point whose low 64 bits are those of the first point of the domain, and one whose low 64
bits lie beyond the domain by more than half their range. -/
theorem findIndex_outside_domain :
    findIndex (2 ^ 64 + 1) 16 = .ok 0 ∧ (2 ^ 64 + 1 : BaseField) ≠ 1 ∧
    findIndex (2 ^ 63 + 17) 16 = .ok (2 ^ 63 + 16) ∧ ¬ (2 ^ 63 + 16 : UInt64) < 16 := by
  decide +kernel

end CityG.Capss
