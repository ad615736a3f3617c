import CityG.Lib.Traced
import Mathlib.Data.ZMod.Basic
import Mathlib.Tactic.Linarith
import Mathlib.Tactic.Ring

/-!
# Arithmetic modulo q

Coefficients are 16-bit words, reduced lazily. An `i32` that is computed from two such
words never overflows, so it is an integer here; a cast back to 16 bits wraps, and the trace
keeps what was cast and what a debug assertion bounds.
-/

namespace CityG.RlweCore

def Q : Int := 3329

def QINV : Int := 62209

def BARRETT_MU : Int := 20159

inductive Event where
  /-- An `i32` cast to `i16`. -/
  | narrow (wide : Int)
  /-- A debug assertion on an absolute value. -/
  | bounded (value limit : Int)
  deriving DecidableEq, Repr

def Event.Ok : Event → Prop
  | .narrow wide => -2 ^ 15 ≤ wide ∧ wide < 2 ^ 15
  | .bounded value limit => |value| ≤ limit

instance (e : Event) : Decidable e.Ok := by
  cases e <;> unfold Event.Ok <;> infer_instance

abbrev Checked := Traced Event

def asI16 (wide : Int) : Checked Int := ⟨wide.bmod (2 ^ 16), [.narrow wide]⟩

def debugAssertAbs (value limit : Int) : Checked Unit := Traced.emit (.bounded value limit)

def signMask (x mask : Int) : Int := if x < 0 then mask else 0

def montgomeryWide (a : Int) : Int :=
  let u := a * QINV % 2 ^ 16
  let t := u * Q
  let res := (a - t) / 2 ^ 16
  res + signMask res Q

def montgomeryReduce (a : Int) : Checked Int := asI16 (montgomeryWide a)

def fqmul (a b : Int) : Checked Int := montgomeryReduce (a * b)

/-- `barrett_reduce` before its cast. -/
def barrettWide (a : Int) : Int :=
  let t := (BARRETT_MU * a + 2 ^ 25) / 2 ^ 26 * Q
  let a := a - t
  let r := a - Q
  r + signMask r Q

def barrettReduce (a : Int) : Checked Int := do
  debugAssertAbs a (Q * Q - 1)
  asI16 (barrettWide a)

def addWide (a b : Int) : Int :=
  let res := a + b - Q
  res + signMask res Q

def montgomeryAdd (a b : Int) : Checked Int := asI16 (addWide a b)

abbrev Fq := ZMod 3329

theorem Q_cast : ((Q : Int) : Fq) = 0 := by decide

theorem signMask_cast (x : Int) : ((signMask x Q : Int) : Fq) = 0 := by
  unfold signMask
  split
  · exact Q_cast
  · exact Int.cast_zero

theorem signMask_cases (x mask : Int) :
    (x < 0 ∧ signMask x mask = mask) ∨ (0 ≤ x ∧ signMask x mask = 0) := by
  unfold signMask
  split <;> omega

@[simp] theorem all_asI16 {p : Event → Prop} {wide : Int} :
    Traced.All p (asI16 wide) ↔ p (.narrow wide) := List.forall_mem_singleton

theorem asI16_val {wide : Int} (h : (Event.narrow wide).Ok) : (asI16 wide).val = wide := by
  obtain ⟨hlo, hhi⟩ := h
  simp only [asI16, Int.bmod_def]
  split <;> omega

theorem montgomeryWide_cast (a : Int) : (montgomeryWide a : Fq) = a * 169 := by
  have hexact : (a - a * QINV % 2 ^ 16 * Q) / 2 ^ 16 = a * 169 + Q * (a * QINV / 2 ^ 16 - a) := by
    simp only [QINV, Q]
    omega
  simp only [montgomeryWide]
  rw [Int.cast_add, signMask_cast, add_zero, hexact, Int.cast_add, Int.cast_mul, Int.cast_mul,
    Q_cast, zero_mul, add_zero]
  rfl

theorem montgomeryWide_range {a c : Int} (h : |a| ≤ c * 2 ^ 16) :
    -c ≤ montgomeryWide a ∧ (montgomeryWide a ≤ c ∨ montgomeryWide a ≤ 3328) := by
  obtain ⟨hlo, hhi⟩ := abs_le.mp h
  simp only [montgomeryWide]
  obtain ⟨hneg, hmask⟩ | ⟨hpos, hmask⟩ := signMask_cases ((a - a * QINV % 2 ^ 16 * Q) / 2 ^ 16) Q
  · rw [hmask]
    simp only [QINV, Q] at hneg ⊢
    omega
  · rw [hmask]
    simp only [QINV, Q] at hpos ⊢
    omega

theorem barrettWide_cast (a : Int) : (barrettWide a : Fq) = a := by
  simp only [barrettWide, Int.cast_add, Int.cast_sub, Int.cast_mul, signMask_cast, Q_cast,
    mul_zero, sub_zero, add_zero]

theorem barrettWide_range {a : Int} (h : |a| ≤ 2 ^ 17) : |barrettWide a| ≤ 1665 := by
  obtain ⟨hlo, hhi⟩ := abs_le.mp h
  rw [abs_le]
  simp only [barrettWide]
  obtain ⟨hneg, hmask⟩ | ⟨hpos, hmask⟩ :=
    signMask_cases (a - (BARRETT_MU * a + 2 ^ 25) / 2 ^ 26 * Q - Q) Q
  · rw [hmask]
    simp only [BARRETT_MU, Q] at hneg ⊢
    omega
  · simp only [BARRETT_MU, Q] at hpos
    omega

theorem fqmul_spec {a b c : Int} (h : |a * b| ≤ c * 2 ^ 16) (hlo : 3328 ≤ c) (hhi : c < 2 ^ 15) :
    (fqmul a b).All Event.Ok ∧ |(fqmul a b).val| ≤ c ∧ ((fqmul a b).val : Fq) = a * b * 169 := by
  obtain ⟨hge, hle⟩ := montgomeryWide_range h
  have hok : (Event.narrow (montgomeryWide (a * b))).Ok := by
    constructor <;> omega
  have hval : (fqmul a b).val = montgomeryWide (a * b) := asI16_val hok
  refine ⟨all_asI16.mpr hok, ?_, ?_⟩
  · rw [hval, abs_le]
    omega
  · rw [hval, montgomeryWide_cast, Int.cast_mul]

end CityG.RlweCore
