import CityG.Lib.BitPack
import Mathlib.Data.List.Lex
import Mathlib.Order.Fin.Basic

/-!
# Byte strings, 32-byte identifiers and machine bounds

`u8` is `Fin 256`. Slices compare byte by byte, first difference first, which
is the order `List` carries here; arrays of 32 bytes inherit it.
-/

namespace CityG

abbrev Byte := Fin 256

abbrev Bytes := List Byte

def U32_MAX : Nat := 4294967295
def U64_MAX : Nat := 18446744073709551615

abbrev Bytes32 := { b : Bytes // b.length = 32 }

instance : LawfulBEq Bytes32 := inferInstance

namespace Bytes32

def zero : Bytes32 := ⟨List.replicate 32 0, by simp⟩

def isZero (b : Bytes32) : Bool := b.val.all (· == 0)

theorem isZero_iff (b : Bytes32) : b.isZero = true ↔ b = zero := by
  obtain ⟨l, hl⟩ := b
  simp only [isZero, List.all_eq_true, beq_iff_eq, zero, Subtype.mk.injEq]
  rw [← hl, List.eq_replicate_iff]
  simp

def fill (x : Byte) : Bytes32 := ⟨List.replicate 32 x, by simp⟩

end Bytes32

end CityG
