import CityG.BarrierCover
import CityG.BarrierHash
import CityG.BarrierUpdate

/-!
# The key tree at the client

The client has its own copies of the tree functions. Where the server trusts its
indices they check the range.
-/

namespace CityG

structure ClientError where
  message : String
  deriving DecidableEq

namespace Client

open Except (ensure ofOption)

def ascii (literal : String) : Bytes := literal.toList.map fun c => Fin.ofNat 256 c.toNat

def PUBLIC_KEY_BYTES : Nat := 1184
def CIPHERTEXT_BYTES : Nat := 1088

def validateBarrierNMax (nMax : Nat) : Except ClientError Nat := do
  ensure (isPowerOfTwo nMax) ⟨"barrier n_max must be a non-zero power of two"⟩
  ensure (nMax ≤ MAX_BARRIER_N_MAX) ⟨"barrier n_max exceeds MAX_BARRIER_N_MAX"⟩
  pure nMax

def barrierPathNodes (nMax updaterSlotIndex : Nat) : Except ClientError (List Nat) := do
  let nMax ← validateBarrierNMax nMax
  ensure (updaterSlotIndex < nMax) ⟨"invalid barrier update tree parameters"⟩
  pure (directPathNodes (leafNode nMax updaterSlotIndex))

structure ValidNMax (nMax : Nat) : Prop where
  powerOfTwo : isPowerOfTwo nMax = true
  bounded : nMax ≤ MAX_BARRIER_N_MAX

theorem validateBarrierNMax_eq_ok {nMax n : Nat} :
    validateBarrierNMax nMax = .ok n ↔ ValidNMax nMax ∧ nMax = n := by
  simp only [validateBarrierNMax, Except.bind_eq_ok, Except.ensure_eq_ok, Except.pure_eq_ok]
  constructor
  · rintro ⟨_, hpower, _, hbound, rfl⟩
    exact ⟨⟨hpower, hbound⟩, rfl⟩
  · rintro ⟨⟨hpower, hbound⟩, rfl⟩
    exact ⟨(), hpower, (), hbound, rfl⟩

namespace ValidNMax
variable {nMax : Nat} (h : ValidNMax nMax)
include h

theorem validate : validateBarrierNMax nMax = .ok nMax := validateBarrierNMax_eq_ok.mpr ⟨h, rfl⟩

theorem pathNodes {slot : Nat} (hslot : slot < nMax) :
    barrierPathNodes nMax slot = .ok (directPathNodes (leafNode nMax slot)) := by
  rw [barrierPathNodes, h.validate, Except.ok_bind, ensure, if_pos hslot]
  rfl

end ValidNMax

end Client

end CityG
