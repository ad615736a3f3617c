import CityG.Lib.BitPack
import Mathlib.Tactic.Common

/-!
# Length-prefixed frames

A frame is the entry's length in `w` little-endian bytes followed by the entry.
Lengths wrap at `256 ^ w`, as the machine conversion does.
-/

namespace Frames

abbrev Octets := List (Fin 256)

def toLE : Nat → Nat → Octets
  | 0, _ => []
  | w + 1, n => Fin.ofNat 256 n :: toLE w (n / 256)

def ofLE : Octets → Nat
  | [] => 0
  | b :: bs => b.val + 256 * ofLE bs

@[simp] theorem toLE_length (w n : Nat) : (toLE w n).length = w := by
  induction w generalizing n with
  | zero => rfl
  | succ w ih => simp [toLE, ih]

theorem ofLE_toLE (w n : Nat) (h : n < 256 ^ w) : ofLE (toLE w n) = n := by
  induction w generalizing n with
  | zero =>
    have hn : n = 0 := by simpa using h
    rw [hn]
    rfl
  | succ w ih =>
    have hdiv : n / 256 < 256 ^ w := by
      apply Nat.div_lt_of_lt_mul
      rwa [Nat.pow_succ, Nat.mul_comm] at h
    simp only [toLE, ofLE, ih _ hdiv, Fin.val_ofNat]
    omega

def frame (w : Nat) (entry : Octets) : Octets := toLE w entry.length ++ entry

@[simp] theorem frame_length (w : Nat) (entry : Octets) :
    (frame w entry).length = w + entry.length := by
  simp [frame]

/-- Read frames until the buffer holds no complete one. Every round takes at
least the length bytes off the buffer. -/
def parse (w : Nat) : Nat → Octets → List Octets
  | 0, _ => []
  | n + 1, buf =>
    if w ≤ buf.length then
      let len := ofLE (buf.take w)
      let rest := buf.drop w
      if rest.length < len then [] else rest.take len :: parse w n (rest.drop len)
    else []

theorem parse_fuel {w : Nat} (hw : 0 < w) {n m : Nat} {buf : Octets} (hn : buf.length ≤ n)
    (hm : buf.length ≤ m) : parse w n buf = parse w m buf := by
  induction n generalizing m buf with
  | zero =>
    have hshort : ¬ w ≤ buf.length := by omega
    cases m <;> simp [parse, hshort]
  | succ n ih =>
    cases m with
    | zero =>
      have hshort : ¬ w ≤ buf.length := by omega
      simp [parse, hshort]
    | succ m =>
      simp only [parse]
      split
      · split
        · rfl
        · rw [ih (m := m) (by simp; omega) (by simp; omega)]
      · rfl

theorem parse_frame {w : Nat} (n : Nat) (entry rest : Octets) (h : entry.length < 256 ^ w) :
    parse w (n + 1) (frame w entry ++ rest) = entry :: parse w n rest := by
  have htake : (frame w entry ++ rest).take w = toLE w entry.length := by
    simp [frame, List.append_assoc]
  have hdrop : (frame w entry ++ rest).drop w = entry ++ rest := by
    simp [frame, List.append_assoc]
  have hlen : w ≤ (frame w entry ++ rest).length := by simp; omega
  simp only [parse, hlen, if_true, htake, hdrop, ofLE_toLE w _ h]
  simp

theorem parse_torn {w : Nat} (n k : Nat) (entry : Octets) (h : entry.length < 256 ^ w)
    (hk : k < (frame w entry).length) : parse w n ((frame w entry).take k) = [] := by
  cases n with
  | zero => rfl
  | succ n =>
    simp only [parse]
    split
    · next hw =>
        rw [List.length_take] at hw
        have htake : ((frame w entry).take k).take w = toLE w entry.length := by
          rw [List.take_take, Nat.min_eq_left (by omega)]
          simp [frame]
        have hshort : (((frame w entry).take k).drop w).length < entry.length := by
          simp only [frame_length] at hk
          simp only [List.length_drop, List.length_take, frame_length]
          omega
        rw [htake, ofLE_toLE w _ h, if_pos hshort]
    · rfl

def frames (w : Nat) (entries : List Octets) : Octets := entries.flatMap (frame w)

theorem parse_frames {w : Nat} (n : Nat) (entries : List Octets) (tail : Octets)
    (hlen : ∀ e ∈ entries, e.length < 256 ^ w) (htail : ∀ m, parse w m tail = [])
    (hn : entries.length ≤ n) : parse w n (frames w entries ++ tail) = entries := by
  induction entries generalizing n with
  | nil => exact htail n
  | cons e rest ih =>
    cases n with
    | zero => simp at hn
    | succ n =>
      simp only [frames, List.flatMap_cons, List.append_assoc]
      rw [parse_frame n e _ (hlen e (by simp))]
      exact congrArg (e :: ·) (ih n (fun e he => hlen e (by simp [he])) (by simpa using hn))

theorem length_le_frames {w : Nat} (hw : 0 < w) (entries : List Octets) :
    entries.length ≤ (frames w entries).length := by
  induction entries with
  | nil => simp
  | cons e rest ih =>
    simp only [frames, List.flatMap_cons, List.length_append, frame_length,
      List.length_cons] at ih ⊢
    omega

end Frames
