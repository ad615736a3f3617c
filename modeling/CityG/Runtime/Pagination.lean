import CityG.Bytes
import CityG.Lib.Except

/-!
# Pages of barrier helper collections
-/

namespace CityG

open Except (ensure)

inductive BarrierPaginationError where
  | maxEntriesExceedsLimit
  | totalEntriesOverflow
  | pageOffsetOutOfRange
  deriving DecidableEq

structure BarrierPage (T : Type) where
  items : List T
  pageOffset : Nat
  nextPageOffset : Option Nat
  totalEntries : Nat
  deriving DecidableEq

def pageLength (maxEntries maxPageEntries : Nat) : Nat :=
  if maxEntries = 0 then maxPageEntries else maxEntries

section
variable {T : Type}

/-- Offsets and lengths fit the machine word, so the conversions of the source
to and from it do not fail. -/
def paginateBarrierHelperSlice (items : List T) (pageOffset maxEntries maxPageEntries : Nat) :
    Except BarrierPaginationError (BarrierPage T) := do
  let pageLen := pageLength maxEntries maxPageEntries
  ensure (pageLen ≠ 0 ∧ pageLen ≤ maxPageEntries) .maxEntriesExceedsLimit
  ensure (items.length ≤ U32_MAX) .totalEntriesOverflow
  if items.length = 0 then do
    ensure (pageOffset = 0) .pageOffsetOutOfRange
    pure ⟨[], 0, none, 0⟩
  else do
    ensure (pageOffset < items.length) .pageOffsetOutOfRange
    let last := min items.length (pageOffset + pageLen)
    pure ⟨(items.take last).drop pageOffset, pageOffset,
      if last < items.length then some last else none, items.length⟩

def followPages (items : List T) (maxEntries maxPageEntries : Nat) :
    Nat → Nat → Option (Except BarrierPaginationError (List T))
  | 0, _ => none
  | fuel + 1, offset =>
    match paginateBarrierHelperSlice items offset maxEntries maxPageEntries with
    | .error e => some (.error e)
    | .ok page =>
      match page.nextPageOffset with
      | none => some (.ok page.items)
      | some next =>
        (followPages items maxEntries maxPageEntries fuel next).map fun rest => do
          pure (page.items ++ (← rest))

variable {items : List T} {maxEntries maxPageEntries : Nat}

theorem paginateBarrierHelperSlice_ok {offset : Nat}
    (hpositive : 0 < pageLength maxEntries maxPageEntries)
    (hlimit : pageLength maxEntries maxPageEntries ≤ maxPageEntries)
    (hlength : items.length ≤ U32_MAX) (hoffset : offset < items.length) :
    paginateBarrierHelperSlice items offset maxEntries maxPageEntries =
      .ok ⟨(items.drop offset).take (pageLength maxEntries maxPageEntries), offset,
        if offset + pageLength maxEntries maxPageEntries < items.length then
          some (offset + pageLength maxEntries maxPageEntries) else none, items.length⟩ := by
  have hitems : (items.take (min items.length (offset + pageLength maxEntries maxPageEntries))).drop
      offset = (items.drop offset).take (pageLength maxEntries maxPageEntries) := by
    rw [List.drop_take, List.take_eq_take_iff, List.length_drop]
    omega
  have hnext : (if min items.length (offset + pageLength maxEntries maxPageEntries) < items.length
        then some (min items.length (offset + pageLength maxEntries maxPageEntries)) else none) =
      if offset + pageLength maxEntries maxPageEntries < items.length then
        some (offset + pageLength maxEntries maxPageEntries) else none := by
    by_cases hlast : offset + pageLength maxEntries maxPageEntries < items.length
    · rw [if_pos hlast, min_eq_right hlast.le, if_pos hlast]
    · rw [if_neg hlast, min_eq_left (not_lt.mp hlast), if_neg (lt_irrefl _)]
  unfold paginateBarrierHelperSlice
  dsimp only
  rw [(Except.ensure_eq_ok (u := ())).mpr ⟨hpositive.ne', hlimit⟩, Except.ok_bind,
    (Except.ensure_eq_ok (u := ())).mpr hlength, Except.ok_bind, if_neg (by omega),
    (Except.ensure_eq_ok (u := ())).mpr hoffset, Except.ok_bind, hitems, hnext]
  rfl

theorem followPages_drop (hpositive : 0 < pageLength maxEntries maxPageEntries)
    (hlimit : pageLength maxEntries maxPageEntries ≤ maxPageEntries)
    (hlength : items.length ≤ U32_MAX) {fuel offset : Nat} (hoffset : offset < items.length)
    (hfuel : items.length < offset + fuel) :
    followPages items maxEntries maxPageEntries fuel offset = some (.ok (items.drop offset)) := by
  induction fuel generalizing offset with
  | zero => omega
  | succ fuel ih =>
    rw [followPages, paginateBarrierHelperSlice_ok hpositive hlimit hlength hoffset]
    by_cases hlast : offset + pageLength maxEntries maxPageEntries < items.length
    · simp only [if_pos hlast]
      rw [ih hlast (by omega)]
      simp only [Option.map_some, Except.ok_bind]
      rw [← List.drop_drop, List.take_append_drop]
      rfl
    · simp only [if_neg hlast]
      rw [List.take_of_length_le (by rw [List.length_drop]; omega)]

theorem followPages_eq (hpositive : 0 < pageLength maxEntries maxPageEntries)
    (hlimit : pageLength maxEntries maxPageEntries ≤ maxPageEntries)
    (hlength : items.length ≤ U32_MAX) {fuel : Nat} (hfuel : items.length < fuel) :
    followPages items maxEntries maxPageEntries fuel 0 = some (.ok items) := by
  cases items with
  | nil =>
    obtain ⟨fuel, rfl⟩ := Nat.exists_eq_add_one.mpr (Nat.zero_lt_of_lt hfuel)
    have hempty : paginateBarrierHelperSlice ([] : List T) 0 maxEntries maxPageEntries =
        .ok ⟨[], 0, none, 0⟩ := by
      unfold paginateBarrierHelperSlice
      dsimp only
      rw [(Except.ensure_eq_ok (u := ())).mpr ⟨hpositive.ne', hlimit⟩]
      rfl
    rw [followPages, hempty]
  | cons item rest =>
    exact followPages_drop hpositive hlimit hlength (by simp) (by omega)

end

end CityG
