import CityG.Lib.OrdMap
import Mathlib.Data.List.MinMax
import Mathlib.Data.List.Nodup

/-!
# Evicting the oldest entries of a map

Entries carry a stamp. While the map is too large, the entry with the least stamp
goes, the first in key order among equals. What is left is the entries that few
others are newer than.
-/

namespace OrdMap

variable {K V : Type*} [LinearOrder K] (stamp : V → Nat)

def oldest (m : OrdMap K V) : Option (K × V) := m.entries.argmin (stamp ·.2)

def evictLoop (limit : Nat) : Nat → OrdMap K V → OrdMap K V
  | 0, m => m
  | fuel + 1, m =>
    if m.size > limit then
      match m.oldest stamp with
      | none => m
      | some e => evictLoop limit fuel (m.erase e.1)
    else m

def evict (limit : Nat) (m : OrdMap K V) : OrdMap K V := evictLoop stamp limit m.size m

def Older (a b : K × V) : Prop := stamp a.2 < stamp b.2 ∨ stamp a.2 = stamp b.2 ∧ a.1 < b.1

instance (a b : K × V) : Decidable (Older stamp a b) :=
  inferInstanceAs (Decidable (_ ∨ _ ∧ _))

def newerCount (m : OrdMap K V) (a : K × V) : Nat :=
  (m.entries.filter fun b => Older stamp a b).length

variable {stamp}

theorem Older.irrefl (a : K × V) : ¬Older stamp a a := by
  rintro (h | ⟨-, h⟩) <;> exact lt_irrefl _ h

variable {a b e : K × V} {m : OrdMap K V}

theorem Older.asymm (h : Older stamp a b) : ¬Older stamp b a := by
  rcases h with h | ⟨heq, h⟩
  · rintro (h' | ⟨heq', -⟩) <;> omega
  · rintro (h' | ⟨-, h'⟩)
    · omega
    · exact lt_asymm h h'

theorem Older.trans {c : K × V} (hab : Older stamp a b) (hbc : Older stamp b c) :
    Older stamp a c := by
  rcases hab with hab | ⟨hab, hkab⟩ <;> rcases hbc with hbc | ⟨hbc, hkbc⟩
  · exact .inl (hab.trans hbc)
  · exact .inl (hbc ▸ hab)
  · exact .inl (hab ▸ hbc)
  · exact .inr ⟨hab.trans hbc, hkab.trans hkbc⟩

theorem oldest_spec (h : m.oldest stamp = some e) :
    e ∈ m.entries ∧ ∀ a ∈ m.entries, a ≠ e → Older stamp e a := by
  let _ := Classical.decEq (K × V)
  obtain ⟨hmem, hle, hfirst⟩ := List.mem_argmin_iff.mp (Option.mem_def.mpr h)
  refine ⟨hmem, fun a ha hne => ?_⟩
  rcases Nat.lt_or_ge (stamp e.2) (stamp a.2) with hlt | hge
  · exact .inl hlt
  · have hidx := hfirst a ha hge
    refine .inr ⟨le_antisymm (hle a ha) hge, ?_⟩
    have hpos : m.entries.idxOf e < m.entries.idxOf a :=
      lt_of_le_of_ne hidx fun heq => hne ((List.idxOf_inj ha).mp heq.symm)
    have := List.pairwise_iff_getElem.mp m.sorted _ _ (List.idxOf_lt_length_of_mem hmem)
      (List.idxOf_lt_length_of_mem ha) hpos
    simpa using this

theorem exists_oldest (stamp : V → Nat) (h : 0 < m.size) : ∃ e, m.oldest stamp = some e := by
  cases hold : m.oldest stamp with
  | some e => exact ⟨e, rfl⟩
  | none =>
    have := List.argmin_eq_none.mp hold
    simp [size, this] at h

theorem size_erase (h : e ∈ m.entries) :
    (m.erase e.1).size + 1 = m.size := by
  let _ := Classical.decEq (K × V)
  have hnodup : m.entries.Nodup := m.sorted.imp fun hlt heq => by simp [heq] at hlt
  have herase : (m.erase e.1).entries = m.entries.erase e := by
    rw [hnodup.erase_eq_filter]
    refine List.filter_congr fun a ha => ?_
    have hiff : a.1 ≠ e.1 ↔ a ≠ e := not_congr ⟨key_eq ha h, fun heq => heq ▸ rfl⟩
    rw [Bool.eq_iff_iff]
    simpa using hiff
  rw [size, herase, List.length_erase_of_mem h]
  exact Nat.succ_pred_eq_of_pos (List.length_pos_of_mem h)

theorem newerCount_oldest (h : m.oldest stamp = some e) :
    m.newerCount stamp e + 1 = m.size := by
  obtain ⟨hmem, holder⟩ := oldest_spec h
  rw [← size_erase hmem, newerCount, size, erase, filter]
  congr 2
  refine List.filter_congr fun a ha => ?_
  have hiff : Older stamp e a ↔ a.1 ≠ e.1 := by
    constructor
    · intro hold heq
      exact Older.irrefl e (key_eq ha hmem heq ▸ hold)
    · intro hne
      exact holder a ha fun heq => hne (heq ▸ rfl)
  rw [Bool.eq_iff_iff]
  simpa using hiff

theorem newerCount_erase_oldest (h : m.oldest stamp = some e) (ha : a ∈ m.entries) (hne : a ≠ e) :
    (m.erase e.1).newerCount stamp a = m.newerCount stamp a := by
  obtain ⟨hmem, holder⟩ := oldest_spec h
  rw [newerCount, newerCount, erase, filter, List.filter_filter]
  congr 1
  refine List.filter_congr fun b hb => ?_
  have hiff : (Older stamp a b ∧ b.1 ≠ e.1) ↔ Older stamp a b := by
    refine and_iff_left_of_imp fun hab heq => ?_
    exact (holder a ha hne).asymm (key_eq hb hmem heq ▸ hab)
  simpa using hiff

theorem newerCount_lt_size (stamp : V → Nat) (ha : a ∈ m.entries) :
    m.newerCount stamp a < m.size :=
  List.length_filter_lt_length_iff_exists.mpr ⟨a, ha, by simpa using Older.irrefl a⟩

theorem newerCount_lt_of_older (hb : b ∈ m.entries) (h : Older stamp a b) :
    m.newerCount stamp b < m.newerCount stamp a := by
  have hfilter : m.entries.filter (fun c => Older stamp b c) =
      (m.entries.filter fun c => Older stamp a c).filter fun c => Older stamp b c := by
    rw [List.filter_filter]
    refine List.filter_congr fun c _ => ?_
    have hiff : Older stamp b c ↔ Older stamp b c ∧ Older stamp a c :=
      ⟨fun hbc => ⟨hbc, h.trans hbc⟩, And.left⟩
    simpa using hiff
  rw [newerCount, newerCount, hfilter]
  refine List.length_filter_lt_length_iff_exists.mpr ⟨b, ?_, ?_⟩
  · exact List.mem_filter.mpr ⟨hb, by simpa using h⟩
  · simpa using Older.irrefl b

theorem mem_evictLoop {limit fuel : Nat} (hfuel : m.size ≤ fuel) (a : K × V) :
    a ∈ (evictLoop stamp limit fuel m).entries ↔
      a ∈ m.entries ∧ m.newerCount stamp a < limit := by
  induction fuel generalizing m with
  | zero =>
    have hnil : m.entries = [] := List.eq_nil_of_length_eq_zero (Nat.le_zero.mp hfuel)
    simp [evictLoop, hnil]
  | succ fuel ih =>
    unfold evictLoop
    split
    case isFalse hle =>
        refine ⟨fun ha => ⟨ha, ?_⟩, And.left⟩
        have hlt := newerCount_lt_size stamp ha
        omega
    case isTrue hgt =>
        obtain ⟨e, he⟩ := exists_oldest stamp (m := m) (by omega)
        have hmem := (oldest_spec he).1
        have hsize := size_erase hmem
        have hcount := newerCount_oldest he
        rw [he]
        simp only
        rw [ih (by omega)]
        by_cases hae : a = e
        · subst hae
          simp [erase, filter]
          omega
        · rw [show a ∈ (m.erase e.1).entries ↔ a ∈ m.entries from ?_]
          · exact and_congr_right fun ha => by rw [newerCount_erase_oldest he ha hae]
          · simp only [erase, filter, List.mem_filter, and_iff_left_iff_imp]
            intro ha
            simpa using fun heq => hae (key_eq ha hmem heq)

theorem mem_evict {limit : Nat} (a : K × V) :
    a ∈ (m.evict stamp limit).entries ↔ a ∈ m.entries ∧ m.newerCount stamp a < limit :=
  mem_evictLoop le_rfl a

end OrdMap
