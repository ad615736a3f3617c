import Mathlib.Data.List.Induction
import Mathlib.Data.List.Lex
import Mathlib.Data.List.Perm.Subperm
import Mathlib.Order.Fin.Basic

/-!
# Ordered finite maps

A map is its list of entries in strictly increasing key order, so that equal
maps are equal lists and iteration follows the keys. Sets are maps to `Unit`.
-/

structure OrdMap (K V : Type*) [LinearOrder K] where
  entries : List (K × V)
  sorted : entries.Pairwise (fun a b => a.1 < b.1)

namespace OrdMap

section Entries
variable {K V : Type*} [LinearOrder K]

def lookup (k : K) : List (K × V) → Option V
  | [] => none
  | e :: rest => if e.1 = k then some e.2 else lookup k rest

def insertEntry (k : K) (v : V) : List (K × V) → List (K × V)
  | [] => [(k, v)]
  | e :: rest =>
    if k < e.1 then (k, v) :: e :: rest
    else if k = e.1 then (k, v) :: rest
    else e :: insertEntry k v rest

variable {k : K} {v : V} {l : List (K × V)}

theorem mem_insertEntry {e : K × V} (h : e ∈ insertEntry k v l) : e = (k, v) ∨ e ∈ l := by
  induction l with
  | nil => exact .inl (List.mem_singleton.mp h)
  | cons d rest ih =>
    unfold insertEntry at h
    split_ifs at h
    · exact List.mem_cons.mp h
    · rcases List.mem_cons.mp h with h | h
      · exact .inl h
      · exact .inr (List.mem_cons_of_mem _ h)
    · rcases List.mem_cons.mp h with h | h
      · exact .inr (h ▸ List.mem_cons_self)
      · exact (ih h).imp id (List.mem_cons_of_mem _)

theorem insertEntry_sorted (h : l.Pairwise (fun a b => a.1 < b.1)) :
    (insertEntry k v l).Pairwise (fun a b => a.1 < b.1) := by
  induction l with
  | nil => exact List.pairwise_singleton _ _
  | cons e rest ih =>
    obtain ⟨hhead, htail⟩ := List.pairwise_cons.mp h
    unfold insertEntry
    split_ifs with hlt heq
    · refine List.pairwise_cons.mpr ⟨?_, h⟩
      intro d hd
      rcases List.mem_cons.mp hd with rfl | hd
      · exact hlt
      · exact hlt.trans (hhead d hd)
    · subst heq
      exact List.pairwise_cons.mpr ⟨hhead, htail⟩
    · refine List.pairwise_cons.mpr ⟨?_, ih htail⟩
      intro d hd
      rcases mem_insertEntry hd with rfl | hd
      · exact lt_of_le_of_ne (not_lt.mp hlt) (Ne.symm heq)
      · exact hhead d hd

theorem insertEntry_append (h : ∀ a ∈ l, a.1 < k) :
    insertEntry k v l = l ++ [(k, v)] := by
  induction l with
  | nil => rfl
  | cons e rest ih =>
    have he := h e List.mem_cons_self
    rw [insertEntry, if_neg (not_lt.mpr he.le), if_neg he.ne',
      ih fun a ha => h a (List.mem_cons_of_mem _ ha)]
    rfl

theorem lookup_insertEntry (k k' : K) (v : V) (l : List (K × V)) :
    lookup k' (insertEntry k v l) = if k' = k then some v else lookup k' l := by
  induction l with
  | nil => simp [insertEntry, lookup, eq_comm]
  | cons e rest ih =>
    unfold insertEntry
    split_ifs with hlt heq <;> grind [lookup]

theorem lookup_eq_some_iff (h : l.Pairwise (fun a b => a.1 < b.1)) :
    lookup k l = some v ↔ (k, v) ∈ l := by
  induction l with
  | nil => simp [lookup]
  | cons e rest ih =>
    obtain ⟨hhead, htail⟩ := List.pairwise_cons.mp h
    have hne : ∀ w, (e.1, w) ∉ rest := fun w hw => lt_irrefl e.1 (hhead (e.1, w) hw)
    unfold lookup
    split_ifs with heq
    · subst heq
      constructor
      · intro hv
        rw [← Option.some.inj hv]
        exact List.mem_cons_self
      · intro hv
        rcases List.mem_cons.mp hv with hv | hv
        · rw [← hv]
        · exact absurd hv (hne v)
    · rw [ih htail, List.mem_cons]
      constructor
      · exact .inr
      · rintro (rfl | hv)
        · exact absurd rfl heq
        · exact hv

theorem lookup_filter {p : K × V → Bool} (h : l.Pairwise (fun a b => a.1 < b.1)) :
    lookup k (l.filter p) = (lookup k l).filter fun v => p (k, v) := by
  ext v
  rw [lookup_eq_some_iff (h.filter p), List.mem_filter, Option.filter_eq_some_iff,
    lookup_eq_some_iff h]

theorem entries_ext {l' : List (K × V)} (h : l.Pairwise (fun a b => a.1 < b.1))
    (h' : l'.Pairwise (fun a b => a.1 < b.1)) (heq : ∀ k, lookup k l = lookup k l') : l = l' := by
  have hmem : ∀ e, e ∈ l ↔ e ∈ l' := by
    intro e
    rw [← lookup_eq_some_iff h, ← lookup_eq_some_iff h', heq]
  apply List.Perm.eq_of_pairwise _ h h'
  · exact (List.perm_ext_iff_of_nodup (h.imp fun hlt heq => by simp [heq] at hlt)
      (h'.imp fun hlt heq => by simp [heq] at hlt)).mpr hmem
  · intro a b _ _ hab hba
    exact absurd hab (lt_asymm hba)

end Entries

section Map
variable {K V : Type*} [LinearOrder K]

instance [DecidableEq V] : DecidableEq (OrdMap K V) := fun m m' =>
  decidable_of_iff (m.entries = m'.entries) (by
    cases m
    cases m'
    simp)

def empty : OrdMap K V := ⟨[], .nil⟩

def get? (m : OrdMap K V) (k : K) : Option V := lookup k m.entries

instance : Membership K (OrdMap K V) := ⟨fun m k => (m.get? k).isSome = true⟩

instance (m : OrdMap K V) (k : K) : Decidable (k ∈ m) :=
  inferInstanceAs (Decidable ((m.get? k).isSome = true))

def insert (m : OrdMap K V) (k : K) (v : V) : OrdMap K V :=
  ⟨insertEntry k v m.entries, insertEntry_sorted m.sorted⟩

def filter (m : OrdMap K V) (p : K × V → Bool) : OrdMap K V :=
  ⟨m.entries.filter p, m.sorted.filter p⟩

def erase (m : OrdMap K V) (k : K) : OrdMap K V := m.filter fun e => e.1 ≠ k

def filterMap (m : OrdMap K V) (f : V → Option V) : OrdMap K V :=
  ⟨m.entries.filterMap fun e => (f e.2).map (e.1, ·), m.sorted.filterMap _ fun a a' h b hb b' hb' => by
    obtain ⟨_, _, rfl⟩ := Option.map_eq_some_iff.mp hb
    obtain ⟨_, _, rfl⟩ := Option.map_eq_some_iff.mp hb'
    exact h⟩

def insertNew (m : OrdMap K V) (k : K) (v : V) : OrdMap K V := if k ∈ m then m else m.insert k v

def ofList (l : List (K × V)) : OrdMap K V := l.foldl (fun m e => m.insert e.1 e.2) empty

def extend (m m' : OrdMap K V) : OrdMap K V := m'.entries.foldl (fun m e => m.insert e.1 e.2) m

def keys (m : OrdMap K V) : List K := m.entries.map Prod.fst

def values (m : OrdMap K V) : List V := m.entries.map Prod.snd

def isEmpty (m : OrdMap K V) : Bool := m.entries.isEmpty

def size (m : OrdMap K V) : Nat := m.entries.length

variable {m : OrdMap K V} {k k' : K} {v : V} {l : List (K × V)}

@[ext] theorem ext {m' : OrdMap K V} (h : ∀ k, m.get? k = m'.get? k) : m = m' := by
  obtain ⟨l, hl⟩ := m
  obtain ⟨l', hl'⟩ := m'
  obtain rfl := entries_ext hl hl' h
  rfl

@[simp] theorem get?_empty (k : K) : (empty : OrdMap K V).get? k = none := rfl

@[simp] theorem get?_insert (m : OrdMap K V) (k k' : K) (v : V) :
    (m.insert k v).get? k' = if k' = k then some v else m.get? k' :=
  lookup_insertEntry k k' v m.entries

theorem insert_eq_self : m.insert k v = m ↔ m.get? k = some v := by
  constructor
  · intro h
    rw [← h, get?_insert, if_pos rfl]
  · intro h
    ext1 k'
    rw [get?_insert]
    split
    · next heq => rw [heq, h]
    · rfl

theorem insert_insert (m : OrdMap K V) (k : K) (v w : V) :
    (m.insert k v).insert k w = m.insert k w := by
  ext1 k'
  simp only [get?_insert]
  split_ifs <;> rfl

@[simp] theorem get?_filter (m : OrdMap K V) (p : K × V → Bool) (k : K) :
    (m.filter p).get? k = (m.get? k).filter fun v => p (k, v) :=
  lookup_filter m.sorted

@[simp] theorem get?_erase (m : OrdMap K V) (k k' : K) :
    (m.erase k).get? k' = if k' = k then none else m.get? k' := by
  rw [erase, get?_filter]
  by_cases h : k' = k
  · simp [h]
  · cases hget : m.get? k' <;> simp [h]

@[simp] theorem get?_filterMap (m : OrdMap K V) (f : V → Option V) (k : K) :
    (m.filterMap f).get? k = (m.get? k).bind f := by
  ext v
  rw [get?, lookup_eq_some_iff (m.filterMap f).sorted, Option.bind_eq_some_iff]
  simp only [get?, lookup_eq_some_iff m.sorted]
  constructor
  · intro h
    obtain ⟨e, he, hv⟩ := List.mem_filterMap.mp h
    obtain ⟨w, hw, heq⟩ := Option.map_eq_some_iff.mp hv
    obtain ⟨rfl, rfl⟩ := Prod.mk.inj heq
    exact ⟨e.2, he, hw⟩
  · rintro ⟨w, hw, hv⟩
    exact List.mem_filterMap.mpr ⟨(k, w), hw, Option.map_eq_some_iff.mpr ⟨v, hv, rfl⟩⟩

theorem mem_entries_iff :
    (k, v) ∈ m.entries ↔ m.get? k = some v := (lookup_eq_some_iff m.sorted).symm

theorem key_eq {a b : K × V} (ha : a ∈ m.entries) (hb : b ∈ m.entries) (h : a.1 = b.1) : a = b := by
  have ha' := mem_entries_iff.mp (show (a.1, a.2) ∈ m.entries from ha)
  have hb' := mem_entries_iff.mp (show (b.1, b.2) ∈ m.entries from hb)
  rw [h, hb'] at ha'
  exact Prod.ext h (Option.some.inj ha').symm

theorem mem_keys_iff : k ∈ m.keys ↔ ∃ v, m.get? k = some v := by
  simp only [keys, List.mem_map, Prod.exists, exists_and_right, exists_eq_right, mem_entries_iff]

theorem mem_values_iff : v ∈ m.values ↔ ∃ k, m.get? k = some v := by
  simp only [values, List.mem_map, Prod.exists, exists_eq_right, mem_entries_iff]

theorem mem_def : k ∈ m ↔ (m.get? k).isSome = true := Iff.rfl

theorem mem_iff : k ∈ m ↔ ∃ v, m.get? k = some v :=
  Option.isSome_iff_exists

theorem not_mem_iff : k ∉ m ↔ m.get? k = none := by
  rw [mem_def, Bool.not_eq_true, Option.isSome_eq_false_iff, Option.isNone_iff_eq_none]

@[simp] theorem not_mem_empty (k : K) : k ∉ (empty : OrdMap K V) := not_mem_iff.mpr rfl

@[simp] theorem mem_insert :
    k' ∈ m.insert k v ↔ k' = k ∨ k' ∈ m := by
  rw [mem_def, get?_insert]
  split_ifs with h <;> simp [h, mem_def]

@[simp] theorem mem_erase : k' ∈ m.erase k ↔ k' ≠ k ∧ k' ∈ m := by
  rw [mem_def, get?_erase]
  split_ifs with h <;> simp [h, mem_def]

theorem mem_keys : k ∈ m.keys ↔ k ∈ m := mem_keys_iff.trans mem_iff.symm

theorem get?_insertNew (m : OrdMap K V) (k k' : K) (v : V) :
    (m.insertNew k v).get? k' = if k' = k then some ((m.get? k).getD v) else m.get? k' := by
  unfold insertNew
  split_ifs with hmem heq heq
  · obtain ⟨w, hw⟩ := mem_iff.mp hmem
    rw [heq, hw]
    rfl
  · rfl
  · rw [heq, get?_insert, if_pos rfl, not_mem_iff.mp hmem]
    rfl
  · rw [get?_insert, if_neg heq]

@[simp] theorem mem_insertNew :
    k' ∈ m.insertNew k v ↔ k' = k ∨ k' ∈ m := by
  rw [mem_def, get?_insertNew]
  split_ifs with h <;> simp [h, mem_def]

theorem get?_foldl_erase {A : Type*} (f : A → K) (l : List A) (m : OrdMap K V) (k : K) :
    (l.foldl (fun m a => m.erase (f a)) m).get? k = if k ∈ l.map f then none else m.get? k := by
  induction l generalizing m with
  | nil => simp
  | cons a rest ih =>
    rw [List.foldl_cons, ih, get?_erase]
    by_cases hk : k = f a <;> simp [hk]

theorem keys_sorted (m : OrdMap K V) : m.keys.Pairwise (· < ·) := by
  rw [keys, List.pairwise_map]
  exact m.sorted

theorem keys_nodup (m : OrdMap K V) : m.keys.Nodup := m.keys_sorted.imp fun hlt => ne_of_lt hlt

@[simp] theorem get?_extend (m m' : OrdMap K V) (k : K) :
    (m.extend m').get? k = (m'.get? k).or (m.get? k) := by
  have hfold : ∀ (l : List (K × V)) (m : OrdMap K V), l.Pairwise (fun a b => a.1 < b.1) →
      (l.foldl (fun m e => m.insert e.1 e.2) m).get? k = (lookup k l).or (m.get? k) := by
    intro l
    induction l with
    | nil => simp [lookup]
    | cons e rest ih =>
      intro m hsorted
      obtain ⟨hhead, htail⟩ := List.pairwise_cons.mp hsorted
      rw [List.foldl_cons, ih _ htail, get?_insert, lookup]
      by_cases hk : e.1 = k
      · have hnone : lookup k rest = none := by
          cases hlookup : lookup k rest with
          | none => rfl
          | some w =>
            have hlt := hhead _ ((lookup_eq_some_iff htail).mp hlookup)
            exact absurd hlt (hk ▸ lt_irrefl k)
        rw [if_pos hk, if_pos hk.symm, hnone]
        rfl
      · rw [if_neg hk, if_neg (Ne.symm hk)]
  exact hfold m'.entries m m'.sorted

theorem mem_of_get?_ofList (h : (ofList l).get? k = some v) :
    (k, v) ∈ l := by
  have hfold : ∀ (l : List (K × V)) (m : OrdMap K V),
      (l.foldl (fun m e => m.insert e.1 e.2) m).get? k = some v →
      (k, v) ∈ l ∨ m.get? k = some v := by
    intro l
    induction l with
    | nil => exact fun m hm => .inr hm
    | cons e rest ih =>
      intro m hm
      rcases ih _ hm with hrest | hinsert
      · exact .inl (List.mem_cons_of_mem e hrest)
      · rw [get?_insert] at hinsert
        split at hinsert
        · rename_i heq
          exact .inl (List.mem_cons.mpr (.inl (Prod.ext heq (Option.some.inj hinsert).symm)))
        · exact .inr hinsert
  exact (hfold l empty h).resolve_right (by simp)

theorem get?_ofList (hkeys : (l.map Prod.fst).Nodup) (hmem : (k, v) ∈ l) :
    (ofList l).get? k = some v := by
  induction l using List.reverseRecOn with
  | nil => cases hmem
  | append_singleton l e ih =>
    rw [List.map_append, List.nodup_append] at hkeys
    obtain ⟨hnodup, _, hdisj⟩ := hkeys
    rw [ofList, List.foldl_append, List.foldl_cons, List.foldl_nil, get?_insert]
    rcases List.mem_append.mp hmem with hl | he
    · have hne : k ≠ e.1 := hdisj k (List.mem_map_of_mem (f := Prod.fst) hl) e.1 (by simp)
      rw [if_neg hne]
      exact ih hnodup hl
    · obtain rfl := List.mem_singleton.mp he
      exact if_pos rfl

theorem entries_foldl_insert (hsorted : (m.entries ++ l).Pairwise (fun a b => a.1 < b.1)) :
    (l.foldl (fun m e => m.insert e.1 e.2) m).entries = m.entries ++ l := by
  induction l generalizing m with
  | nil => simp
  | cons e rest ih =>
    have hlast : insertEntry e.1 e.2 m.entries = m.entries ++ [e] :=
      insertEntry_append fun a ha =>
        (List.pairwise_append.mp hsorted).2.2 a ha e List.mem_cons_self
    rw [List.foldl_cons, ih]
    · change insertEntry e.1 e.2 m.entries ++ rest = _
      rw [hlast, List.append_assoc, List.singleton_append]
    · change (insertEntry e.1 e.2 m.entries ++ rest).Pairwise _
      rw [hlast, List.append_assoc, List.singleton_append]
      exact hsorted

theorem entries_ofList (hsorted : l.Pairwise (fun a b => a.1 < b.1)) :
    (ofList l).entries = l :=
  entries_foldl_insert (m := empty) (by simpa [empty] using hsorted)

theorem ofList_entries (m : OrdMap K V) : ofList m.entries = m := by
  apply ext
  intro k
  change lookup k (ofList m.entries).entries = lookup k m.entries
  rw [entries_ofList m.sorted]

theorem ofList_of_perm (h : l.Perm m.entries) : ofList l = m := by
  have hkeys : (l.map Prod.fst).Nodup := (h.map Prod.fst).nodup_iff.mpr m.keys_nodup
  ext k v
  constructor
  · intro hget
    exact mem_entries_iff.mp (h.mem_iff.mp (mem_of_get?_ofList hget))
  · intro hget
    exact get?_ofList hkeys (h.mem_iff.mpr (mem_entries_iff.mpr hget))

end Map

variable {V : Type*}

theorem mem_of_size {m : OrdMap Nat V} {n : Nat} (hsize : m.size = n) (hlt : ∀ k ∈ m, k < n)
    {k : Nat} (hk : k < n) : k ∈ m := by
  have hsub : m.keys ⊆ List.range n := fun k hk => List.mem_range.mpr (hlt k (mem_keys.mp hk))
  have hperm : m.keys.Perm (List.range n) := by
    refine (List.subperm_of_subset m.keys_nodup hsub).perm_of_length_le ?_
    rw [List.length_range, OrdMap.keys, List.length_map, ← hsize]
    rfl
  exact mem_keys.mp (hperm.mem_iff.mpr (List.mem_range.mpr hk))

theorem size_of_mem {m : OrdMap Nat V} {n : Nat} (h : ∀ k, k ∈ m ↔ k < n) :
    m.size = n := by
  have hperm : m.keys.Perm (List.range n) :=
    (List.perm_ext_iff_of_nodup m.keys_nodup List.nodup_range).mpr fun k => by
      rw [mem_keys, h, List.mem_range]
  have hlength := hperm.length_eq
  rw [List.length_range, OrdMap.keys, List.length_map] at hlength
  exact hlength

def range {V : Type*} (n : Nat) (f : Nat → V) : OrdMap Nat V :=
  ⟨(List.range n).map fun i => (i, f i), by
    rw [List.pairwise_map]
    exact List.pairwise_lt_range⟩

@[simp] theorem get?_range (n : Nat) (f : Nat → V) (i : Nat) :
    (range n f).get? i = if i < n then some (f i) else none := by
  ext v
  rw [← mem_entries_iff, range]
  simp only [List.mem_map, List.mem_range, Prod.mk.injEq]
  split_ifs with h
  · simp only [Option.some.injEq]
    constructor
    · rintro ⟨j, _, rfl, rfl⟩
      rfl
    · rintro rfl
      exact ⟨i, h, rfl, rfl⟩
  · simp only [iff_false]
    rintro ⟨j, hj, rfl, _⟩
    exact h hj

end OrdMap

abbrev OrdSet (K : Type*) [LinearOrder K] := OrdMap K Unit

namespace OrdSet

variable {K : Type*} [LinearOrder K]

def add (s : OrdSet K) (k : K) : OrdSet K := s.insert k ()

def addAll (s : OrdSet K) (l : List K) : OrdSet K := l.foldl add s

def eraseAll (s : OrdSet K) (l : List K) : OrdSet K := l.foldl OrdMap.erase s

def ofList (l : List K) : OrdSet K := addAll OrdMap.empty l

variable {s : OrdSet K} {k : K} {l : List K}

@[simp] theorem mem_add {k' : K} : k' ∈ s.add k ↔ k' = k ∨ k' ∈ s :=
  OrdMap.mem_insert

@[simp] theorem mem_addAll :
    k ∈ s.addAll l ↔ k ∈ l ∨ k ∈ s := by
  induction l generalizing s with
  | nil => simp [addAll]
  | cons a rest ih =>
    rw [addAll, List.foldl_cons, ← addAll, ih, mem_add, List.mem_cons]
    tauto

@[simp] theorem mem_eraseAll :
    k ∈ s.eraseAll l ↔ k ∉ l ∧ k ∈ s := by
  induction l generalizing s with
  | nil => simp [eraseAll]
  | cons a rest ih =>
    rw [eraseAll, List.foldl_cons, ← eraseAll, ih, OrdMap.mem_erase, List.mem_cons]
    tauto

@[simp] theorem mem_ofList : k ∈ ofList l ↔ k ∈ l := by
  simp [ofList]

theorem ext_mem {s' : OrdSet K} (h : ∀ k, k ∈ s ↔ k ∈ s') : s = s' := by
  refine OrdMap.ext fun k => ?_
  have hk := h k
  simp only [OrdMap.mem_def] at hk
  cases hs : s.get? k with
  | none =>
    cases hs' : s'.get? k with
    | none => rfl
    | some u => simp [hs, hs'] at hk
  | some u =>
    cases hs' : s'.get? k with
    | none => simp [hs, hs'] at hk
    | some u' => rfl

theorem keys_ofList {l' : List K} (hsorted : l.Pairwise (· < ·)) (hmem : ∀ k, k ∈ l ↔ k ∈ l') :
    (ofList l').keys = l := by
  have hkeys := (ofList l').keys_sorted
  have hperm : (ofList l').keys.Perm l := by
    refine (List.perm_ext_iff_of_nodup (ofList l').keys_nodup
      (hsorted.imp fun hlt => ne_of_lt hlt)).mpr fun k => ?_
    rw [OrdMap.mem_keys, mem_ofList, hmem]
  exact hperm.eq_of_pairwise (fun a b _ _ hab hba => absurd hab (lt_asymm hba)) hkeys hsorted

theorem size_ofList (hnodup : l.Nodup) : (ofList l).size = l.length := by
  have hperm : (ofList l).keys.Perm l := by
    refine (List.perm_ext_iff_of_nodup (ofList l).keys_nodup hnodup).mpr fun k => ?_
    rw [OrdMap.mem_keys, mem_ofList]
  rw [← hperm.length_eq]
  exact (List.length_map _).symm

end OrdSet
