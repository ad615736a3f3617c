import Mathlib.Data.List.FinRange
import Mathlib.Tactic.Common

/-!
# Computations with a trace

A value with the events met on the way to it, and loops that rewrite an array in place, two
entries at a time. When no entry is touched twice, each pair is rewritten from the entries
the loop started with.
-/

structure Traced (ε α : Type) where
  val : α
  events : List ε

namespace Traced
variable {ε α β : Type}

instance : Monad (Traced ε) where
  pure a := ⟨a, []⟩
  bind x f := ⟨(f x.val).val, x.events ++ (f x.val).events⟩

def emit (e : ε) : Traced ε Unit := ⟨(), [e]⟩

def ofFn {n : Nat} (f : Fin n → Traced ε α) : Traced ε (Vector α n) :=
  ⟨Vector.ofFn fun i => (f i).val, (List.finRange n).flatMap fun i => (f i).events⟩

def All (p : ε → Prop) (x : Traced ε α) : Prop := ∀ e ∈ x.events, p e

@[simp] theorem val_pure (a : α) : (pure a : Traced ε α).val = a := rfl

@[simp] theorem val_bind (x : Traced ε α) (f : α → Traced ε β) : (x >>= f).val = (f x.val).val := rfl

@[simp] theorem all_pure {p : ε → Prop} (a : α) : All p (pure a : Traced ε α) := nofun

@[simp] theorem all_bind {p : ε → Prop} {x : Traced ε α} {f : α → Traced ε β} :
    All p (x >>= f) ↔ All p x ∧ All p (f x.val) := List.forall_mem_append

@[simp] theorem all_emit {p : ε → Prop} {e : ε} : All p (emit e) ↔ p e := List.forall_mem_singleton

@[simp] theorem get_ofFn {n : Nat} (f : Fin n → Traced ε α) (i : Fin n) :
    (ofFn f).val.get i = (f i).val := Vector.getElem_ofFn i.isLt

@[simp] theorem all_ofFn {p : ε → Prop} {n : Nat} {f : Fin n → Traced ε α} :
    All p (ofFn f) ↔ ∀ i, All p (f i) := by
  simp only [All, ofFn, List.mem_flatMap, List.mem_finRange, true_and, forall_exists_index]
  exact forall_comm

theorem val_foldlM {f : β → α → Traced ε β} (l : List α) (b : β) :
    (l.foldlM f b).val = l.foldl (fun b a => (f b a).val) b := by
  induction l generalizing b with
  | nil => rfl
  | cons a l ih => exact ih (f b a).val

end Traced

structure PairOp (κ : Type) (n : Nat) where
  par : κ
  lo : Fin n
  hi : Fin n

namespace PairOp
variable {ε κ V : Type} {n : Nat}

def apply (f : κ → V → V → Traced ε (V × V)) (a : Vector V n) (o : PairOp κ n) :
    Traced ε (Vector V n) := do
  let p ← f o.par (a.get o.lo) (a.get o.hi)
  pure ((a.set o.hi p.2).set o.lo p.1)

def pass (f : κ → V → V → Traced ε (V × V)) (ops : List (PairOp κ n)) (a : Vector V n) :
    Traced ε (Vector V n) :=
  ops.foldlM (apply f) a

def footprint (ops : List (PairOp κ n)) : List (Fin n) := ops.flatMap fun o => [o.lo, o.hi]

variable {f : κ → V → V → Traced ε (V × V)} {o : PairOp κ n} {ops : List (PairOp κ n)}

theorem get_set (a : Vector V n) (i j : Fin n) (v : V) :
    (a.set i v).get j = if i = j then v else a.get j := by
  simp only [Fin.ext_iff]
  exact Vector.getElem_set i.isLt j.isLt

theorem get_apply (a : Vector V n) (i : Fin n) :
    (apply f a o).val.get i =
      if o.lo = i then (f o.par (a.get o.lo) (a.get o.hi)).val.1
      else if o.hi = i then (f o.par (a.get o.lo) (a.get o.hi)).val.2
      else a.get i := by
  simp only [apply, Traced.val_bind, Traced.val_pure, get_set]

theorem get_pass_of_not_mem (a : Vector V n) {i : Fin n} (hi : i ∉ footprint ops) :
    (pass f ops a).val.get i = a.get i := by
  induction ops generalizing a with
  | nil => rfl
  | cons o ops ih =>
    simp only [footprint, List.flatMap_cons, List.mem_append, List.mem_cons, List.not_mem_nil,
      or_false, not_or] at hi
    obtain ⟨⟨hlo, hhi⟩, hrest⟩ := hi
    rw [pass, List.foldlM_cons, Traced.val_bind]
    refine (ih _ hrest).trans ?_
    rw [get_apply, if_neg (Ne.symm hlo), if_neg (Ne.symm hhi)]

theorem footprint_cons (o : PairOp κ n) (ops : List (PairOp κ n)) :
    footprint (o :: ops) = o.lo :: o.hi :: footprint ops := rfl

theorem mem_footprint (ho : o ∈ ops) : o.lo ∈ footprint ops ∧ o.hi ∈ footprint ops :=
  ⟨List.mem_flatMap.mpr ⟨o, ho, by simp⟩, List.mem_flatMap.mpr ⟨o, ho, by simp⟩⟩

theorem get_apply_of_nodup {a : Vector V n} (hnodup : (footprint (o :: ops)).Nodup) {i : Fin n}
    (hi : i ∈ footprint ops) : (apply f a o).val.get i = a.get i := by
  rw [footprint_cons, List.nodup_cons, List.nodup_cons] at hnodup
  have hlo : o.lo ≠ i := fun h => hnodup.1 (h ▸ List.mem_cons_of_mem _ hi)
  have hhi : o.hi ≠ i := fun h => hnodup.2.1 (h ▸ hi)
  rw [get_apply, if_neg hlo, if_neg hhi]

theorem get_pass (a : Vector V n) (hnodup : (footprint ops).Nodup) (ho : o ∈ ops) :
    ((pass f ops a).val.get o.lo, (pass f ops a).val.get o.hi) =
      (f o.par (a.get o.lo) (a.get o.hi)).val := by
  induction ops generalizing a with
  | nil => exact absurd ho List.not_mem_nil
  | cons o' ops ih =>
    have hrest : (footprint ops).Nodup := by
      rw [footprint_cons, List.nodup_cons, List.nodup_cons] at hnodup
      exact hnodup.2.2
    rw [pass, List.foldlM_cons, Traced.val_bind]
    obtain rfl | ho := List.mem_cons.mp ho
    · rw [footprint_cons, List.nodup_cons, List.nodup_cons] at hnodup
      obtain ⟨hlo, hhi, -⟩ := hnodup
      have hloFree : o.lo ∉ footprint ops := fun h => hlo (List.mem_cons_of_mem _ h)
      have hne : o.lo ≠ o.hi := fun h => hlo (h ▸ List.mem_cons_self)
      have hl := get_pass_of_not_mem (f := f) (apply f a o).val hloFree
      have hh := get_pass_of_not_mem (f := f) (apply f a o).val hhi
      rw [pass] at hl hh
      rw [hl, hh, get_apply, get_apply, if_pos rfl, if_neg hne, if_pos rfl]
    · obtain ⟨hlo, hhi⟩ := mem_footprint ho
      have h := ih (apply f a o').val hrest ho
      rw [get_apply_of_nodup hnodup hlo, get_apply_of_nodup hnodup hhi] at h
      exact h

theorem all_pass {p : ε → Prop} (a : Vector V n) (hnodup : (footprint ops).Nodup) :
    Traced.All p (pass f ops a) ↔
      ∀ o ∈ ops, Traced.All p (f o.par (a.get o.lo) (a.get o.hi)) := by
  induction ops generalizing a with
  | nil => exact iff_of_true (Traced.all_pure a) nofun
  | cons o ops ih =>
    have hrest : (footprint ops).Nodup := by
      rw [footprint_cons, List.nodup_cons, List.nodup_cons] at hnodup
      exact hnodup.2.2
    rw [pass, List.foldlM_cons, Traced.all_bind, List.forall_mem_cons]
    refine and_congr (by simp [apply]) ((ih _ hrest).trans ?_)
    refine forall₂_congr fun o' ho' => ?_
    obtain ⟨hlo, hhi⟩ := mem_footprint ho'
    rw [get_apply_of_nodup hnodup hlo, get_apply_of_nodup hnodup hhi]

end PairOp
