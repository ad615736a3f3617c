import Mathlib.Data.Finset.Basic

/-!
# Queues of bounded length

A new element goes to the back; when the queue is over its capacity the element
at the front leaves it.
-/

namespace BoundedQueue

variable {α : Type*} {cap : Nat} {queue : List α} {x y : α}

def push (cap : Nat) (queue : List α) (x : α) : List α :=
  if cap < queue.length + 1 then (queue ++ [x]).tail else queue ++ [x]

theorem push_of_lt (h : queue.length < cap) : push cap queue x = queue ++ [x] :=
  if_neg (by omega)

theorem length_push_le (h : queue.length ≤ cap) : (push cap queue x).length ≤ cap := by
  unfold push
  split <;> simp <;> omega

theorem push_ne_nil (hcap : 0 < cap) : push cap queue x ≠ [] := by
  unfold push
  split
  · cases queue with
    | nil => simp at *; omega
    | cons z queue => simp
  · simp

theorem push_sublist : (push cap queue x).Sublist (queue ++ [x]) := by
  unfold push
  split
  · exact List.tail_sublist _
  · exact .refl _

theorem nodup_push (h : queue.Nodup) (hx : x ∉ queue) : (push cap queue x).Nodup := by
  refine List.Nodup.sublist push_sublist (List.nodup_append.mpr ⟨h, List.nodup_singleton x, ?_⟩)
  intro a ha b hb hab
  exact hx (List.mem_singleton.mp hb ▸ hab ▸ ha)

def Recent (queue : List α) (y : α) (count : Nat) : Prop :=
  ∃ older newer, queue = older ++ y :: newer ∧ newer.length < count

theorem Recent.mem {count : Nat} (h : Recent queue y count) : y ∈ queue := by
  obtain ⟨older, newer, rfl, -⟩ := h
  simp

theorem recent_push_self (hcap : 0 < cap) : Recent (push cap queue x) x 1 := by
  unfold push
  split
  · cases queue with
    | nil => simp at *; omega
    | cons z queue => exact ⟨queue, [], rfl, Nat.zero_lt_one⟩
  · exact ⟨queue, [], rfl, Nat.zero_lt_one⟩

theorem Recent.push {count : Nat} (h : Recent queue y count) (hcount : count < cap) :
    Recent (push cap queue x) y (count + 1) := by
  obtain ⟨older, newer, rfl, hnewer⟩ := h
  unfold BoundedQueue.push
  split
  · cases older with
    | nil => simp at *; omega
    | cons z older => exact ⟨older, newer ++ [x], by simp, by simpa using hnewer⟩
  · exact ⟨older, newer ++ [x], by simp, by simpa using hnewer⟩

end BoundedQueue
