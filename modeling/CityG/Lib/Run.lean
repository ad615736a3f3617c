import Mathlib.Logic.Basic

/-!
# Runs of a partial step function

`Reach` collects the states reached by steps that all meet a guard, so that an
unguarded run is the guard `fun _ _ => True`.
-/

namespace Run

variable {S A : Type*}

inductive Reach (init : S → Prop) (step : S → A → Option S) (guard : S → A → Prop) : S → Prop
  | start {s} : init s → Reach init step guard s
  | next {s s'} (a) : Reach init step guard s → guard s a → step s a = some s' →
      Reach init step guard s'

/-- What holds at the start and survives every guarded step holds in every
state reached. -/
theorem Reach.invariant {init : S → Prop} {step : S → A → Option S} {guard : S → A → Prop}
    {Inv : S → Prop} (hinit : ∀ s, init s → Inv s)
    (hstep : ∀ s a s', Inv s → guard s a → step s a = some s' → Inv s')
    {s : S} (h : Reach init step guard s) : Inv s := by
  induction h with
  | start hs => exact hinit _ hs
  | next a _ hguard hs ih => exact hstep _ a _ ih hguard hs

def exec (step : S → A → Option S) : S → List A → Option S
  | s, [] => some s
  | s, a :: rest => (step s a).bind fun s' => exec step s' rest

def guarded (step : S → A → Option S) (guard : S → A → Prop) [∀ s a, Decidable (guard s a)]
    (s : S) (a : A) : Option S :=
  if guard s a then step s a else none

theorem reach_of_exec {init : S → Prop} {step : S → A → Option S} {guard : S → A → Prop}
    [∀ s a, Decidable (guard s a)] {s s' : S} {as : List A} (hs : Reach init step guard s)
    (h : exec (guarded step guard) s as = some s') : Reach init step guard s' := by
  induction as generalizing s with
  | nil => exact Option.some.inj h ▸ hs
  | cons a rest ih =>
    obtain ⟨s₁, h₁, h₂⟩ := Option.bind_eq_some_iff.mp h
    unfold guarded at h₁
    split at h₁
    · exact ih (.next a hs ‹_› h₁) h₂
    · cases h₁

end Run
