import Mathlib.Data.List.Forall2
import Mathlib.Tactic.Common

/-!
# Checked computations

Early exits in the style `if bad { return Err(e) }` and `x.ok_or(e)?`, with the
inversion lemmas that read a successful run back into its guards.
-/

namespace Except

universe u v
variable {ε : Type v} {α β : Type u}

def ensure (p : Prop) [Decidable p] (e : ε) : Except ε Unit :=
  if p then .ok () else .error e

def ofOption (e : ε) : Option α → Except ε α
  | some a => .ok a
  | none => .error e

variable {x : Except ε α} {f : α → Except ε β} {b : β} {a : α} {e : ε} {l : List α}

@[simp] theorem bind_eq_ok :
    (x >>= f) = .ok b ↔ ∃ a, x = .ok a ∧ f a = .ok b := by
  cases x with
  | error e => exact ⟨nofun, fun ⟨_, h, _⟩ => nomatch h⟩
  | ok a => exact ⟨fun h => ⟨a, rfl, h⟩, fun ⟨_, h, hf⟩ => by cases h; exact hf⟩

theorem bind_of (hx : x = .ok a) (hf : f a = .ok b) : (x >>= f) = .ok b :=
  bind_eq_ok.mpr ⟨a, hx, hf⟩

theorem ok_bind (a : α) (f : α → Except ε β) : ((.ok a : Except ε α) >>= f) = f a := rfl

@[simp] theorem pure_eq_ok {b : α} : (pure a : Except ε α) = .ok b ↔ a = b :=
  ⟨fun h => Except.ok.inj h, congrArg Except.ok⟩

@[simp] theorem ensure_eq_ok {p : Prop} [Decidable p] {u : Unit} :
    ensure p e = .ok u ↔ p := by
  unfold ensure
  split <;> simp_all

theorem ensure_bind_of {p : Prop} [Decidable p] {β : Type} {f : Unit → Except ε β} {b : β} (hp : p)
    (hf : f () = .ok b) : (ensure p e >>= f) = .ok b :=
  bind_of (ensure_eq_ok.mpr hp) hf

@[simp] theorem ofOption_eq_ok {o : Option α} :
    ofOption e o = .ok a ↔ o = some a := by
  cases o <;> simp [ofOption]

@[simp] theorem map_eq_ok {f : α → β} :
    (f <$> x) = .ok b ↔ ∃ a, x = .ok a ∧ f a = b := by
  cases x with
  | error e => exact ⟨nofun, fun ⟨_, h, _⟩ => nomatch h⟩
  | ok a =>
    exact ⟨fun h => ⟨a, rfl, Except.ok.inj h⟩, fun ⟨_, h, hf⟩ => by cases h; exact congrArg _ hf⟩

@[simp] theorem mapError_eq_ok {ε' : Type*} {f : ε → ε'} :
    x.mapError f = .ok a ↔ x = .ok a := by
  cases x with
  | error e => exact ⟨nofun, nofun⟩
  | ok b => simp only [Except.mapError, Except.ok.injEq]

theorem exists_bind_eq_ok (hx : ∃ a, x = .ok a) (hf : ∀ a, x = .ok a → ∃ b, f a = .ok b) :
    ∃ b, (x >>= f) = .ok b := by
  obtain ⟨a, ha⟩ := hx
  obtain ⟨b, hb⟩ := hf a ha
  exact ⟨b, bind_eq_ok.mpr ⟨a, ha, hb⟩⟩

theorem toOption_eq_some : x.toOption = some a ↔ x = .ok a := by
  cases x <;> simp [Except.toOption]

/-- The only error of a computation. -/
def RefusesWith (e : ε) (x : Except ε α) : Prop := ∀ err, x = .error err → err = e

theorem RefusesWith.ok (a : α) : RefusesWith e (.ok a) := fun _ h => nomatch h

theorem RefusesWith.ensure (p : Prop) [Decidable p] : RefusesWith e (Except.ensure p e) := by
  intro err h
  unfold Except.ensure at h
  split at h
  · cases h
  · exact (Except.error.inj h).symm

theorem RefusesWith.bind (hx : RefusesWith e x) (hf : ∀ a, RefusesWith e (f a)) :
    RefusesWith e (x >>= f) := by
  intro err h
  cases x with
  | error err' => exact (Except.error.inj h) ▸ hx err' rfl
  | ok a => exact hf a err h

/-- With a single error, a check is the condition under which it passes. -/
theorem RefusesWith.eq_ensure {x : Except ε Unit} (hx : RefusesWith e x) {p : Prop} [Decidable p]
    (h : x = .ok () ↔ p) : x = Except.ensure p e := by
  unfold Except.ensure
  split
  · next hp => exact h.mpr hp
  · next hp =>
      cases x with
      | error err => exact congrArg Except.error (hx err rfl)
      | ok u => exact absurd (h.mp rfl) hp

def mapList (f : α → Except ε β) : List α → Except ε (List β)
  | [] => .ok []
  | a :: rest => do
    let b ← f a
    let bs ← mapList f rest
    pure (b :: bs)

@[simp] theorem mapList_eq_ok {out : List β} :
    mapList f l = .ok out ↔ List.Forall₂ (fun a b => f a = .ok b) l out := by
  induction l generalizing out with
  | nil => cases out <;> simp [mapList]
  | cons a rest ih =>
    cases out with
    | nil => simp [mapList]
    | cons b bs => simp [mapList, ih]

theorem mapList_forall₂ {γ : Type*} {R : γ → α → Prop} {S : γ → β → Prop} {as : List γ}
    (h : List.Forall₂ R as l) (hf : ∀ c a, R c a → ∃ b, f a = .ok b ∧ S c b) :
    ∃ out, mapList f l = .ok out ∧ List.Forall₂ S as out := by
  induction h with
  | nil => exact ⟨[], rfl, .nil⟩
  | cons hca _ ih =>
    obtain ⟨b, hb, hS⟩ := hf _ _ hca
    obtain ⟨bs, hbs, hall⟩ := ih
    exact ⟨b :: bs, bind_of hb (bind_of hbs rfl), .cons hS hall⟩

theorem exists_mapList {R : α → β → Prop} (h : ∀ a ∈ l, ∃ b, f a = .ok b ∧ R a b) :
    ∃ out, mapList f l = .ok out ∧ List.Forall₂ R l out := by
  have hsame : List.Forall₂ (fun a b => a = b ∧ a ∈ l) l l :=
    List.forall₂_same.mpr fun a ha => ⟨rfl, ha⟩
  refine mapList_forall₂ hsame ?_
  rintro a _ ⟨rfl, ha⟩
  exact h a ha

theorem mapList_eq_map {g : α → β} (h : ∀ a ∈ l, f a = .ok (g a)) :
    mapList f l = .ok (l.map g) := by
  rw [mapList_eq_ok, List.forall₂_map_right_iff, List.forall₂_same]
  exact h

theorem foldlM_invariant {f : β → α → Except ε β} (inv : List α → β → Prop)
    (hstep : ∀ a rest b b', inv (a :: rest) b → f b a = .ok b' → inv rest b') {b' : β}
    (hb : inv l b) (h : l.foldlM f b = .ok b') : inv [] b' := by
  induction l generalizing b with
  | nil => exact pure_eq_ok.mp h ▸ hb
  | cons a rest ih =>
    rw [List.foldlM_cons, bind_eq_ok] at h
    obtain ⟨c, hc, hrest⟩ := h
    exact ih (hstep a rest b c hb hc) hrest

end Except
