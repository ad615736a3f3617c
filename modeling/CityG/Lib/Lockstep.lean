import CityG.Lib.Stateful

/-!
# Two successful runs side by side

Rules for showing that a relation between two states survives two runs, as long
as both succeed. The runs may pass on different values; what is known of them is
a relation of its own.
-/

namespace EStateM

universe u
variable {ε σ α β γ δ : Type u} {τ : Type*}

def Lockstep (R : σ → σ → Prop) (V : α → β → Prop) (x : EStateM ε σ α) (y : EStateM ε σ β) : Prop :=
  ∀ ⦃s t a b s' t'⦄, R s t → x s = .ok a s' → y t = .ok b t' → V a b ∧ R s' t'

namespace Lockstep
variable {R : σ → σ → Prop} {V : α → β → Prop} {W : γ → δ → Prop}

variable {x : EStateM ε σ α} {y : EStateM ε σ β} {f : σ → Except ε α}

theorem bind {f : α → EStateM ε σ γ} {g : β → EStateM ε σ δ} (hx : Lockstep R V x y)
    (hf : ∀ a b, V a b → Lockstep R W (f a) (g b)) :
    Lockstep R W (x >>= f) (y >>= g) := by
  intro s t c d s' t' hrel hs ht
  obtain ⟨a, s₁, hxs, hfs⟩ := bind_eq_ok.mp hs
  obtain ⟨b, t₁, hyt, hgt⟩ := bind_eq_ok.mp ht
  obtain ⟨hvalue, hmiddle⟩ := hx hrel hxs hyt
  exact hf a b hvalue hmiddle hfs hgt

theorem pure {a : α} {b : β} (h : V a b) :
    Lockstep R V (Pure.pure a : EStateM ε σ α) (Pure.pure b) := by
  intro s t a' b' s' t' hrel hs ht
  obtain ⟨rfl, rfl⟩ := pure_eq_ok.mp hs
  obtain ⟨rfl, rfl⟩ := pure_eq_ok.mp ht
  exact ⟨h, hrel⟩

theorem of_final (h : ∀ s t, R s t → R (x.final s) (y.final t)) :
    Lockstep R (fun _ _ => True) x y := by
  intro s t a b s' t' hrel hs ht
  have hfinal := h s t hrel
  rw [final_of_ok hs, final_of_ok ht] at hfinal
  exact ⟨trivial, hfinal⟩

theorem check_ok {g : σ → Except ε β} :
    Lockstep R (fun a b => (∃ s, f s = .ok a) ∧ ∃ t, g t = .ok b) (EStateM.check f)
      (EStateM.check g) := by
  intro s t a b s' t' hrel hs ht
  obtain ⟨hf, rfl⟩ := check_eq_ok.mp hs
  obtain ⟨hg, rfl⟩ := check_eq_ok.mp ht
  exact ⟨⟨⟨s, hf⟩, t, hg⟩, hrel⟩

theorem any_check {g : σ → Except ε β} :
    Lockstep R (fun _ _ => True) (EStateM.check f) (EStateM.check g) := by
  intro s t a b s' t' hrel hs ht
  exact ⟨trivial, (check_ok hrel hs ht).2⟩

theorem check {g : σ → Except ε α} (h : ∀ s t, R s t → f s = g t) :
    Lockstep R Eq (EStateM.check f) (EStateM.check g) := by
  intro s t a b s' t' hrel hs ht
  obtain ⟨hf, rfl⟩ := check_eq_ok.mp hs
  obtain ⟨hg, rfl⟩ := check_eq_ok.mp ht
  rw [h s t hrel] at hf
  exact ⟨Except.ok.inj (hf.symm.trans hg), hrel⟩

theorem get : Lockstep R R (MonadState.get : EStateM ε σ σ) MonadState.get := by
  intro s t a b s' t' hrel hs ht
  obtain ⟨rfl, rfl⟩ := get_eq_ok.mp hs
  obtain ⟨rfl, rfl⟩ := get_eq_ok.mp ht
  exact ⟨hrel, hrel⟩

theorem modify {f g : σ → σ} (h : ∀ s t, R s t → R (f s) (g t)) :
    Lockstep R (fun _ _ => True) (MonadState.modifyGet fun s => (PUnit.unit, f s) : EStateM ε σ PUnit)
      (MonadState.modifyGet fun s => (PUnit.unit, g s)) := by
  intro s t a b s' t' hrel hs ht
  obtain rfl := modify_eq_ok.mp hs
  obtain rfl := modify_eq_ok.mp ht
  exact ⟨trivial, h s t hrel⟩

theorem of_outcome {view : σ → τ} (value : τ → Except ε α) (effect : τ → τ)
    (h : ∀ s a s', x s = .ok a s' → value (view s) = .ok a ∧ view s' = effect (view s)) :
    Lockstep (fun s t => view s = view t) Eq x x := by
  intro s t a b s' t' hview hs ht
  obtain ⟨hvalue, heffect⟩ := h s a s' hs
  obtain ⟨hvalue', heffect'⟩ := h t b t' ht
  rw [hview, hvalue'] at hvalue
  have hafter : view s' = view t' := by rw [heffect, heffect', hview]
  exact ⟨(Except.ok.inj hvalue).symm, hafter⟩

theorem zoom {ε' σ' : Type u} {R' : σ' → σ' → Prop} {part : σ → σ'} {put : σ' → σ → σ}
    {wrap : ε' → ε} {x : EStateM ε' σ' α} {y : EStateM ε' σ' β}
    (hpart : ∀ s t, R s t → R' (part s) (part t))
    (hput : ∀ s t p q, R s t → R' p q → R (put p s) (put q t))
    (h : Lockstep R' V x y) : Lockstep R V (zoom part put wrap x) (zoom part put wrap y) := by
  intro s t a b s' t' hrel hs ht
  obtain ⟨p, hp, rfl⟩ := zoom_eq_ok.mp hs
  obtain ⟨q, hq, rfl⟩ := zoom_eq_ok.mp ht
  obtain ⟨hvalue, hinner⟩ := h (hpart s t hrel) hp hq
  exact ⟨hvalue, hput s t p q hrel hinner⟩

theorem final (h : Lockstep R V x y) {s t : σ} (hrel : R s t) (hx : x.Succeeds s)
    (hy : y.Succeeds t) : R (x.final s) (y.final t) := by
  obtain ⟨a, s', hs⟩ := hx
  obtain ⟨b, t', ht⟩ := hy
  rw [final_of_ok hs, final_of_ok ht]
  exact (h hrel hs ht).2

end Lockstep

end EStateM
