import Mathlib.Tactic.Common

/-!
# Fallible updates of a mutable state

A method on `&mut self` that can fail keeps the edits it made before the error.
`EStateM` is that shape; the lemmas read a successful run back into its steps.
-/

namespace EStateM

universe u
variable {ε σ α β : Type u}

def ofExcept (x : Except ε α) : EStateM ε σ α := fun s =>
  match x with
  | .ok a => .ok a s
  | .error e => .error e s

/-- A fallible reading of the state. -/
def check (f : σ → Except ε α) : EStateM ε σ α := fun s => ofExcept (f s) s

def update (f : σ → Except ε σ) : EStateM ε σ PUnit := fun s =>
  match f s with
  | .ok s' => .ok .unit s'
  | .error e => .error e s

/-- Go on after an error, with the edits made before it. -/
def attempt (x : EStateM ε σ α) : EStateM ε σ (Option α) := fun s =>
  match x s with
  | .ok a s' => .ok (some a) s'
  | .error _ s' => .ok none s'

/-- The state a run ends in, whether or not it failed. -/
def final (x : EStateM ε σ α) (s : σ) : σ :=
  match x s with
  | .ok _ s' => s'
  | .error _ s' => s'

def value (x : EStateM ε σ α) (s : σ) : Except ε α :=
  match x s with
  | .ok a _ => .ok a
  | .error e _ => .error e

def toExcept (x : EStateM ε σ α) (s : σ) : Except ε (α × σ) :=
  match x s with
  | .ok a s' => .ok (a, s')
  | .error e _ => .error e

def Succeeds (x : EStateM ε σ α) (s : σ) : Prop := ∃ a s', x s = .ok a s'

def zoom {ε' τ : Type u} (part : σ → τ) (put : τ → σ → σ) (wrap : ε' → ε) (x : EStateM ε' τ α) :
    EStateM ε σ α := fun s =>
  match x (part s) with
  | .ok a t => .ok a (put t s)
  | .error e t => .error (wrap e) (put t s)

variable {x : EStateM ε σ α} {f : α → EStateM ε σ β} {s s' t : σ} {b : β} {a : α} {u : PUnit}

@[simp] theorem bind_eq_ok :
    (x >>= f) s = .ok b s' ↔ ∃ a t, x s = .ok a t ∧ f a t = .ok b s' := by
  change EStateM.bind x f s = _ ↔ _
  unfold EStateM.bind
  cases x s with
  | ok a t => exact ⟨fun h => ⟨a, t, rfl, h⟩, fun ⟨_, _, h, hf⟩ => by cases h; exact hf⟩
  | error e t => exact ⟨nofun, fun ⟨_, _, h, _⟩ => nomatch h⟩

theorem bind_of_ok (h : x s = .ok a t) : (x >>= f) s = f a t := by
  change EStateM.bind x f s = _
  simp [EStateM.bind, h]

theorem bind_of_error {e : ε} (h : x s = .error e t) : (x >>= f) s = .error e t := by
  change EStateM.bind x f s = _
  simp [EStateM.bind, h]

@[simp] theorem pure_eq_ok {b : α} :
    (pure a : EStateM ε σ α) s = .ok b s' ↔ a = b ∧ s = s' := by
  change Result.ok a s = Result.ok b s' ↔ _
  simp

@[simp] theorem get_eq_ok :
    (get : EStateM ε σ σ) s = .ok t s' ↔ s = t ∧ s = s' := by
  change Result.ok s s = Result.ok t s' ↔ _
  simp

@[simp] theorem set_eq_ok :
    (set t : EStateM ε σ PUnit) s = .ok u s' ↔ t = s' := by
  change Result.ok PUnit.unit t = Result.ok u s' ↔ _
  simp

@[simp] theorem modify_eq_ok {g : σ → σ} :
    (modify g : EStateM ε σ PUnit) s = .ok u s' ↔ g s = s' := by
  change Result.ok PUnit.unit (g s) = Result.ok u s' ↔ _
  simp

@[simp] theorem ofExcept_eq_ok {x : Except ε α} :
    (ofExcept x : EStateM ε σ α) s = .ok a s' ↔ x = .ok a ∧ s = s' := by
  cases x <;> simp [ofExcept]

@[simp] theorem modifyGet_eq_ok {g : σ → α × σ} :
    (modifyGet g : EStateM ε σ α) s = .ok a s' ↔ (g s).1 = a ∧ (g s).2 = s' := by
  change Result.ok (g s).1 (g s).2 = Result.ok a s' ↔ _
  simp

@[simp] theorem check_eq_ok {f : σ → Except ε α} :
    check f s = .ok a s' ↔ f s = .ok a ∧ s = s' :=
  ofExcept_eq_ok

@[simp] theorem update_eq_ok {f : σ → Except ε σ} :
    update f s = .ok u s' ↔ f s = .ok s' := by
  unfold update
  cases f s <;> simp

@[simp] theorem zoom_eq_ok {ε' τ : Type u} {part : σ → τ} {put : τ → σ → σ} {wrap : ε' → ε}
    {x : EStateM ε' τ α} :
    zoom part put wrap x s = .ok a s' ↔ ∃ t, x (part s) = .ok a t ∧ put t s = s' := by
  unfold zoom
  cases x (part s) <;> simp

theorem value_toOption_eq_some :
    (x.value s).toOption = some a ↔ ∃ t, x s = .ok a t := by
  unfold value
  cases x s with
  | ok b t => simp [Except.toOption]
  | error e t => simp [Except.toOption]

/-! A step that cannot fail or does not write needs no state of its own when a
successful run is read back. -/

theorem check_bind_eq_ok {f : σ → Except ε α} {g : α → EStateM ε σ β} :
    (check f >>= g) s = .ok b s' ↔ ∃ a, f s = .ok a ∧ g a s = .ok b s' := by
  simp only [bind_eq_ok, check_eq_ok]
  constructor
  · rintro ⟨a, _, ⟨ha, rfl⟩, hg⟩
    exact ⟨a, ha, hg⟩
  · rintro ⟨a, ha, hg⟩
    exact ⟨a, s, ⟨ha, rfl⟩, hg⟩

theorem modify_bind_eq_ok {f : σ → σ} {g : PUnit → EStateM ε σ β} :
    (modify f >>= g) s = .ok b s' ↔ g .unit (f s) = .ok b s' := Iff.rfl

theorem modifyGet_bind_eq_ok {f : σ → α × σ} {g : α → EStateM ε σ β} :
    (modifyGet f >>= g) s = .ok b s' ↔ g (f s).1 (f s).2 = .ok b s' := Iff.rfl

@[simp] theorem toExcept_eq_ok {r : α × σ} :
    x.toExcept s = .ok r ↔ x s = .ok r.1 r.2 := by
  unfold toExcept
  cases x s with
  | ok a t => exact ⟨fun h => by cases h; rfl, fun h => by cases h; rfl⟩
  | error e t => exact ⟨nofun, nofun⟩

section Failed
variable {s s' : σ} {e : ε}

@[simp] theorem bind_eq_error {x : EStateM ε σ α} {f : α → EStateM ε σ β} :
    (x >>= f) s = .error e s' ↔
      x s = .error e s' ∨ ∃ a t, x s = .ok a t ∧ f a t = .error e s' := by
  cases hrun : x s with
  | ok a t =>
    rw [bind_of_ok hrun]
    simp
  | error e₁ t =>
    rw [bind_of_error hrun]
    simp

@[simp] theorem pure_ne_error {a : α} : (pure a : EStateM ε σ α) s ≠ .error e s' := nofun

@[simp] theorem modify_ne_error {g : σ → σ} :
    (modify g : EStateM ε σ PUnit) s ≠ .error e s' := nofun

@[simp] theorem modifyGet_ne_error {g : σ → α × σ} :
    (modifyGet g : EStateM ε σ α) s ≠ .error e s' := nofun

@[simp] theorem ofExcept_eq_error {x : Except ε α} :
    (ofExcept x : EStateM ε σ α) s = .error e s' ↔ x = .error e ∧ s = s' := by
  cases x <;> simp [ofExcept]

@[simp] theorem check_eq_error {f : σ → Except ε α} :
    check f s = .error e s' ↔ f s = .error e ∧ s = s' :=
  ofExcept_eq_error

@[simp] theorem zoom_eq_error {ε' τ : Type u} {part : σ → τ} {put : τ → σ → σ} {wrap : ε' → ε}
    {x : EStateM ε' τ α} :
    zoom part put wrap x s = .error e s' ↔
      ∃ e' t, x (part s) = .error e' t ∧ wrap e' = e ∧ put t s = s' := by
  unfold zoom
  cases x (part s) <;> simp

theorem check_bind_eq_error {f : σ → Except ε α} {g : α → EStateM ε σ β} :
    (check f >>= g) s = .error e s' ↔
      (f s = .error e ∧ s = s') ∨ ∃ a, f s = .ok a ∧ g a s = .error e s' := by
  cases hread : f s with
  | ok a =>
    rw [bind_of_ok (check_eq_ok.mpr ⟨hread, rfl⟩)]
    simp
  | error e₁ =>
    rw [bind_of_error (check_eq_error.mpr ⟨hread, rfl⟩)]
    simp

theorem modify_bind_eq_error {f : σ → σ} {g : PUnit → EStateM ε σ β} :
    (modify f >>= g) s = .error e s' ↔ g .unit (f s) = .error e s' := Iff.rfl

theorem modifyGet_bind_eq_error {f : σ → α × σ} {g : α → EStateM ε σ β} :
    (modifyGet f >>= g) s = .error e s' ↔ g (f s).1 (f s).2 = .error e s' := Iff.rfl

end Failed

section Final
variable {s : σ}

variable {x : EStateM ε σ α} {a : α} {t : σ} {e : ε} {f g : α → EStateM ε σ β}

theorem final_of_ok (h : x s = .ok a t) : x.final s = t := by
  rw [final, h]

theorem final_of_error (h : x s = .error e t) :
    x.final s = t := by
  rw [final, h]

theorem final_bind_of_ok (h : x s = .ok a t) : (x >>= f).final s = (f a).final t := by
  rw [final, bind_of_ok h, final]

theorem final_bind_of_error (h : x s = .error e t) : (x >>= f).final s = t := by
  rw [final, bind_of_error h]

theorem final_bind {P : σ → Prop} (hx : P (x.final s))
    (hf : ∀ a t, x s = .ok a t → P t → P ((f a).final t)) : P ((x >>= f).final s) := by
  cases hrun : x s with
  | ok a t =>
    rw [final_bind_of_ok hrun]
    exact hf a t hrun (final_of_ok hrun ▸ hx)
  | error e t =>
    rw [final_bind_of_error hrun]
    exact final_of_error hrun ▸ hx

theorem final_check_bind {f : σ → Except ε α} (h : f s = .ok a) :
    (check f >>= g).final s = (g a).final s :=
  final_bind_of_ok (check_eq_ok.mpr ⟨h, rfl⟩)

theorem final_check_bind_error {f : σ → Except ε α} (h : f s = .error e) :
    (check f >>= g).final s = s :=
  final_bind_of_error (check_eq_error.mpr ⟨h, rfl⟩)

theorem final_read_bind {f : σ → α} :
    (check (fun s => pure (f s)) >>= g).final s = (g (f s)).final s := rfl

theorem final_modify_bind {f : σ → σ} {g : PUnit → EStateM ε σ β} :
    ((modify f : EStateM ε σ PUnit) >>= g).final s = (g .unit).final (f s) := rfl

theorem final_bind_pure {b : β} :
    (x >>= fun _ => pure b).final s = x.final s := by
  unfold final
  cases hrun : x s with
  | ok a t => rw [bind_of_ok hrun]; rfl
  | error e t => rw [bind_of_error hrun]

theorem final_zoom {ε' τ : Type u} {part : σ → τ} {put : τ → σ → σ} {wrap : ε' → ε}
    {x : EStateM ε' τ α} : (zoom part put wrap x).final s = put (x.final (part s)) s := by
  unfold final zoom
  cases x (part s) <;> rfl

theorem Succeeds.of_bind (h : (x >>= f).Succeeds s) :
    x.Succeeds s := by
  obtain ⟨b, s', hrun⟩ := h
  obtain ⟨a, t, hx, -⟩ := bind_eq_ok.mp hrun
  exact ⟨a, t, hx⟩

theorem not_succeeds_of_error (h : x s = .error e t) :
    ¬ x.Succeeds s := by
  rintro ⟨a, s', hok⟩
  rw [h] at hok
  cases hok

instance (x : EStateM ε σ α) (s : σ) : Decidable (x.Succeeds s) :=
  match h : x s with
  | .ok a t => .isTrue ⟨a, t, h⟩
  | .error _ _ => .isFalse (not_succeeds_of_error h)

end Final

variable {τ : Type*} {view : σ → τ}

def KeepsAt (view : σ → τ) (x : EStateM ε σ α) (s : σ) : Prop := view (x.final s) = view s

theorem KeepsAt.of_ok (h : KeepsAt view x s) (hok : x s = .ok a s') : view s' = view s := by
  simpa [KeepsAt, final, hok] using h

theorem KeepsAt.of_error {e : ε} (h : KeepsAt view x s) (herror : x s = .error e s') :
    view s' = view s := by
  simpa [KeepsAt, final, herror] using h

theorem KeepsAt.bind (hx : KeepsAt view x s) (hf : ∀ a t, x s = .ok a t → KeepsAt view (f a) t) :
    KeepsAt view (x >>= f) s := by
  unfold KeepsAt at hx ⊢
  exact final_bind (P := fun t => view t = view s) hx fun a t hrun ht => (hf a t hrun).trans ht

theorem keepsAt_pure (a : α) (s : σ) : KeepsAt view (pure a : EStateM ε σ α) s := rfl

theorem keepsAt_throw (e : ε) (s : σ) : KeepsAt view (throw e : EStateM ε σ α) s := rfl

theorem keepsAt_get (s : σ) : KeepsAt view (get : EStateM ε σ σ) s := rfl

theorem keepsAt_ofExcept (x : Except ε α) (s : σ) : KeepsAt view (ofExcept x : EStateM ε σ α) s := by
  cases x <;> rfl

theorem keepsAt_set (h : view t = view s) :
    KeepsAt view (set t : EStateM ε σ PUnit) s := h

theorem keepsAt_modify {g : σ → σ} (h : view (g s) = view s) :
    KeepsAt view (modify g : EStateM ε σ PUnit) s := h

theorem KeepsAt.attempt (h : KeepsAt view x s) :
    KeepsAt view x.attempt s := by
  unfold KeepsAt final EStateM.attempt at *
  cases hrun : x s with
  | ok a t => simpa [hrun] using h
  | error e t => simpa [hrun] using h

/-- From every state, the part seen by `view` stays. -/
def Keeps (view : σ → τ) (x : EStateM ε σ α) : Prop := ∀ s, KeepsAt view x s

namespace Keeps

variable {x : EStateM ε σ α}

theorem of_ok {s s' : σ} {a : α} (h : Keeps view x) (hok : x s = .ok a s') :
    view s' = view s := (h s).of_ok hok

theorem bind {f : α → EStateM ε σ β} (hx : Keeps view x) (hf : ∀ a, Keeps view (f a)) :
    Keeps view (x >>= f) :=
  fun s => (hx s).bind fun a t _ => hf a t

theorem comp {τ' : Type*} (g : τ → τ') (h : Keeps view x) :
    Keeps (fun s => g (view s)) x := fun s => congrArg g (h s)

theorem pure (a : α) : Keeps view (Pure.pure a : EStateM ε σ α) := keepsAt_pure a

theorem check (f : σ → Except ε α) : Keeps view (EStateM.check f : EStateM ε σ α) :=
  fun s => keepsAt_ofExcept (f s) s

theorem modify {g : σ → σ} (h : ∀ s, view (g s) = view s) :
    Keeps view (modify g : EStateM ε σ PUnit) := fun s => keepsAt_modify (h s)

theorem modifyGet {g : σ → α × σ} (h : ∀ s, view (g s).2 = view s) :
    Keeps view (modifyGet g : EStateM ε σ α) := fun s => h s

theorem zoom {ε' τ' : Type u} {part : σ → τ'} {put : τ' → σ → σ} {wrap : ε' → ε}
    {x : EStateM ε' τ' α} (h : ∀ t s, view (put t s) = view s) :
    Keeps view (EStateM.zoom part put wrap x) := by
  intro s
  unfold KeepsAt final EStateM.zoom
  cases x (part s) <;> exact h _ s

end Keeps

/-- From every state with the property, successful or not, the run ends in one. -/
def Preserves (P : σ → Prop) (x : EStateM ε σ α) : Prop := ∀ s, P s → P (x.final s)

namespace Preserves

variable {P : σ → Prop}

variable {x : EStateM ε σ α} {f : α → EStateM ε σ β}

theorem of_ok {s s' : σ} {a : α} (h : Preserves P x) (hs : P s) (hok : x s = .ok a s') : P s' := by
  simpa [final, hok] using h s hs

theorem of_error {s s' : σ} {e : ε} (h : Preserves P x) (hs : P s) (herror : x s = .error e s') :
    P s' := by
  simpa [final, herror] using h s hs

theorem bind_ok (hx : Preserves P x) (hf : ∀ s a t, P s → x s = .ok a t → P ((f a).final t)) :
    Preserves P (x >>= f) := by
  intro s hs
  exact final_bind (hx s hs) fun a t hrun _ => hf s a t hs hrun

theorem bind_stronger {Q : σ → Prop} (hx : Preserves P x) (hQ : ∀ s a t, P s → x s = .ok a t → Q t)
    (hf : ∀ a, Preserves Q (f a)) (hweaker : ∀ s, Q s → P s) : Preserves P (x >>= f) :=
  hx.bind_ok fun s a t hs hok => hweaker _ (hf a t (hQ s a t hs hok))

theorem bind (hx : Preserves P x) (hf : ∀ a, Preserves P (f a)) : Preserves P (x >>= f) :=
  hx.bind_ok fun _ a t hs hok => hf a t (hx.of_ok hs hok)

theorem pure (a : α) : Preserves P (Pure.pure a : EStateM ε σ α) := fun _ hs => hs

theorem get : Preserves P (MonadState.get : EStateM ε σ σ) := fun _ hs => hs

theorem ofExcept (x : Except ε α) : Preserves P (EStateM.ofExcept x : EStateM ε σ α) := by
  intro s hs
  unfold final EStateM.ofExcept
  cases x <;> exact hs

theorem check (f : σ → Except ε α) : Preserves P (EStateM.check f : EStateM ε σ α) :=
  fun s hs => ofExcept (f s) s hs

theorem modify {g : σ → σ} (h : ∀ s, P s → P (g s)) :
    Preserves P (modify g : EStateM ε σ PUnit) := h

theorem modifyGet {g : σ → α × σ} (h : ∀ s, P s → P (g s).2) :
    Preserves P (modifyGet g : EStateM ε σ α) := h

theorem zoom {ε' τ' : Type u} {part : σ → τ'} {put : τ' → σ → σ} {wrap : ε' → ε}
    {x : EStateM ε' τ' α} (h : ∀ t s, P s → P (put t s)) :
    Preserves P (EStateM.zoom part put wrap x) := by
  intro s hs
  unfold final EStateM.zoom
  cases x (part s) <;> exact h _ s hs

end Preserves

/-- From every state with the first property the run ends in one with the second. -/
def Leads (P Q : σ → Prop) (x : EStateM ε σ α) : Prop := ∀ s, P s → Q (x.final s)

theorem Leads.bind {P Q R : σ → Prop} (hx : Leads P R x) (hf : ∀ a, Leads R Q (f a))
    (hweaker : ∀ s, R s → Q s) : Leads P Q (x >>= f) := by
  intro s hs
  refine final_bind (hweaker _ (hx s hs)) fun a t hrun _ => hf a t ?_
  rw [← final_of_ok hrun]
  exact hx s hs

theorem Leads.after {P Q : σ → Prop} (hx : Preserves P x) (hf : ∀ a, Leads P Q (f a))
    (hweaker : ∀ s, P s → Q s) : Leads P Q (x >>= f) :=
  .bind (R := P) hx hf hweaker

/-- A property of the view survives what keeps the view. -/
theorem Preserves.of_keeps {P : τ → Prop} (h : Keeps view x) : Preserves (fun s => P (view s)) x :=
  fun s hs => (congrArg P (h s)).mpr hs

theorem keeps_iff_preserves :
    Keeps view x ↔ ∀ v, Preserves (fun s => view s = v) x := by
  constructor
  · intro h v s hs
    exact (h s).trans hs
  · intro h s
    exact h (view s) s rfl

theorem KeepsAt.get_bind {f : σ → EStateM ε σ β} (h : KeepsAt view (f s) s) :
    KeepsAt view (get >>= f) s := by
  apply KeepsAt.bind (keepsAt_get s)
  intro a t hrun
  obtain ⟨rfl, rfl⟩ := get_eq_ok.mp hrun
  exact h

end EStateM
