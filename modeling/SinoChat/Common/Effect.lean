import Mathlib.Data.List.Basic

/-!
# Operations that change a state and may fail

An asynchronous operation reads and changes what is outside of it and ends with
a value or an error. What it changed before an error stays changed: nothing is
rolled back. A sequence goes on with the value of its first operation
(`bind_eq_ok`) or ends with its error (`bind_eq_error`).
-/

/-- An operation on a state. -/
def Effect (ε σ α : Type) : Type := σ → Except ε α × σ

namespace Effect

variable {ε σ α β : Type}

instance : Monad (Effect ε σ) where
  pure a s := (.ok a, s)
  bind x f s :=
    match x s with
    | (.ok a, t) => f a t
    | (.error e, t) => (.error e, t)

/-- A computation that touches no state. -/
def lift (x : Except ε α) : Effect ε σ α := fun s => (x, s)

/-- Fail at once. -/
def fail (e : ε) : Effect ε σ α := fun s => (.error e, s)

/-- Change the state. -/
def change (f : σ → σ) : Effect ε σ Unit := fun s => (.ok (), f s)

@[simp] theorem pure_eq_ok {a b : α} {s t : σ} :
    (pure a : Effect ε σ α) s = (.ok b, t) ↔ a = b ∧ s = t := by
  constructor
  · intro h
    obtain ⟨hvalue, hstate⟩ := Prod.mk.inj h
    exact ⟨Except.ok.inj hvalue, hstate⟩
  · rintro ⟨rfl, rfl⟩
    rfl

@[simp] theorem lift_eq {x y : Except ε α} {s t : σ} :
    lift x s = (y, t) ↔ x = y ∧ s = t := Prod.mk.injEq _ _ _ _ ▸ Iff.rfl

/-- A sequence succeeds when the first operation does, and the rest with its value. -/
theorem bind_eq_ok {x : Effect ε σ α} {f : α → Effect ε σ β} {b : β} {s t : σ} :
    (x >>= f) s = (.ok b, t) ↔ ∃ a u, x s = (.ok a, u) ∧ f a u = (.ok b, t) := by
  change (match x s with
    | (.ok a, u) => f a u
    | (.error e, u) => (.error e, u)) = _ ↔ _
  rcases x s with ⟨e | a, u⟩ <;> simp [and_assoc]

/-- A sequence fails where the first operation does, or else where the rest does. -/
theorem bind_eq_error {x : Effect ε σ α} {f : α → Effect ε σ β} {e : ε} {s t : σ} :
    (x >>= f) s = (.error e, t) ↔
      x s = (.error e, t) ∨ ∃ a u, x s = (.ok a, u) ∧ f a u = (.error e, t) := by
  change (match x s with
    | (.ok a, u) => f a u
    | (.error e, u) => (.error e, u)) = _ ↔ _
  rcases x s with ⟨e' | a, u⟩ <;> simp [and_assoc]

/-- A sequence ends with its first operation, or goes on behind it. -/
theorem bind_cases {x : Effect ε σ α} {f : α → Effect ε σ β} {y : Except ε β} {s t : σ}
    (h : (x >>= f) s = (y, t)) :
    (∃ e, x s = (.error e, t) ∧ y = .error e) ∨ ∃ a u, x s = (.ok a, u) ∧ f a u = (y, t) := by
  cases y with
  | ok b => exact .inr (bind_eq_ok.mp h)
  | error e =>
    rcases bind_eq_error.mp h with hfirst | hrest
    · exact .inl ⟨e, hfirst, rfl⟩
    · exact .inr hrest

/-- Go on behind a first operation that succeeds. -/
theorem bind_of_ok {x : Effect ε σ α} {f : α → Effect ε σ β} {a : α} {s u : σ}
    (h : x s = (.ok a, u)) : (x >>= f) s = f a u := by
  change (match x s with
    | (.ok a, u) => f a u
    | (.error e, u) => (.error e, u)) = _
  rw [h]

/-- End with the error of the first operation. -/
theorem bind_of_error {x : Effect ε σ α} {f : α → Effect ε σ β} {e : ε} {s u : σ}
    (h : x s = (.error e, u)) : (x >>= f) s = (.error e, u) := by
  change (match x s with
    | (.ok a, u) => f a u
    | (.error e, u) => (.error e, u)) = _
  rw [h]

/-- The rest of a sequence sees only what its first operation ends with. -/
theorem bind_congr {x y : Effect ε σ α} {f : α → Effect ε σ β} {s t : σ} (h : x s = y t) :
    (x >>= f) s = (y >>= f) t := by
  change (match x s with
    | (.ok a, u) => f a u
    | (.error e, u) => (.error e, u)) = _
  rw [h]
  rfl

/-! ## Errors an operation avoids -/

/-- No error of a kind, from any state. -/
def Avoids (kind : ε → Prop) (x : Effect ε σ α) : Prop :=
  ∀ s e t, x s = (.error e, t) → ¬ kind e

theorem avoids_pure {kind : ε → Prop} (a : α) : Avoids kind (pure a : Effect ε σ α) :=
  fun _ _ _ h => by cases h

theorem Avoids.bind {kind : ε → Prop} {x : Effect ε σ α} {f : α → Effect ε σ β}
    (hx : x.Avoids kind) (hf : ∀ a, (f a).Avoids kind) : (x >>= f).Avoids kind := by
  intro s e t h
  rcases bind_eq_error.mp h with h | ⟨a, u, -, h⟩
  · exact hx s e t h
  · exact hf a u e t h

theorem avoids_lift {kind : ε → Prop} {x : Except ε α} (h : ∀ e, x = .error e → ¬ kind e) :
    (lift x : Effect ε σ α).Avoids kind :=
  fun _ e _ heq => h e (lift_eq.mp heq).1

/-! ## What an operation does to the state -/

/-- The states before and behind an operation are related, however it ends. -/
def Respects (R : σ → σ → Prop) (x : Effect ε σ α) : Prop := ∀ s y t, x s = (y, t) → R s t

theorem respects_pure {R : σ → σ → Prop} (hrefl : ∀ s, R s s) (a : α) :
    Respects R (pure a : Effect ε σ α) := by
  intro s y t h
  cases h
  exact hrefl s

theorem respects_lift {R : σ → σ → Prop} (hrefl : ∀ s, R s s) (x : Except ε α) :
    Respects R (lift x : Effect ε σ α) := by
  intro s y t h
  cases h
  exact hrefl s

theorem Respects.bind {R : σ → σ → Prop} (htrans : ∀ s t u, R s t → R t u → R s u)
    {x : Effect ε σ α} {f : α → Effect ε σ β} (hx : x.Respects R) (hf : ∀ a, (f a).Respects R) :
    (x >>= f).Respects R := by
  intro s y t h
  cases y with
  | ok b =>
    obtain ⟨a, u, hfirst, hrest⟩ := bind_eq_ok.mp h
    exact htrans s u t (hx s _ u hfirst) (hf a u _ t hrest)
  | error e =>
    rcases bind_eq_error.mp h with hfirst | ⟨a, u, hfirst, hrest⟩
    · exact hx s _ t hfirst
    · exact htrans s u t (hx s _ u hfirst) (hf a u _ t hrest)

/-! ## Writing down what happens -/

/-- An operation that adds to a log what it ends with. -/
def noting {κ : Type} (note : Except ε α → List κ) (x : Effect ε σ α) :
    Effect ε (σ × List κ) α :=
  fun p => ((x p.1).1, ((x p.1).2, p.2 ++ note (x p.1).1))

/-- The same operation on a state with something beside it. -/
def Shadows {τ : Type} (y : Effect ε (σ × τ) α) (x : Effect ε σ α) : Prop :=
  ∀ s l, ∃ l', y (s, l) = ((x s).1, ((x s).2, l'))

section Shadows

variable {τ κ : Type}

theorem shadows_pure (a : α) : Shadows (pure a : Effect ε (σ × τ) α) (pure a : Effect ε σ α) :=
  fun _ l => ⟨l, rfl⟩

theorem shadows_lift (x : Except ε α) :
    Shadows (lift x : Effect ε (σ × τ) α) (lift x : Effect ε σ α) :=
  fun _ l => ⟨l, rfl⟩

theorem shadows_noting (note : Except ε α → List κ) (x : Effect ε σ α) :
    (x.noting note).Shadows x :=
  fun _ _ => ⟨_, rfl⟩

theorem Shadows.bind {y : Effect ε (σ × τ) α} {x : Effect ε σ α}
    {g : α → Effect ε (σ × τ) β} {f : α → Effect ε σ β} (h : y.Shadows x)
    (hrest : ∀ a, (g a).Shadows (f a)) : (y >>= g).Shadows (x >>= f) := by
  intro s l
  obtain ⟨l', hfirst⟩ := h s l
  rcases hx : x s with ⟨e | a, t⟩
  · rw [hx] at hfirst
    exact ⟨l', by rw [bind_of_error hfirst, bind_of_error hx]⟩
  · rw [hx] at hfirst
    obtain ⟨l'', hsecond⟩ := hrest a t l'
    exact ⟨l'', by rw [bind_of_ok hfirst, bind_of_ok hx, hsecond]⟩

/-- What the operation with the log ends with, the operation ends with. -/
theorem Shadows.eq {y : Effect ε (σ × τ) α} {x : Effect ε σ α} (h : y.Shadows x) {s t : σ}
    {l l' : τ} {r : Except ε α} (heq : y (s, l) = (r, (t, l'))) : x s = (r, t) := by
  obtain ⟨l'', hx⟩ := h s l
  rw [hx] at heq
  obtain ⟨hvalue, hstate⟩ := Prod.mk.inj heq
  exact Prod.ext hvalue (Prod.mk.inj hstate).1

end Shadows

end Effect
