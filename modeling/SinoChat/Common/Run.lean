import Mathlib.Data.List.Basic

/-!
# Runs of a labelled machine

A machine is a set of initial states and a labelled step relation. A run is
the list of the labels of its steps, the latest first, with the state they
lead to; what happened before a step is the tail of the list at that step.

An invariant of label list and state is proved once, by a base and a step
(`Run.invariant`). A run can be cut at any of its steps (`Run.split`,
`Run.of_mem`), a run of one machine is a run of another that simulates it
(`Run.map`), and a run all of whose steps meet a condition is a run of the
machine restricted by it (`Machine.guarded`).
-/

/-- A labelled machine. -/
structure Machine (σ α : Type*) where
  init : σ → Prop
  step : σ → α → σ → Prop

namespace Machine

variable {σ τ α β : Type*} {M : Machine σ α}

/-- The runs of a machine, by their labels, the latest first. -/
inductive Run (M : Machine σ α) : List α → σ → Prop
  | init {s : σ} : M.init s → Run M [] s
  | step {trace : List α} {s s' : σ} {a : α} :
      Run M trace s → M.step s a s' → Run M (a :: trace) s'

/-- A state some run leads to. -/
def Reachable (M : Machine σ α) (s : σ) : Prop := ∃ trace, M.Run trace s

/-- The steps from one state to another. -/
inductive Steps (M : Machine σ α) (s : σ) : List α → σ → Prop
  | refl : Steps M s [] s
  | step {trace : List α} {t t' : σ} {a : α} :
      Steps M s trace t → M.step t a t' → Steps M s (a :: trace) t'

/-- **The invariant rule.** -/
theorem Run.invariant {I : List α → σ → Prop} (hinit : ∀ s, M.init s → I [] s)
    (hstep : ∀ trace s a s', M.Run trace s → I trace s → M.step s a s' → I (a :: trace) s')
    {trace : List α} {s : σ} (h : M.Run trace s) : I trace s := by
  induction h with
  | init hs => exact hinit _ hs
  | step hrun hs ih => exact hstep _ _ _ _ hrun ih hs

/-- What holds initially and is kept by every step from where it holds. -/
theorem Run.stateInvariant {I : σ → Prop} (hinit : ∀ s, M.init s → I s)
    (hstep : ∀ s a s', I s → M.step s a s' → I s') {trace : List α} {s : σ}
    (h : M.Run trace s) : I s :=
  h.invariant (I := fun _ s => I s) hinit fun _ s a s' _ hI hs => hstep s a s' hI hs

/-- Cut a run after the steps of `earlier`. -/
theorem Run.split {later earlier : List α} {s : σ} (h : M.Run (later ++ earlier) s) :
    ∃ t, M.Run earlier t ∧ M.Steps t later s := by
  induction later generalizing s with
  | nil => exact ⟨s, h, .refl⟩
  | cons a later ih =>
    cases h with
    | step hrun hstep =>
      obtain ⟨t, ht, hsteps⟩ := ih hrun
      exact ⟨t, ht, hsteps.step hstep⟩

/-- Go on from where a run ended. -/
theorem Run.append {later earlier : List α} {t s : σ} (h : M.Run earlier t)
    (hs : M.Steps t later s) : M.Run (later ++ earlier) s := by
  induction hs with
  | refl => exact h
  | step _ hstep ih => exact ih.step hstep

/-- Go on from where steps ended. -/
theorem Steps.append {earlier later : List α} {s t u : σ} (h : M.Steps s earlier t)
    (hs : M.Steps t later u) : M.Steps s (later ++ earlier) u := by
  induction hs with
  | refl => exact h
  | step _ hstep ih => exact ih.step hstep

/-- The step a label of a run stands for, with the run before it. -/
theorem Run.of_mem {trace : List α} {s : σ} {a : α} (h : M.Run trace s) (ha : a ∈ trace) :
    ∃ later earlier t t', trace = later ++ a :: earlier ∧ M.Run earlier t ∧ M.step t a t' ∧
      M.Steps t' later s := by
  obtain ⟨later, earlier, rfl⟩ := List.append_of_mem ha
  obtain ⟨t', hrun, hsteps⟩ := h.split
  cases hrun with
  | step hrun hstep => exact ⟨later, earlier, _, t', rfl, hrun, hstep, hsteps⟩

/-- What every step of the machine keeps, the steps between two states keep. -/
theorem Steps.invariant {I : σ → Prop} {s t : σ} {trace : List α}
    (hstep : ∀ s a s', I s → M.step s a s' → I s') (h : M.Steps s trace t) (hs : I s) : I t := by
  induction h with
  | refl => exact hs
  | step _ hst ih => exact hstep _ _ _ ih hst

/-- A reflexive and transitive relation every step respects. -/
theorem Steps.rel {R : σ → σ → Prop} (hrefl : ∀ s, R s s)
    (htrans : ∀ s t u, R s t → R t u → R s u) (hstep : ∀ s a s', M.step s a s' → R s s')
    {s t : σ} {trace : List α} (h : M.Steps s trace t) : R s t := by
  induction h with
  | refl => exact hrefl s
  | step _ hst ih => exact htrans _ _ _ ih (hstep _ _ _ hst)

/-! ## Simulation -/

/-- **A simulated run.** Where every step of one machine is a step of
another on the images, or no step there at all, a run maps to a run. -/
theorem Run.map {N : Machine τ β} (f : σ → τ) (g : α → Option β)
    (hinit : ∀ s, M.init s → N.init (f s))
    (hstep : ∀ s a s', M.step s a s' →
      match g a with
      | some b => N.step (f s) b (f s')
      | none => f s' = f s)
    {trace : List α} {s : σ} (h : M.Run trace s) : N.Run (trace.filterMap g) (f s) := by
  induction h with
  | init hs => exact .init (hinit _ hs)
  | @step trace s s' a _ hs ih =>
    have hcase := hstep _ _ _ hs
    cases hg : g a with
    | none =>
      rw [hg] at hcase
      simpa [List.filterMap_cons, hg, hcase] using ih
    | some b =>
      rw [hg] at hcase
      simpa [List.filterMap_cons, hg] using ih.step hcase

/-! ## Restriction -/

/-- The machine with the steps that meet a condition. -/
def guarded (M : Machine σ α) (allowed : σ → α → Prop) : Machine σ α where
  init := M.init
  step s a s' := M.step s a s' ∧ allowed s a

/-- A restricted run is a run. -/
theorem Run.of_guarded {allowed : σ → α → Prop} {trace : List α} {s : σ}
    (h : (M.guarded allowed).Run trace s) : M.Run trace s := by
  induction h with
  | init hs => exact .init hs
  | step _ hs ih => exact ih.step hs.1

/-- A run whose labels all meet the condition is a restricted run. -/
theorem Run.guarded {allowed : σ → α → Prop} {trace : List α} {s : σ} (h : M.Run trace s)
    (hall : ∀ a ∈ trace, ∀ s, allowed s a) : (M.guarded allowed).Run trace s := by
  induction h with
  | init hs => exact .init hs
  | step _ hs ih =>
    exact (ih fun a ha => hall a (List.mem_cons_of_mem _ ha)).step ⟨hs, hall _ List.mem_cons_self _⟩

/-- A weaker condition restricts less. -/
theorem Run.mono {allowed allowed' : σ → α → Prop} (hle : ∀ s a, allowed s a → allowed' s a)
    {trace : List α} {s : σ} (h : (M.guarded allowed).Run trace s) :
    (M.guarded allowed').Run trace s := by
  induction h with
  | init hs => exact .init hs
  | step _ hs ih => exact ih.step ⟨hs.1, hle _ _ hs.2⟩

/-! ## Scripts -/

/-- Carry out commands one after the other, each a step with its label, from
a state and the labels that led to it. -/
def perform {γ : Type*} (exec : γ → σ → Option (α × σ)) :
    List γ → List α → σ → Option (List α × σ)
  | [], trace, s => some (trace, s)
  | command :: rest, trace, s =>
    match exec command s with
    | some (a, s') => perform exec rest (a :: trace) s'
    | none => none

/-- Commands that are steps make a run. -/
theorem Run.perform {γ : Type*} {exec : γ → σ → Option (α × σ)}
    (hexec : ∀ command s a s', exec command s = some (a, s') → M.step s a s') {script : List γ}
    {trace trace' : List α} {s s' : σ} (hrun : M.Run trace s)
    (h : Machine.perform exec script trace s = some (trace', s')) : M.Run trace' s' := by
  induction script generalizing trace s with
  | nil =>
    cases h
    exact hrun
  | cons command rest ih =>
    rw [Machine.perform] at h
    split at h
    · rename_i a t hcommand
      exact ih (hrun.step (hexec _ _ _ _ hcommand)) h
    · cases h

/-- A script whose outcome passes a test gives a run that passes it. -/
theorem exists_run_of_perform {γ : Type*} {exec : γ → σ → Option (α × σ)}
    (hexec : ∀ command s a s', exec command s = some (a, s') → M.step s a s') {s : σ}
    (hs : M.init s) (script : List γ) (check : List α → σ → Bool)
    (h : (Machine.perform exec script [] s).any (fun outcome => check outcome.1 outcome.2) =
      true) : ∃ trace t, M.Run trace t ∧ check trace t = true := by
  obtain ⟨outcome, houtcome, hcheck⟩ := (Option.any_eq_true _ _).mp h
  exact ⟨outcome.1, outcome.2, (Run.init hs).perform hexec houtcome, hcheck⟩

end Machine
