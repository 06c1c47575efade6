import SinoChat.Common.Json

/-!
# What the services raise

A request ends with a value or with an exception of the HTTP framework. An
exception raised with an object sends that object as its body; one raised
with a text sends the text as the `message` of a body of the framework's
own.
-/

namespace SinoChat

open Js

/-- The error code a validator of the source throws. -/
abbrev ErrorCode := String

/-- An exception that leaves a service. -/
inductive HttpException where
  /-- Raised with an object, which is the body. -/
  | withBody (status : ℕ) (body : Json)
  /-- Raised with a text. -/
  | withMessage (status : ℕ) (message : String)
  /-- A plain `Error`: an internal failure. -/
  | internal (message : String)

namespace HttpException

/-- `new BadRequestException({ error, errcode })`. -/
def matrixError (error errcode : String) : HttpException :=
  .withBody 400 (.obj [(js "error", .str (js error)), (js "errcode", .str (js errcode))])

/-- The request is malformed. -/
def badRequest (message : String) : HttpException := .withMessage 400 message

/-- The caller is not known. -/
def unauthorized (message : String) : HttpException := .withMessage 401 message

/-- The caller may not. -/
def forbidden (message : String) : HttpException := .withMessage 403 message

/-- The state does not allow it. -/
def conflict (message : String) : HttpException := .withMessage 409 message

/-- The caller asks too often. -/
def tooManyRequests (message : String) : HttpException := .withMessage 429 message

/-- The status line. -/
def status : HttpException → ℕ
  | withBody status _ => status
  | withMessage status _ => status
  | internal _ => 500

end HttpException

/-- Raise unless a condition holds. -/
def require {ε : Type} (condition : Bool) (error : ε) : Except ε Unit :=
  if condition then .ok () else .error error

@[simp] theorem require_eq_ok {ε : Type} {condition : Bool} {error : ε} {u : Unit} :
    require condition error = .ok u ↔ condition = true := by
  cases condition <;> simp [require]

/-- The value of an option, or the error. -/
def orThrow {ε α : Type} (value : Option α) (error : ε) : Except ε α :=
  match value with
  | some a => .ok a
  | none => .error error

@[simp] theorem orThrow_eq_ok {ε α : Type} {value : Option α} {error : ε} {a : α} :
    orThrow value error = .ok a ↔ value = some a := by
  cases value <;> simp [orThrow]

theorem ok_of_toOption {ε α : Type} {x : Except ε α} {a : α} (h : x.toOption = some a) :
    x = .ok a := by
  cases x with
  | error e => cases h
  | ok b =>
    cases h
    rfl

/-- A sequence of steps succeeds when the first does and the rest does with its value. -/
theorem bind_eq_ok {ε α β : Type} {x : Except ε α} {f : α → Except ε β} {b : β} :
    (x >>= f) = .ok b ↔ ∃ a, x = .ok a ∧ f a = .ok b := by
  cases x <;> simp [bind, Except.bind]

/-! ## Errors a computation avoids -/

/-- No error of a kind. -/
def Avoids {ε α : Type} (kind : ε → Prop) (x : Except ε α) : Prop :=
  ∀ error, x = .error error → ¬ kind error

section Avoids

variable {ε α β : Type} {kind : ε → Prop}

theorem avoids_ok (a : α) : Avoids kind (.ok a : Except ε α) := nofun

theorem avoids_require {condition : Bool} {error : ε} (h : ¬ kind error) :
    Avoids kind (require condition error) := by
  intro other hother
  cases condition <;> cases hother
  exact h

theorem avoids_orThrow {value : Option α} {error : ε} (h : ¬ kind error) :
    Avoids kind (orThrow value error) := by
  intro other hother
  cases value <;> cases hother
  exact h

theorem Avoids.bind {x : Except ε α} {f : α → Except ε β} (hx : Avoids kind x)
    (hf : ∀ a, x = .ok a → Avoids kind (f a)) : Avoids kind (x >>= f) := by
  cases x with
  | error error =>
    intro other hother
    cases hother
    exact hx _ rfl
  | ok a => exact hf a rfl

end Avoids

/-- A check in front of a reader. -/
theorem guard_bind_eq_some {α : Type} {p : Prop} [Decidable p] {f : Unit → Option α} {a : α} :
    ((guard p : Option Unit) >>= f) = some a ↔ p ∧ f () = some a := by
  by_cases h : p <;> simp [guard, h, failure, bind]

/-- A loop that succeeds succeeds at every item. -/
theorem mapM_eq_ok {ε α β : Type} {f : α → Except ε β} {xs : List α} {ys : List β}
    (h : xs.mapM f = .ok ys) : List.Forall₂ (fun x y => f x = .ok y) xs ys := by
  induction xs generalizing ys with
  | nil =>
    cases h
    exact .nil
  | cons x xs ih =>
    rw [List.mapM_cons] at h
    obtain ⟨y, hy, h⟩ := bind_eq_ok.mp h
    obtain ⟨rest, hrest, h⟩ := bind_eq_ok.mp h
    cases h
    exact .cons hy (ih hrest)

/-- A loop every turn of which succeeds succeeds. -/
theorem mapM_of_forall₂ {ε α β : Type} {f : α → Except ε β} {xs : List α} {ys : List β}
    (h : List.Forall₂ (fun x y => f x = .ok y) xs ys) : xs.mapM f = .ok ys := by
  induction h with
  | nil => rfl
  | cons hy _ ih =>
    rw [List.mapM_cons]
    exact bind_eq_ok.mpr ⟨_, hy, bind_eq_ok.mpr ⟨_, ih, rfl⟩⟩

end SinoChat
