import SinoChat.Common.Table
import SinoChat.Model.Http

/-!
# Rows by key, as the services write them

`create` and `update` of the database client: a unique violation and a
missing row are errors of the request.
-/

namespace Table

open SinoChat

variable {κ α : Type} {key : α → κ} [DecidableEq κ]

/-- `create`: a row of a new key. -/
def create (t : Table κ α key) (a : α) : Except HttpException (Table κ α key) :=
  if h : t.find? (key a) = none then .ok (t.insert a h)
  else .error (.internal "Unique constraint failed.")

/-- `update({ where: { id } })`: the row has to be there. -/
def change (t : Table κ α key) (k : κ) (f : α → α) (hf : ∀ a, key (f a) = key a) :
    Except HttpException (Table κ α key) :=
  match t.find? k with
  | some _ => .ok (t.update k f hf)
  | none => .error (.internal "No record was found for an update.")

theorem create_eq_ok {t t' : Table κ α key} {a : α} :
    t.create a = .ok t' ↔ ∃ h : t.find? (key a) = none, t' = t.insert a h := by
  unfold create
  split_ifs with h
  · simp [h, eq_comm]
  · simp [h]

theorem change_eq_ok {t t' : Table κ α key} {k : κ} {f : α → α} {hf : ∀ a, key (f a) = key a} :
    t.change k f hf = .ok t' ↔ (∃ a, t.find? k = some a) ∧ t' = t.update k f hf := by
  unfold change
  cases h : t.find? k with
  | none => simp
  | some a => simp [eq_comm]

end Table
