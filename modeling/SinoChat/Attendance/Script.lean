import SinoChat.Model.AttendanceTriggers
import SinoChat.ToDevice.Script

/-!
# Runs of the services by scripts

A script is a list of operations and waits. Each operation takes all its clock
readings at once, now or at an earlier moment.
-/

namespace SinoChat

open Js

namespace Attendance

/-- A move of the run. -/
inductive Command where
  /-- Carry out an operation; all its clock readings are `now`. -/
  | call (operation : Operation) (now : ℕ) (draws : ℕ → Draw)
  | wait (clock : ℕ)

/-- Carry out a command; a transaction that the triggers refuse is rejected. -/
def Command.exec (command : Command) (w : World) : Option (Action × World) :=
  match command with
  | call operation now draws =>
    if now ≤ w.clock then
      match operation.run w.db (fun _ => now) draws with
      | .ok (db', reassignments) =>
        if commitChecks w.clock w.db db' then
          some (.committed operation reassignments, { w with db := db' })
        else some (.rejected operation, w)
      | .error _ => none
    else none
  | wait clock => if w.clock ≤ clock then some (.ticked, { w with clock }) else none

theorem Command.exec_step (command : Command) (w : World) (action : Action) (w' : World)
    (h : command.exec w = some (action, w')) : attendance.step w action w' := by
  cases command with
  | call operation now draws =>
    obtain ⟨hle, h⟩ := Option.ite_none_right_eq_some.mp h
    split at h
    · rename_i db' reassignments hrun
      split at h
      · rename_i hcheck
        cases h
        exact .commit monotone_const (fun _ => hle) hrun hcheck
      · rename_i hcheck
        cases h
        exact .reject monotone_const (fun _ => hle) hrun (Bool.not_eq_true _ ▸ hcheck)
    · cases h
  | wait clock =>
    obtain ⟨hle, h⟩ := Option.ite_none_right_eq_some.mp h
    cases h
    exact .tick hle

namespace Scene

/-- No account, at the beginning of time. -/
def start : World where
  clock := 0
  db := ⟨Table.empty, Table.empty, Table.empty, Table.empty, Table.empty, Table.empty,
    Table.empty, Table.empty, Table.empty, DeviceLists.empty⟩

theorem start_initial : attendance.init start := rfl

/-- The cashiers, with their subscriptions and invitations. -/
def cashier (n : ℕ) : Uuid := SinoChat.Sample.uuidOf (0xa0 + n)

/-- Ids by their number. -/
def subscription (n : ℕ) : Uuid := SinoChat.Sample.uuidOf (0xb0 + n)
def invitation (n : ℕ) : Uuid := SinoChat.Sample.uuidOf (0xd0 + n)

/-- The clients. -/
def client (n : ℕ) : Uuid := SinoChat.Sample.uuidOf (0xc0 + n)

/-- The draws of a transaction, the first of equals. -/
def draws (n i : ℕ) : Draw where
  assignmentId := SinoChat.Sample.uuidOf (0x10000 + 0x100 * n + i)
  conversationId := SinoChat.Sample.uuidOf (0x20000 + 0x100 * n + i)
  requestId := SinoChat.Sample.uuidOf (0x30000 + 0x100 * n + i)
  randomIndex _ := 0

/-- A cashier registers, is approved and subscribes. -/
def opens (n now : ℕ) : List Command :=
  [.call (.registerCashier (cashier n)) now (draws 0),
    .call (.approveCashier (cashier n)) now (draws 0),
    .call (.activateSubscription (cashier n) (subscription n) none) now (draws 0)]

/-- A client registers with an invitation of the cashier of its number. -/
def invites (n now : ℕ) : List Command :=
  [.call (.rotateInvitation (cashier n) (invitation n)) now (draws 0),
    .call (.registerClient (client n) (invitation n)) now (draws n)]

/-- The first cashiers block the first client, one after the other. -/
def blocks (n now : ℕ) : List Command :=
  (List.range n).map fun i => .call (.blockClient (cashier (i + 1)) (client 1)
    (SinoChat.Sample.uuidOf (0xe1 + i))) now (draws (0x20 + i))

end Scene

end Attendance

end SinoChat
