import SinoChat.Attendance.Commit
import SinoChat.Attendance.Script

/-!
# What the services admit and the database accepts

The checks of the services and the triggers state the same rules twice. They
agree but for three cases: the deletion of a cashier that still attends someone
never commits, no more does the end of an invitation assignment whose
invitation was revoked, by its times, before the assignment began, and the
trigger reads the clock once more for the subscription of a new assignee.
-/

namespace SinoChat

open Js

namespace Attendance

/-- The sums after an operation. -/
theorem held_le_one_of_run {trace : List Action} {w : World} (h : attendance.Run trace w)
    {operation : Operation} {reads : ℕ → ℕ} {draws : ℕ → Draw} {db' : Db}
    {reassignments : List Reassignment}
    (hrun : operation.run w.db reads draws = .ok (db', reassignments)) (c : Uuid) :
    db'.held c ≤ 1 := by
  have hbefore : AttendedInv False w.db := attendedInv (h.guarded fun _ _ _ hnever => hnever.elim)
  exact (hbefore.effect (Operation.effect (fun hnever => hnever.elim) hrun)).once c

/-- **When an admitted change commits.** In every reachable state, an operation
whose own checks pass passes the triggers exactly when it does not delete a
busy cashier, every invitation assignment it ends began before its invitation
was revoked, and every cashier it gives a client to is subscribed at the
commit. -/
theorem admitted_commits_iff {trace : List Action} {w : World} (h : attendance.Run trace w)
    {operation : Operation} (hregisters : ¬ operation.Registers) {reads : ℕ → ℕ} {draws : ℕ → Draw}
    (hclock : ∀ i, reads i ≤ w.clock) {db' : Db} {reassignments : List Reassignment}
    (hrun : operation.run w.db reads draws = .ok (db', reassignments)) :
    commitChecks w.clock w.db db' = true ↔ ¬ operation.DeletesBusyCashier w.db ∧
      (∀ a ∈ w.db.assignments, operation.ends w.db reads a → a.startReason = .invitation →
        w.db.validInvitation a a.startedAt = true) ∧
      ∀ reassignment ∈ reassignments, ∀ cashierUserId assignmentId,
        reassignment.Assigns cashierUserId assignmentId →
          operation.KeepsSubscribed w.db w.clock cashierUserId := by
  have htransaction := Operation.transaction hregisters (held_le_one h) hclock hrun
  constructor
  · intro hcheck
    have hnot : ¬ operation.DeletesBusyCashier w.db := by
      intro hbusy
      rw [not_commitChecks_of_busy hbusy hrun] at hcheck
      cases hcheck
    refine ⟨hnot, fun a ha hends hinvitation => ?_, fun reassignment hmem _ _ hassigns => ?_⟩
    · by_contra hinvalid
      rw [htransaction.not_commitChecks hnot (Table.find?_eq_some.mpr ⟨ha, rfl⟩) hends hinvitation
        (Bool.not_eq_true _ ▸ hinvalid)] at hcheck
      cases hcheck
    · by_contra hends
      rw [htransaction.not_commitChecks_of_assigns hnot hmem hassigns hends] at hcheck
      cases hcheck
  · rintro ⟨hnot, horigins, hlasts⟩
    exact htransaction.commitChecks hnot (consistent_of_run h) (held_le_one_of_run h hrun)
      (fun id a hfind => horigins a (Table.find?_eq_some.mp hfind).1) hlasts

namespace Scene

/-- The first cashier blocks its client. -/
def blocksOnce : Operation := .blockClient (cashier 1) (client 1) (cashier 9)

/-- The call gave a client to the second cashier. -/
def toSecond (reassignment : Reassignment) : Bool :=
  match reassignment.outcome with
  | .reassigned _ _ _ cashierUserId _ => cashierUserId = cashier 2
  | .pendingReassignment _ _ _ => false

/-- The block passes its checks and finds the second cashier. -/
def finds (w : World) : Bool :=
  match blocksOnce.run w.db (fun _ => w.clock) (draws 2) with
  | .ok (_, reassignments) => reassignments ≠ [] && reassignments.all toSecond &&
      w.db.subscribed (cashier 2) w.clock &&
      w.db.assignments.rows.all fun a => w.db.validInvitation a a.startedAt
  | .error _ => false

end Scene

/-- The cashier blocks the client it attends, and the second cashier gets it. -/
theorem admitted_commits_iff_block : ∃ trace w db' reassignments, attendance.Run trace w ∧
    Scene.blocksOnce.run w.db (fun _ => w.clock) (Scene.draws 2) = .ok (db', reassignments) ∧
    (∃ reassignment ∈ reassignments, ∃ assignmentId,
      reassignment.Assigns (Scene.cashier 2) assignmentId) ∧
    commitChecks w.clock w.db db' = true := by
  obtain ⟨trace, w, hrun, hcheck⟩ := Machine.exists_run_of_perform (M := attendance)
    Command.exec_step Scene.start_initial (Scene.opens 1 0 ++ Scene.opens 2 0 ++ Scene.invites 1 0)
    (fun _ w => Scene.finds w) (by decide +kernel)
  unfold Scene.finds at hcheck
  split at hcheck
  · rename_i db' reassignments hblock
    simp only [Bool.and_eq_true, decide_eq_true_eq] at hcheck
    obtain ⟨⟨⟨hne, hsecond⟩, hsubscribed⟩, horigins⟩ := hcheck
    refine ⟨trace, w, db', reassignments, hrun, hblock, ?_,
      (admitted_commits_iff hrun (by exact not_false) (fun _ => le_rfl) hblock).mpr
        ⟨not_false, fun a ha _ _ => List.all_eq_true.mp horigins a ha,
          fun reassignment hmem cashierUserId assignmentId hassigns => ?_⟩⟩
    · obtain ⟨reassignment, hmem⟩ := List.exists_mem_of_ne_nil _ hne
      have hthis := List.all_eq_true.mp hsecond reassignment hmem
      unfold Scene.toSecond at hthis
      split at hthis
      · rename_i houtcome
        exact ⟨reassignment, hmem, _, _, _, _, of_decide_eq_true hthis ▸ houtcome⟩
      · cases hthis
    · obtain ⟨_, _, _, houtcome⟩ := hassigns
      have hthis := List.all_eq_true.mp hsecond reassignment hmem
      rw [Scene.toSecond, houtcome] at hthis
      obtain rfl : cashierUserId = Scene.cashier 2 := of_decide_eq_true hthis
      exact hsubscribed
  · cases hcheck

/-- The service lets an operation through whose commit is refused. -/
def refusedAtCommit (operation : Operation) (draws : ℕ → Draw) (w : World) : Bool :=
  match operation.run w.db (fun _ => w.clock) draws with
  | .ok (db', _) => !commitChecks w.clock w.db db'
  | .error _ => false

/-- **A busy cashier cannot be deleted**: the service admits it, and the
database refuses the commit. -/
theorem busy_deletion_rejected : ∃ trace w db' reassignments, attendance.Run trace w ∧
    (Operation.deleteUser (Scene.cashier 1)).run w.db (fun _ => w.clock) (Scene.draws 2) =
      .ok (db', reassignments) ∧ commitChecks w.clock w.db db' = false := by
  obtain ⟨trace, w, hrun, hcheck⟩ := Machine.exists_run_of_perform (M := attendance)
    Command.exec_step Scene.start_initial (Scene.opens 1 0 ++ Scene.invites 1 0)
    (fun _ w => refusedAtCommit (.deleteUser (Scene.cashier 1)) (Scene.draws 2) w)
    (by decide +kernel)
  unfold refusedAtCommit at hcheck
  split at hcheck
  · rename_i db' reassignments hdelete
    exact ⟨trace, w, db', reassignments, hrun, hdelete, by simpa using hcheck⟩
  · cases hcheck

end Attendance

end SinoChat
