import SinoChat.Attendance.Selection

/-!
# How often a client is attended or waiting

The active assignments of a client and its pending requests, counted
together. Ending an assignment for a reassignment moves one from the first to
the second, a reassignment moves it back, and a failed attempt leaves both:
the sum stays (`held`).
-/

namespace SinoChat

open Js

namespace Attendance

namespace Db

/-- The active assignments of a client. -/
def active (db : Db) (clientUserId : Uuid) : ℕ :=
  db.assignments.count fun a => a.clientUserId = clientUserId && a.endedAt = none

/-- The pending requests of a client. -/
def pending (db : Db) (clientUserId : Uuid) : ℕ :=
  db.requests.count fun r => r.clientUserId = clientUserId && r.status = .pending

/-- Both together. -/
def held (db : Db) (clientUserId : Uuid) : ℕ := db.active clientUserId + db.pending clientUserId

end Db

variable {db db' : Db} {request : ReassignmentRequest} {now : ℕ} {draw : Draw}
  {reassignment : Reassignment}

/-- An attempt leaves the request pending. -/
theorem held_attempted (c : Uuid) :
    ({ db with requests := db.requests.update request.id (attempted now) (attempted_id now) } :
      Db).held c = db.held c := by
  have hpend := @Table.count_update_of_eq _ _ _ _ db.requests request.id (attempted now)
    (attempted_id now) (fun r => r.clientUserId = c && r.status = .pending) fun _ _ _ => rfl
  exact congrArg (db.active c + ·) hpend

/-- A pending request becomes an active assignment. -/
theorem held_assigned (hrequest : db.requests.find? request.id = some request)
    (hpending : request.status = .pending) {cashierUserId : Uuid} {hassignment hconversation}
    (c : Uuid) :
    (db.assigned request cashierUserId now draw hassignment hconversation).held c = db.held c := by
  have hactive : (db.assigned request cashierUserId now draw hassignment hconversation).active c =
      db.active c + if request.clientUserId = c then 1 else 0 := by
    simp only [Db.active, Db.assigned]
    rw [Table.count_insert]
    by_cases hc : request.clientUserId = c <;> simp [hc]
  have hwaiting := @Table.count_update _ _ _ _ _ _ (completed draw.assignmentId now)
    (completed_id draw.assignmentId now) _ hrequest fun r => r.clientUserId = c && r.status = .pending
  have hpend : (db.assigned request cashierUserId now draw hassignment hconversation).pending c +
      (if request.clientUserId = c then 1 else 0) = db.pending c := by
    simpa [hpending, Db.pending, Db.assigned] using hwaiting
  unfold Db.held
  omega

/-- **`completePending` keeps the sum** of every client. -/
theorem held_completePending (hrequest : db.requests.find? request.id = some request)
    (hpending : request.status = .pending)
    (h : completePending db request now draw = .ok (db', reassignment)) : db'.held = db.held := by
  obtain ⟨-, -, -, hcases⟩ := completePending_eq_ok h
  funext c
  rcases hcases with ⟨-, rfl, -⟩ | ⟨-, -, rfl, -⟩ | ⟨candidate, _, _, -, -, rfl, -⟩
  · rfl
  · exact held_attempted c
  · exact held_assigned hrequest hpending c

/-- An assignment that ends is one less. -/
theorem held_withEnded {assignment : Assignment} {endReason : AssignmentEndReason}
    (hassignment : db.assignments.find? assignment.id = some assignment)
    (hactive : assignment.endedAt = none) (c : Uuid) :
    (db.withEnded assignment endReason now).held c + (if assignment.clientUserId = c then 1 else 0)
      = db.held c := by
  have hcount := @Table.count_update _ _ _ _ _ _ (ended endReason now)
    (ended_id endReason now) _ hassignment fun a => a.clientUserId = c && a.endedAt = none
  have hone : (db.withEnded assignment endReason now).active c +
      (if assignment.clientUserId = c then 1 else 0) = db.active c := by
    simpa [hactive, Db.active, Db.withEnded] using hcount
  have hsame : (db.withEnded assignment endReason now).pending c = db.pending c := rfl
  unfold Db.held
  omega

/-- **`beginReassignment` keeps the sum** of every client. -/
theorem held_beginReassignment {input : BeginReassignmentInput}
    (hassignment : db.assignments.find? input.assignment.id = some input.assignment)
    (hactive : input.assignment.endedAt = none)
    (h : beginReassignment db input now draw = .ok (db', reassignment)) : db'.held = db.held := by
  obtain ⟨hnew, -, h⟩ := beginReassignment_eq_ok h
  have hfind : (db.requested input now draw hnew).requests.find? (newRequest input now draw).id =
      some (newRequest input now draw) := by
    dsimp only [Db.requested]
    rw [Table.find?_insert, if_pos rfl]
  rw [held_completePending hfind rfl h]
  funext c
  have hended : (db.withEnded input.assignment input.assignmentEndReason now).held c +
      (if input.assignment.clientUserId = c then 1 else 0) = db.held c :=
    held_withEnded hassignment hactive c
  have hpending : (db.requested input now draw hnew).pending c =
      (db.withEnded input.assignment input.assignmentEndReason now).pending c +
        if input.assignment.clientUserId = c then 1 else 0 := by
    simp only [Db.pending, Db.requested]
    rw [Table.count_insert]
    by_cases hc : input.assignment.clientUserId = c <;> simp [hc, Db.withEnded]
  have hkept : (db.requested input now draw hnew).active c =
      (db.withEnded input.assignment input.assignmentEndReason now).active c := rfl
  unfold Db.held at hended ⊢
  omega

/-! ## Loops -/

/-- Pending requests still to be tried, as they were read. -/
def Waiting (db : Db) (requests : List ReassignmentRequest) : Prop :=
  (requests.map ReassignmentRequest.id).Nodup ∧
    ∀ r ∈ requests, db.requests.find? r.id = some r ∧ r.status = .pending

/-- Active assignments still to be ended, as they were read. -/
def Running (db : Db) (assignments : List Assignment) : Prop :=
  (assignments.map Assignment.id).Nodup ∧
    ∀ a ∈ assignments, db.assignments.find? a.id = some a ∧ a.endedAt = none

/-- A reassignment leaves the other requests as they are. -/
theorem Waiting.next {rest : List ReassignmentRequest} (hwaiting : Waiting db (request :: rest))
    (h : completePending db request now draw = .ok (db', reassignment)) : Waiting db' rest := by
  obtain ⟨hnodup, hall⟩ := hwaiting
  rw [List.map_cons, List.nodup_cons] at hnodup
  refine ⟨hnodup.2, fun r hr => ?_⟩
  obtain ⟨hfind, hpending⟩ := hall r (List.mem_cons_of_mem _ hr)
  have hne : r.id ≠ request.id := fun heq => hnodup.1 (heq ▸ List.mem_map_of_mem hr)
  refine ⟨?_, hpending⟩
  obtain ⟨-, -, -, hcases⟩ := completePending_eq_ok h
  rcases hcases with ⟨-, rfl, -⟩ | ⟨-, -, rfl, -⟩ | ⟨candidate, _, _, -, -, rfl, -⟩
  · exact hfind
  · simpa [Table.find?_update, hne] using hfind
  · simpa [Db.assigned, Table.find?_update, hne] using hfind

/-- What `completePending` leaves of the assignments: those that were there. -/
theorem assignments_completePending {a : Assignment} {id : Uuid}
    (h : completePending db request now draw = .ok (db', reassignment))
    (hfind : db.assignments.find? id = some a) : db'.assignments.find? id = some a := by
  obtain ⟨-, -, -, hcases⟩ := completePending_eq_ok h
  rcases hcases with ⟨-, rfl, -⟩ | ⟨-, -, rfl, -⟩ | ⟨candidate, hnew, _, -, -, rfl, -⟩
  · exact hfind
  · exact hfind
  · have hne : draw.assignmentId ≠ id := by
      intro heq
      rw [newAssignment_id, heq, hfind] at hnew
      cases hnew
    simpa [Db.assigned, Table.find?_insert, hne] using hfind

/-- A reassignment leaves the other assignments as they are. -/
theorem Running.next {input : BeginReassignmentInput} {rest : List Assignment}
    (hrunning : Running db (input.assignment :: rest))
    (h : beginReassignment db input now draw = .ok (db', reassignment)) : Running db' rest := by
  obtain ⟨hnodup, hall⟩ := hrunning
  rw [List.map_cons, List.nodup_cons] at hnodup
  refine ⟨hnodup.2, fun a ha => ?_⟩
  obtain ⟨hfind, hactive⟩ := hall a (List.mem_cons_of_mem _ ha)
  have hne : a.id ≠ input.assignment.id := fun heq => hnodup.1 (heq ▸ List.mem_map_of_mem ha)
  obtain ⟨hnew, -, h⟩ := beginReassignment_eq_ok h
  refine ⟨assignments_completePending h ?_, hactive⟩
  simpa [Db.requested, Db.withEnded, Table.find?_update, hne] using hfind

/-- **Retries.** What a call of `completePending` on a pending request keeps,
a list of them keeps. -/
theorem retry_rule {I : Db → Prop}
    (hstep : ∀ db request draw db' reassignment, I db →
      db.requests.find? request.id = some request → request.status = .pending →
      completePending db request now draw = .ok (db', reassignment) → I db')
    {requests : List ReassignmentRequest} {draws : ℕ → Draw} {reassignments : List Reassignment}
    (hwaiting : Waiting db requests) (hI : I db)
    (h : runEach (fun db request => completePending db request now) db requests draws =
      .ok (db', reassignments)) :
    I db' ∧ ∀ reassignment ∈ reassignments, ∃ mid request draw after, I mid ∧
      mid.requests.find? request.id = some request ∧ request.status = .pending ∧
      completePending mid request now draw = .ok (after, reassignment) := by
  obtain ⟨⟨-, hend⟩, hall⟩ := runEach_rule (I := fun db requests => Waiting db requests ∧ I db)
    (fun db request rest draw db' reassignment hI h =>
      ⟨hI.1.next h, hstep db request draw db' reassignment hI.2
        (hI.1.2 request List.mem_cons_self).1 (hI.1.2 request List.mem_cons_self).2 h⟩)
    ⟨hwaiting, hI⟩ h
  refine ⟨hend, fun reassignment hmem => ?_⟩
  obtain ⟨mid, request, rest, draw, after, ⟨hmid, hI'⟩, h⟩ := hall reassignment hmem
  obtain ⟨hfind, hpending⟩ := hmid.2 request List.mem_cons_self
  exact ⟨mid, request, draw, after, hI', hfind, hpending, h⟩

/-- **Mass reassignments.** What a call of `beginReassignment` on an active
assignment keeps, a list of them keeps. -/
theorem reassign_rule {reason : ReassignmentReason} {endReason : AssignmentEndReason}
    {I : Db → Prop} {P : Assignment → Prop}
    (hstep : ∀ db assignment draw db' reassignment, I db → P assignment →
      db.assignments.find? assignment.id = some assignment → assignment.endedAt = none →
      beginReassignment db ⟨assignment, reason, endReason, none⟩ now draw =
        .ok (db', reassignment) → I db')
    {assignments : List Assignment} {draws : ℕ → Draw} {reassignments : List Reassignment}
    (hrunning : Running db assignments) (hP : ∀ a ∈ assignments, P a) (hI : I db)
    (h : runEach (fun db assignment =>
        beginReassignment db ⟨assignment, reason, endReason, none⟩ now) db assignments draws =
      .ok (db', reassignments)) :
    I db' ∧ ∀ reassignment ∈ reassignments, ∃ mid assignment draw after, I mid ∧ P assignment ∧
      mid.assignments.find? assignment.id = some assignment ∧ assignment.endedAt = none ∧
      beginReassignment mid ⟨assignment, reason, endReason, none⟩ now draw =
        .ok (after, reassignment) := by
  obtain ⟨⟨-, -, hend⟩, hall⟩ := runEach_rule
    (I := fun db assignments => Running db assignments ∧ (∀ a ∈ assignments, P a) ∧ I db)
    (fun db assignment rest draw db' reassignment hI h =>
      ⟨hI.1.next h, fun a ha => hI.2.1 a (List.mem_cons_of_mem _ ha),
        hstep db assignment draw db' reassignment hI.2.2 (hI.2.1 assignment List.mem_cons_self)
          (hI.1.2 assignment List.mem_cons_self).1 (hI.1.2 assignment List.mem_cons_self).2 h⟩)
    ⟨hrunning, hP, hI⟩ h
  refine ⟨hend, fun reassignment hmem => ?_⟩
  obtain ⟨mid, assignment, rest, draw, after, ⟨hmid, hPs, hI'⟩, h⟩ := hall reassignment hmem
  obtain ⟨hfind, hactive⟩ := hmid.2 assignment List.mem_cons_self
  exact ⟨mid, assignment, draw, after, hI', hPs assignment List.mem_cons_self, hfind, hactive, h⟩

/-! ## The lists the queries return -/

theorem nodup_of_perm_filter {α : Type} {key : α → Uuid} {t : Table Uuid α key} {p : α → Bool}
    {l : List α} (h : l.Perm (t.rows.filter p)) : (l.map key).Nodup :=
  (h.map key).nodup_iff.mpr (t.nodup.sublist (List.filter_sublist.map key))

theorem mem_activeAssignments {p : Assignment → Bool} {a : Assignment} :
    a ∈ db.activeAssignments p ↔ a ∈ db.assignments ∧ p a = true ∧ a.endedAt = none := by
  simp [Db.activeAssignments, Table.mem_def]

theorem mem_pendingRequests {p : ReassignmentRequest → Bool} {r : ReassignmentRequest} :
    r ∈ db.pendingRequests p ↔ r ∈ db.requests ∧ p r = true ∧ r.status = .pending := by
  simp [Db.pendingRequests, Table.mem_def]

theorem running_activeAssignments (p : Assignment → Bool) :
    Running db (db.activeAssignments p) := by
  refine ⟨nodup_of_perm_filter (List.sortBy_perm _ _), fun a ha => ?_⟩
  obtain ⟨hmem, -, hactive⟩ := mem_activeAssignments.mp ha
  exact ⟨Table.find?_eq_some.mpr ⟨hmem, rfl⟩, hactive⟩

theorem waiting_pendingRequests (p : ReassignmentRequest → Bool) :
    Waiting db (db.pendingRequests p) := by
  refine ⟨nodup_of_perm_filter (List.sortBy_perm _ _), fun r hr => ?_⟩
  obtain ⟨hmem, -, hpending⟩ := mem_pendingRequests.mp hr
  exact ⟨Table.find?_eq_some.mpr ⟨hmem, rfl⟩, hpending⟩

theorem Running.sublist {items part : List Assignment} (h : Running db items)
    (hsub : part.Sublist items) : Running db part :=
  ⟨h.1.sublist (hsub.map _), fun a ha => h.2 a (hsub.subset ha)⟩

theorem Waiting.sublist {items part : List ReassignmentRequest} (h : Waiting db items)
    (hsub : part.Sublist items) : Waiting db part :=
  ⟨h.1.sublist (hsub.map _), fun r hr => h.2 r (hsub.subset hr)⟩

end Attendance

end SinoChat
