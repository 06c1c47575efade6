import SinoChat.Attendance.Consistent

/-!
# Which assignments end and which open

A chain of reassignments ends exactly the assignments it is given, and opens
one for each reported outcome, for a cashier that was eligible and had the
fewest clients of all who were (`Moved`, `Reassignment.Chosen`). Accounts,
profiles and subscriptions stay, so eligibility is read from the same tables
throughout (`Reassigned`).
-/

namespace SinoChat

open Js

namespace Attendance

/-- **The choice**: whom a reassignment gives a client to was eligible, with no
more clients than any other eligible cashier. -/
def Reassignment.Chosen (reassignment : Reassignment) : Prop :=
  ∀ requestId clientUserId previousCashierUserId cashierUserId assignmentId,
    reassignment.outcome =
      .reassigned requestId clientUserId previousCashierUserId cashierUserId assignmentId →
    ∃ profile ∈ reassignment.tables.cashierProfiles, profile.userId = cashierUserId ∧
      reassignment.tables.eligible clientUserId previousCashierUserId reassignment.now profile =
        true ∧
      ∀ other ∈ reassignment.tables.cashierProfiles,
        reassignment.tables.eligible clientUserId previousCashierUserId reassignment.now other =
          true →
        reassignment.tables.load cashierUserId ≤ reassignment.tables.load other.userId

/-- The call opened the assignment. -/
structure Reassignment.Opens (reassignment : Reassignment) (a : Assignment) : Prop where
  outcome : reassignment.outcome = .reassigned reassignment.request.id a.clientUserId
    reassignment.request.excludedCashierUserId a.cashierUserId a.id
  startReason : a.startReason ≠ .invitation
  startedAt : a.startedAt = reassignment.now

/-- The call gave a client to the cashier, with the assignment. -/
def Reassignment.Assigns (reassignment : Reassignment) (cashierUserId assignmentId : Uuid) : Prop :=
  ∃ requestId clientUserId previousCashierUserId, reassignment.outcome =
    .reassigned requestId clientUserId previousCashierUserId cashierUserId assignmentId

/-- **What a transaction did** to assignments, conversations and blocks. -/
structure Moved (ends : Assignment → Prop) (reassignments : List Reassignment)
    (before after : Db) : Prop where
  kept : ∀ id a, before.assignments.find? id = some a →
    ∃ a', after.assignments.find? id = some a' ∧ (ends a ∧ Ended a a' ∨ ¬ ends a ∧ a' = a)
  opened : ∀ id a, after.assignments.find? id = some a → before.assignments.find? id = none →
    ∃ reassignment ∈ reassignments, reassignment.Opens a
  reported : ∀ reassignment ∈ reassignments, ∀ cashierUserId id,
    reassignment.Assigns cashierUserId id → before.assignments.find? id = none ∧
      ∃ a, after.assignments.find? id = some a ∧ a.cashierUserId = cashierUserId
  conversations : ∀ id c, before.conversations.find? id = some c →
    ∃ c', after.conversations.find? id = some c' ∧ (c' = c ∨ c' = closed c)
  blocks : BlocksKept before after
  chosen : ∀ reassignment ∈ reassignments, reassignment.Chosen

variable {db db' mid before after : Db} {request : ReassignmentRequest} {now : ℕ} {draw : Draw}
  {draws : ℕ → Draw} {reassignment : Reassignment} {reassignments others : List Reassignment}
  {ends ends' : Assignment → Prop}

/-- What moved has grown. -/
theorem Moved.grown (h : Moved ends reassignments before after) : Grown before after := by
  intro id a hfind
  obtain ⟨a', hfind', ⟨-, hended⟩ | ⟨-, rfl⟩⟩ := h.kept id a hfind
  · exact ⟨a', hfind', .inr hended⟩
  · exact ⟨a', hfind', .inl rfl⟩

/-- Nothing ends and nothing opens. -/
theorem Moved.same (hends : ∀ id a, before.assignments.find? id = some a → ¬ ends a)
    (hassignments : after.assignments = before.assignments)
    (hconversations : after.conversations = before.conversations)
    (hblocks : BlocksKept before after) : Moved ends [] before after where
  kept id a h := ⟨a, hassignments ▸ h, .inr ⟨hends id a h, rfl⟩⟩
  opened id a h hnone := by
    rw [hassignments, hnone] at h
    cases h
  reported := by simp
  conversations _ c h := ⟨c, hconversations ▸ h, .inl rfl⟩
  blocks := hblocks
  chosen := by simp

/-- The same assignments by another name. -/
theorem Moved.of_iff (h : Moved ends reassignments before after)
    (hends : ∀ id a, before.assignments.find? id = some a → (ends a ↔ ends' a)) :
    Moved ends' reassignments before after := by
  refine { h with kept := fun id a hfind => ?_ }
  rw [← hends id a hfind]
  exact h.kept id a hfind

/-- What opened stays opened when it ends. -/
theorem Reassignment.Opens.ended {a a' : Assignment} (h : reassignment.Opens a)
    (hended : Ended a a') : reassignment.Opens a' := by
  obtain ⟨-, endReason, now, rfl⟩ := hended
  exact ⟨h.outcome, h.startReason, h.startedAt⟩

/-- Who attends does not change at the end. -/
theorem Ended.cashierUserId {a a' : Assignment} (h : Ended a a') :
    a'.cashierUserId = a.cashierUserId := by
  obtain ⟨-, endReason, now, rfl⟩ := h
  rfl

theorem closed_closed (c : Conversation) : closed (closed c) = closed c := rfl

/-- **One after the other.** An assignment that has ended does not end again. -/
theorem Moved.trans (h : Moved ends reassignments before mid)
    (h' : Moved ends' others mid after) :
    Moved (fun a => ends a ∨ ends' a) (reassignments ++ others) before after where
  kept id a hfind := by
    obtain ⟨m, hm, ⟨hends, hended⟩ | ⟨hends, rfl⟩⟩ := h.kept id a hfind
    · obtain ⟨a', hfind', ⟨-, htwice⟩ | ⟨-, rfl⟩⟩ := h'.kept id m hm
      · obtain ⟨-, endReason, now, rfl⟩ := hended
        exact absurd htwice.1 (by simp)
      · exact ⟨a', hfind', .inl ⟨.inl hends, hended⟩⟩
    · obtain ⟨a', hfind', ⟨hends', hended⟩ | ⟨hends', rfl⟩⟩ := h'.kept id m hm
      · exact ⟨a', hfind', .inl ⟨.inr hends', hended⟩⟩
      · exact ⟨a', hfind', .inr ⟨not_or.mpr ⟨hends, hends'⟩, rfl⟩⟩
  opened id a hfind hnone := by
    cases hm : mid.assignments.find? id with
    | none =>
      obtain ⟨reassignment, hmem, hopens⟩ := h'.opened id a hfind hm
      exact ⟨reassignment, List.mem_append_right _ hmem, hopens⟩
    | some m =>
      obtain ⟨reassignment, hmem, hopens⟩ := h.opened id m hm hnone
      refine ⟨reassignment, List.mem_append_left _ hmem, ?_⟩
      obtain ⟨a', hfind', ⟨-, hended⟩ | ⟨-, rfl⟩⟩ := h'.kept id m hm
      · obtain rfl : a' = a := by simpa using hfind'.symm.trans hfind
        exact hopens.ended hended
      · obtain rfl : a' = a := by simpa using hfind'.symm.trans hfind
        exact hopens
  reported reassignment hmem cashierUserId id hassigns := by
    rcases List.mem_append.mp hmem with hmem | hmem
    · obtain ⟨hnone, m, hm, hcashier⟩ := h.reported _ hmem _ _ hassigns
      obtain ⟨a', hfind', ⟨-, hended⟩ | ⟨-, rfl⟩⟩ := h'.kept id m hm
      · exact ⟨hnone, a', hfind', hended.cashierUserId.trans hcashier⟩
      · exact ⟨hnone, _, hfind', hcashier⟩
    · obtain ⟨hnone, hopened⟩ := h'.reported _ hmem _ _ hassigns
      refine ⟨?_, hopened⟩
      cases hbefore : before.assignments.find? id with
      | none => rfl
      | some a =>
        obtain ⟨m, hm, -⟩ := h.kept id a hbefore
        rw [hnone] at hm
        cases hm
  conversations id c hfind := by
    obtain ⟨m, hm, rfl | rfl⟩ := h.conversations id c hfind
    · exact h'.conversations id m hm
    · obtain ⟨c', hfind', rfl | rfl⟩ := h'.conversations id _ hm
      · exact ⟨_, hfind', .inr rfl⟩
      · exact ⟨_, hfind', .inr (closed_closed c)⟩
  blocks id b hb := h'.blocks id b (h.blocks id b hb)
  chosen reassignment hmem := by
    rcases List.mem_append.mp hmem with hmem | hmem
    · exact h.chosen _ hmem
    · exact h'.chosen _ hmem

/-! ## One reassignment -/

/-- A completed request has its choice. -/
theorem chosen_completePending
    (h : completePending db request now draw = .ok (db', reassignment)) : reassignment.Chosen := by
  obtain ⟨htables, hnow, -, hcases⟩ := completePending_eq_ok h
  intro requestId clientUserId previousCashierUserId cashierUserId assignmentId houtcome
  rcases hcases with ⟨-, -, hstays⟩ | ⟨-, -, -, hstays⟩ | ⟨candidate, _, _, -, hselect, -, hgiven⟩
  · rw [hstays] at houtcome
    cases houtcome
  · rw [hstays] at houtcome
    cases houtcome
  · rw [hgiven] at houtcome
    cases houtcome
    rw [htables, hnow]
    exact eligible_of_select hselect

/-- What a retry reports is what it wrote. -/
theorem reported_completePending {cashierUserId id : Uuid}
    (h : completePending db request now draw = .ok (db', reassignment))
    (hassigns : reassignment.Assigns cashierUserId id) : db.assignments.find? id = none ∧
      ∃ a, db'.assignments.find? id = some a ∧ a.cashierUserId = cashierUserId := by
  obtain ⟨_, _, _, houtcome⟩ := hassigns
  obtain ⟨-, -, -, hcases⟩ := completePending_eq_ok h
  rcases hcases with ⟨-, -, hstays⟩ | ⟨-, -, -, hstays⟩ |
    ⟨candidate, hassignment, hconversation, -, -, rfl, hgiven⟩
  · rw [hstays] at houtcome
    cases houtcome
  · rw [hstays] at houtcome
    cases houtcome
  · rw [hgiven] at houtcome
    cases houtcome
    refine ⟨hassignment, newAssignment request candidate.userId now draw, ?_, rfl⟩
    simp [Db.assigned, Table.find?_insert]

/-- Completing a request moves its client. -/
theorem moved_completePending
    (h : completePending db request now draw = .ok (db', reassignment)) :
    Moved (fun _ => False) [reassignment] db db' := by
  have hchosen := chosen_completePending h
  have hreported : ∀ other ∈ [reassignment], ∀ cashierUserId id, other.Assigns cashierUserId id →
      db.assignments.find? id = none ∧
        ∃ a, db'.assignments.find? id = some a ∧ a.cashierUserId = cashierUserId := by
    intro other hmem cashierUserId id hassigns
    obtain rfl := List.mem_singleton.mp hmem
    exact reported_completePending h hassigns
  obtain ⟨htables, hnow, hrequest, hcases⟩ := completePending_eq_ok h
  have hsame : db'.assignments = db.assignments → db'.conversations = db.conversations →
      db'.blocks = db.blocks → Moved (fun _ => False) [reassignment] db db' := by
    intro hassignments hconversations hblocks
    have hkept : BlocksKept db db' := fun _ _ hb => hblocks ▸ hb
    obtain ⟨h₁, h₂, -, h₃, h₄, -⟩ : Moved (fun _ => False) [] db db' :=
      .same (fun _ _ _ => not_false) hassignments hconversations hkept
    exact ⟨h₁, fun id a hfind hnone => by simpa using h₂ id a hfind hnone, hreported, h₃, h₄,
      by simpa using hchosen⟩
  rcases hcases with ⟨-, rfl, -⟩ | ⟨-, -, rfl, -⟩ |
    ⟨candidate, hassignment, hconversation, -, -, rfl, houtcome⟩
  · exact hsame rfl rfl rfl
  · exact hsame rfl rfl rfl
  · refine ⟨fun id a hfind => ?_, fun id a hfind hnone => ?_, hreported, fun id c hfind => ?_,
      fun _ _ hb => hb, by simpa using hchosen⟩
    · have hne : draw.assignmentId ≠ id := by
        rintro rfl
        rw [newAssignment_id, hfind] at hassignment
        cases hassignment
      exact ⟨a, by simpa [Db.assigned, Table.find?_insert, hne] using hfind,
        .inr ⟨not_false, rfl⟩⟩
    · have hid : draw.assignmentId = id := by
        by_contra hne
        simp [Db.assigned, Table.find?_insert, hne, hnone] at hfind
      subst hid
      obtain rfl : newAssignment request candidate.userId now draw = a := by
        simpa [Db.assigned, Table.find?_insert] using hfind
      refine ⟨reassignment, List.mem_singleton_self _, ?_, ?_, ?_⟩
      · rw [houtcome, hrequest]
        rfl
      · cases hreason : request.reason <;> simp [newAssignment, hreason, startReason]
      · rw [hnow]
        rfl
    · have hne : draw.assignmentId ≠ id := by
        rintro rfl
        rw [newConversation_assignmentId, hfind] at hconversation
        cases hconversation
      exact ⟨c, by simpa [Db.assigned, Table.find?_insert, hne] using hfind, .inl rfl⟩

/-- An assignment ends without a move. -/
theorem moved_withEnded {assignment : Assignment} {endReason : AssignmentEndReason}
    (hfind : db.assignments.find? assignment.id = some assignment)
    (hactive : assignment.endedAt = none) :
    Moved (fun a => a = assignment) [] db (db.withEnded assignment endReason now) := by
  refine ⟨fun id a ha => ?_, fun id a ha hnone => ?_, by simp, fun id c hc => ?_,
    fun _ _ hb => hb, by simp⟩
  · by_cases hid : id = assignment.id
    · subst hid
      obtain rfl : assignment = a := by simpa using hfind.symm.trans ha
      refine ⟨ended endReason now assignment, ?_, .inl ⟨rfl, hactive, _, _, rfl⟩⟩
      simp [Db.withEnded, Table.find?_update, hfind]
    · refine ⟨a, by simpa [Db.withEnded, Table.find?_update, hid] using ha, .inr ⟨?_, rfl⟩⟩
      rintro rfl
      exact hid (Table.find?_eq_some.mp ha).2.symm
  · by_cases hid : id = assignment.id
    · subst hid
      rw [hfind] at hnone
      cases hnone
    · simp [Db.withEnded, Table.find?_update, hid, hnone] at ha
  · by_cases hid : id = assignment.id
    · subst hid
      exact ⟨closed c, by simp [Db.withEnded, Table.find?_update, hc], .inr rfl⟩
    · exact ⟨c, by simpa [Db.withEnded, Table.find?_update, hid] using hc, .inl rfl⟩

/-- Beginning a reassignment ends it and may move the client. -/
theorem moved_beginReassignment {input : BeginReassignmentInput}
    (hfind : db.assignments.find? input.assignment.id = some input.assignment)
    (hactive : input.assignment.endedAt = none)
    (h : beginReassignment db input now draw = .ok (db', reassignment)) :
    Moved (fun a => a = input.assignment) [reassignment] db db' := by
  obtain ⟨hnew, -, h⟩ := beginReassignment_eq_ok h
  have hended : Moved (fun a => a = input.assignment) [] db (db.requested input now draw hnew) := by
    obtain ⟨h₁, h₂, h₃, h₄, h₅, h₆⟩ : Moved (fun a => a = input.assignment) [] db
        (db.withEnded input.assignment input.assignmentEndReason now) :=
      moved_withEnded hfind hactive
    exact ⟨h₁, h₂, h₃, h₄, h₅, h₆⟩
  exact (hended.trans (moved_completePending h)).of_iff fun _ _ _ => by simp

/-! ## Chains of reassignments -/

/-- **A chain of reassignments** with one clock reading. -/
structure Reassigned (ends : Assignment → Prop) (now : ℕ) (reassignments : List Reassignment)
    (before after : Db) : Prop where
  moved : Moved ends reassignments before after
  frame : Frame before after
  tables : ∀ reassignment ∈ reassignments,
    Frame before reassignment.tables ∧ reassignment.now = now

/-- Nobody is reassigned. -/
theorem Reassigned.refl (hends : ∀ id a, db.assignments.find? id = some a → ¬ ends a) :
    Reassigned ends now [] db db :=
  ⟨.same hends rfl rfl fun _ _ h => h, .refl _, by simp⟩

/-- Two rounds of reassignments are one. -/
theorem Reassigned.trans (h : Reassigned ends now reassignments before mid)
    (h' : Reassigned ends' now others mid after) :
    Reassigned (fun a => ends a ∨ ends' a) now (reassignments ++ others) before after := by
  refine ⟨h.moved.trans h'.moved, h.frame.trans h'.frame, fun reassignment hmem => ?_⟩
  rcases List.mem_append.mp hmem with hmem | hmem
  · exact h.tables _ hmem
  · obtain ⟨hframe, hnow⟩ := h'.tables _ hmem
    exact ⟨h.frame.trans hframe, hnow⟩

/-- What ends may be said in other words. -/
theorem Reassigned.of_iff (h : Reassigned ends now reassignments before after)
    (hends : ∀ id a, before.assignments.find? id = some a → (ends a ↔ ends' a)) :
    Reassigned ends' now reassignments before after :=
  ⟨h.moved.of_iff hends, h.frame, h.tables⟩

/-- Completing a request reassigns its client. -/
theorem reassigned_completePending
    (h : completePending db request now draw = .ok (db', reassignment)) :
    Reassigned (fun _ => False) now [reassignment] db db' := by
  refine ⟨moved_completePending h, frame_completePending h, fun other hmem => ?_⟩
  obtain rfl := List.mem_singleton.mp hmem
  obtain ⟨htables, hnow, -⟩ := completePending_eq_ok h
  exact ⟨htables ▸ .refl _, hnow⟩

/-- Beginning a reassignment reassigns the client of one assignment. -/
theorem reassigned_beginReassignment {input : BeginReassignmentInput}
    (hfind : db.assignments.find? input.assignment.id = some input.assignment)
    (hactive : input.assignment.endedAt = none)
    (h : beginReassignment db input now draw = .ok (db', reassignment)) :
    Reassigned (fun a => a = input.assignment) now [reassignment] db db' := by
  refine ⟨moved_beginReassignment hfind hactive h, frame_beginReassignment h, fun other hmem => ?_⟩
  obtain rfl := List.mem_singleton.mp hmem
  obtain ⟨hnew, -, h⟩ := beginReassignment_eq_ok h
  obtain ⟨htables, hnow, -⟩ := completePending_eq_ok h
  exact ⟨htables ▸ ⟨rfl, rfl, rfl, rfl, rfl, rfl⟩, hnow⟩

/-- **A loop of reassignments** ends what its steps end. -/
theorem reassigned_runEach {α : Type}
    {step : Db → α → Draw → Except HttpException (Db × Reassignment)}
    {I : Db → List α → Prop} {ends : α → Assignment → Prop}
    (hstep : ∀ db item rest draw db' reassignment, I db (item :: rest) →
      step db item draw = .ok (db', reassignment) →
      I db' rest ∧ Reassigned (ends item) now [reassignment] db db')
    {items : List α} (hI : I db items) (h : runEach step db items draws = .ok (db', reassignments)) :
    I db' [] ∧ Reassigned (fun a => ∃ item ∈ items, ends item a) now reassignments db db' := by
  induction items generalizing db draws reassignments with
  | nil =>
    cases h
    exact ⟨hI, .refl fun _ _ _ => by simp⟩
  | cons item rest ih =>
    obtain ⟨⟨mid, first⟩, hfirst, h⟩ := bind_eq_ok.mp h
    obtain ⟨⟨last, others⟩, hothers, h⟩ := bind_eq_ok.mp h
    cases h
    obtain ⟨hI', hdone⟩ := hstep _ _ _ _ _ _ hI hfirst
    obtain ⟨hend, hrest⟩ := ih hI' hothers
    exact ⟨hend, (hdone.trans hrest).of_iff fun _ _ _ => by simp⟩

/-- **Retries** end nothing and keep the tables consistent. -/
theorem reassigned_retry {requests : List ReassignmentRequest} (hwaiting : Waiting db requests)
    (h : runEach (fun db request => completePending db request now) db requests draws =
      .ok (db', reassignments)) :
    Reassigned (fun _ => False) now reassignments db db' ∧ (Consistent db → Consistent db') := by
  obtain ⟨⟨-, hconsistent⟩, hdone⟩ := reassigned_runEach
    (I := fun mid rest => Waiting mid rest ∧ (Consistent db → Consistent mid))
    (fun mid item rest draw after reassignment hI h => by
      obtain ⟨hfind, hpending⟩ := hI.1.2 item List.mem_cons_self
      exact ⟨⟨hI.1.next h, fun hdb => consistent_completePending (hI.2 hdb) hfind hpending h⟩,
        reassigned_completePending h⟩) ⟨hwaiting, id⟩ h
  exact ⟨hdone.of_iff fun _ _ _ => by simp, hconsistent⟩

/-- **Mass reassignments** end what they are given, and keep the tables
consistent when the two reasons match. -/
theorem reassigned_reassign {reason : ReassignmentReason} {endReason : AssignmentEndReason}
    {assignments : List Assignment} (hrunning : Running db assignments)
    (h : runEach (fun db assignment =>
        beginReassignment db ⟨assignment, reason, endReason, none⟩ now) db assignments draws =
      .ok (db', reassignments)) :
    Reassigned (fun a => a ∈ assignments) now reassignments db db' ∧
      (matchesEndReason reason endReason = true → blockInitiatorOf reason = none →
        Consistent db → Consistent db') := by
  obtain ⟨⟨-, hconsistent⟩, hdone⟩ := reassigned_runEach
    (I := fun mid rest => Running mid rest ∧ (matchesEndReason reason endReason = true →
      blockInitiatorOf reason = none → Consistent db → Consistent mid))
    (fun mid item rest draw after reassignment hI h => by
      obtain ⟨hfind, hactive⟩ := hI.1.2 item List.mem_cons_self
      refine ⟨⟨hI.1.next h, fun hmatches hnone hdb => ?_⟩,
        reassigned_beginReassignment (by exact hfind) (by exact hactive) h⟩
      exact consistent_beginReassignment (hI.2 hmatches hnone hdb) (by exact hfind)
        (by exact hactive) (Db.admits_of_none hmatches hnone) h) ⟨hrunning, fun _ _ => id⟩ h
  exact ⟨hdone.of_iff fun _ _ _ => by simp, hconsistent⟩

end Attendance

end SinoChat
