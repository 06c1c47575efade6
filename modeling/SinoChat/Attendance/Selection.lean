import SinoChat.Model.AttendanceTriggers
import Mathlib.Order.MinMax

/-!
# What a reassignment does

The cashier `selectLeastLoadedCashier` picks has the fewest clients of all
candidates. A call of `completePending` leaves the tables as they are, counts
an attempt or gives the client to such a cashier; a call of
`beginReassignment` ends the assignment, opens a request and calls it.
-/

namespace SinoChat

open Js

namespace Attendance

/-! ## The selection -/

theorem foldl_min_le {candidates : List CashierLoad} {start : WithTop ℕ} :
    candidates.foldl (fun minimum candidate => min minimum candidate.activeClientCount) start ≤
        start ∧
      ∀ candidate ∈ candidates, candidates.foldl
        (fun minimum candidate => min minimum candidate.activeClientCount) start ≤
          candidate.activeClientCount := by
  induction candidates generalizing start with
  | nil => simp
  | cons first rest ih =>
    obtain ⟨hstart, hrest⟩ := @ih (min start first.activeClientCount)
    refine ⟨hstart.trans (min_le_left _ _), fun candidate hmem => ?_⟩
    rcases List.mem_cons.mp hmem with rfl | hmem
    · exact hstart.trans (min_le_right _ _)
    · exact hrest candidate hmem

/-- No candidate is below the minimum. -/
theorem minimumLoad_le {candidates : List CashierLoad} {candidate : CashierLoad}
    (h : candidate ∈ candidates) : minimumLoad candidates ≤ candidate.activeClientCount :=
  foldl_min_le.2 candidate h

theorem foldl_min_eq {candidates : List CashierLoad} {start : WithTop ℕ} :
    candidates.foldl (fun minimum candidate => min minimum candidate.activeClientCount) start =
        start ∨
      ∃ candidate ∈ candidates, candidates.foldl
        (fun minimum candidate => min minimum candidate.activeClientCount) start =
          candidate.activeClientCount := by
  induction candidates generalizing start with
  | nil => simp
  | cons first rest ih =>
    rcases @ih (min start first.activeClientCount) with hsame | ⟨candidate, hmem, heq⟩
    · rcases min_choice start first.activeClientCount with hmin | hmin
      · exact .inl (hsame.trans hmin)
      · exact .inr ⟨first, List.mem_cons_self, hsame.trans hmin⟩
    · exact .inr ⟨candidate, List.mem_cons_of_mem _ hmem, heq⟩

/-- Some candidate is at the minimum. -/
theorem exists_minimumLoad {candidates : List CashierLoad} (h : candidates ≠ []) :
    ∃ candidate ∈ candidates, minimumLoad candidates = candidate.activeClientCount := by
  rcases @foldl_min_eq candidates ⊤ with htop | hsome
  · obtain ⟨candidate, hmem⟩ := List.exists_mem_of_ne_nil candidates h
    have hle : minimumLoad candidates ≤ candidate.activeClientCount := minimumLoad_le hmem
    rw [minimumLoad, htop] at hle
    exact absurd hle (by simp)
  · exact hsome

/-- **The least loaded.** Who is picked is a candidate, and none has fewer clients. -/
theorem selectLeastLoadedCashier_eq_some {candidates : List CashierLoad} {randomIndex : ℕ → ℕ}
    {candidate : CashierLoad}
    (h : selectLeastLoadedCashier candidates randomIndex = .ok (some candidate)) :
    candidate ∈ candidates ∧
      ∀ other ∈ candidates, candidate.activeClientCount ≤ other.activeClientCount := by
  unfold selectLeastLoadedCashier at h
  split_ifs at h with hnil
  · cases h
  dsimp only at h
  split at h <;> cases h
  rename_i hget
  obtain ⟨hmem, hmin⟩ := List.mem_filter.mp (List.mem_of_getElem? hget)
  refine ⟨hmem, fun other hother => ?_⟩
  have hle := minimumLoad_le hother
  rw [← of_decide_eq_true hmin] at hle
  exact WithTop.coe_le_coe.mp hle

theorem selectLeastLoadedCashier_eq_none {candidates : List CashierLoad} {randomIndex : ℕ → ℕ}
    (h : selectLeastLoadedCashier candidates randomIndex = .ok none) : candidates = [] := by
  unfold selectLeastLoadedCashier at h
  split_ifs at h with hnil
  · exact hnil
  · dsimp only at h
    split at h <;> cases h

/-- An index in range picks someone, or nobody is there. -/
theorem selectLeastLoadedCashier_ok {candidates : List CashierLoad} {randomIndex : ℕ → ℕ}
    (hindex : ∀ n, 0 < n → randomIndex n < n) :
    ∃ result, selectLeastLoadedCashier candidates randomIndex = .ok result := by
  unfold selectLeastLoadedCashier
  split_ifs with hnil
  · exact ⟨none, rfl⟩
  · obtain ⟨candidate, hmem, hmin⟩ := exists_minimumLoad hnil
    have htied : candidate ∈ candidates.filter fun candidate =>
        (candidate.activeClientCount : WithTop ℕ) = minimumLoad candidates :=
      List.mem_filter.mpr ⟨hmem, by simp [hmin]⟩
    have hlt := hindex _ (List.length_pos_of_mem htied)
    dsimp only
    rw [List.getElem?_eq_getElem hlt]
    exact ⟨_, rfl⟩

/-! ## One reassignment -/

/-- The row of a reassignment. -/
def newAssignment (request : ReassignmentRequest) (cashierUserId : Uuid) (now : ℕ) (draw : Draw) :
    Assignment :=
  { id := draw.assignmentId, clientUserId := request.clientUserId, cashierUserId
    invitationId := none, previousAssignmentId := some request.previousAssignmentId
    startReason := startReason request.reason, startedAt := now, endedAt := none
    endReason := none }

/-- A request after a failed attempt. -/
def attempted (now : ℕ) (request : ReassignmentRequest) : ReassignmentRequest :=
  { request with lastAttemptAt := some now, attemptCount := request.attemptCount + 1 }

/-- A request that led to an assignment. -/
def completed (assignmentId : Uuid) (now : ℕ) (request : ReassignmentRequest) :
    ReassignmentRequest :=
  { request with
    status := .completed, resultingAssignmentId := some assignmentId, lastAttemptAt := some now
    attemptCount := request.attemptCount + 1, completedAt := some now }

/-- The request `beginReassignment` opens. -/
def newRequest (input : BeginReassignmentInput) (now : ℕ) (draw : Draw) : ReassignmentRequest :=
  { id := draw.requestId, clientUserId := input.assignment.clientUserId
    previousAssignmentId := input.assignment.id
    excludedCashierUserId := input.assignment.cashierUserId
    triggerBlockId := input.triggerBlockId, resultingAssignmentId := none
    reason := input.reason, status := .pending, requestedAt := now, lastAttemptAt := none
    attemptCount := 0, completedAt := none, cancellationReasonCode := none }

/-- An assignment that has ended. -/
def ended (endReason : AssignmentEndReason) (now : ℕ) (assignment : Assignment) : Assignment :=
  { assignment with endedAt := some now, endReason := some endReason }

/-- A conversation that is closed. -/
def closed (conversation : Conversation) : Conversation := { conversation with status := .closed }

/-- The conversation of a reassignment. -/
def newConversation (draw : Draw) : Conversation :=
  ⟨draw.conversationId, draw.assignmentId, .active⟩

@[simp] theorem newAssignment_id (request : ReassignmentRequest) (cashierUserId : Uuid) (now : ℕ)
    (draw : Draw) : (newAssignment request cashierUserId now draw).id = draw.assignmentId := rfl

@[simp] theorem newAssignment_clientUserId (request : ReassignmentRequest) (cashierUserId : Uuid)
    (now : ℕ) (draw : Draw) :
    (newAssignment request cashierUserId now draw).clientUserId = request.clientUserId := rfl

@[simp] theorem newAssignment_endedAt (request : ReassignmentRequest) (cashierUserId : Uuid)
    (now : ℕ) (draw : Draw) : (newAssignment request cashierUserId now draw).endedAt = none := rfl

@[simp] theorem newConversation_assignmentId (draw : Draw) :
    (newConversation draw).assignmentId = draw.assignmentId := rfl

@[simp] theorem newRequest_id (input : BeginReassignmentInput) (now : ℕ) (draw : Draw) :
    (newRequest input now draw).id = draw.requestId := rfl

@[simp] theorem newRequest_clientUserId (input : BeginReassignmentInput) (now : ℕ) (draw : Draw) :
    (newRequest input now draw).clientUserId = input.assignment.clientUserId := rfl

@[simp] theorem newRequest_status (input : BeginReassignmentInput) (now : ℕ) (draw : Draw) :
    (newRequest input now draw).status = .pending := rfl

@[simp] theorem attempted_id (now : ℕ) (request : ReassignmentRequest) :
    (attempted now request).id = request.id := rfl

@[simp] theorem completed_id (assignmentId : Uuid) (now : ℕ) (request : ReassignmentRequest) :
    (completed assignmentId now request).id = request.id := rfl

@[simp] theorem completed_status (assignmentId : Uuid) (now : ℕ) (request : ReassignmentRequest) :
    (completed assignmentId now request).status = .completed := rfl

@[simp] theorem ended_id (endReason : AssignmentEndReason) (now : ℕ) (assignment : Assignment) :
    (ended endReason now assignment).id = assignment.id := rfl

@[simp] theorem ended_endedAt (endReason : AssignmentEndReason) (now : ℕ)
    (assignment : Assignment) : (ended endReason now assignment).endedAt = some now := rfl

@[simp] theorem closed_assignmentId (conversation : Conversation) :
    (closed conversation).assignmentId = conversation.assignmentId := rfl

/-- The tables after the request is given to a cashier. -/
def Db.assigned (db : Db) (request : ReassignmentRequest) (cashierUserId : Uuid) (now : ℕ)
    (draw : Draw)
    (hassignment : db.assignments.find? (newAssignment request cashierUserId now draw).id = none)
    (hconversation : db.conversations.find? (newConversation draw).assignmentId = none) : Db :=
  { db with
    assignments := db.assignments.insert (newAssignment request cashierUserId now draw) hassignment
    conversations := db.conversations.insert (newConversation draw) hconversation
    requests := db.requests.update request.id (completed draw.assignmentId now)
      (completed_id draw.assignmentId now)
    lists := db.lists.publishRelationshipChanged request.clientUserId cashierUserId .changed }

/-- The tables after an assignment has ended. -/
def Db.withEnded (db : Db) (assignment : Assignment) (endReason : AssignmentEndReason) (now : ℕ) :
    Db :=
  { db with
    assignments := db.assignments.update assignment.id (ended endReason now) (ended_id endReason now)
    conversations := db.conversations.update assignment.id closed closed_assignmentId
    lists := db.lists.publishRelationshipChanged assignment.clientUserId
      assignment.cashierUserId .left }

theorem assignCandidate_eq_ok {db db' : Db} {request : ReassignmentRequest} {cashierUserId : Uuid}
    {now : ℕ} {draw : Draw} (h : assignCandidate db request cashierUserId now draw = .ok db') :
    ∃ hassignment hconversation, (∃ r, db.requests.find? request.id = some r) ∧
      db' = db.assigned request cashierUserId now draw hassignment hconversation := by
  obtain ⟨assignments, hassignments, h⟩ := bind_eq_ok.mp h
  obtain ⟨conversations, hconversations, h⟩ := bind_eq_ok.mp h
  obtain ⟨requests, hrequests, h⟩ := bind_eq_ok.mp h
  obtain ⟨hassignment, rfl⟩ := Table.create_eq_ok.mp hassignments
  obtain ⟨hconversation, rfl⟩ := Table.create_eq_ok.mp hconversations
  obtain ⟨hfound, rfl⟩ := Table.change_eq_ok.mp hrequests
  cases h
  exact ⟨hassignment, hconversation, hfound, rfl⟩

/-- **A call of `completePending`**: the client is not active and nothing
changes, nobody is eligible and the attempt is counted, or the least loaded
candidate gets the client. -/
theorem completePending_eq_ok {db db' : Db} {request : ReassignmentRequest} {now : ℕ} {draw : Draw}
    {reassignment : Reassignment}
    (h : completePending db request now draw = .ok (db', reassignment)) :
    reassignment.tables = db ∧ reassignment.now = now ∧ reassignment.request = request ∧
    ((db.activeClient request.clientUserId = false ∧ db' = db ∧
        reassignment.outcome = .pendingReassignment request.id request.clientUserId
          request.excludedCashierUserId) ∨
      (db.activeClient request.clientUserId = true ∧
        db.findEligibleCandidates request.clientUserId request.excludedCashierUserId now = [] ∧
        db' = { db with
          requests := db.requests.update request.id (attempted now) (attempted_id now) } ∧
        reassignment.outcome = .pendingReassignment request.id request.clientUserId
          request.excludedCashierUserId) ∨
      ∃ candidate hassignment hconversation, db.activeClient request.clientUserId = true ∧
        selectLeastLoadedCashier (db.findEligibleCandidates request.clientUserId
          request.excludedCashierUserId now) draw.randomIndex = .ok (some candidate) ∧
        db' = db.assigned request candidate.userId now draw hassignment hconversation ∧
        reassignment.outcome = .reassigned request.id request.clientUserId
          request.excludedCashierUserId candidate.userId draw.assignmentId) := by
  unfold completePending at h
  split_ifs at h with hactive
  · obtain ⟨found, hfound, h⟩ := bind_eq_ok.mp h
    split at h
    · obtain ⟨requests, hrequests, h⟩ := bind_eq_ok.mp h
      obtain ⟨-, rfl⟩ := Table.change_eq_ok.mp hrequests
      cases h
      exact ⟨rfl, rfl, rfl,
        .inr (.inl ⟨hactive, selectLeastLoadedCashier_eq_none hfound, rfl, rfl⟩)⟩
    · rename_i candidate
      obtain ⟨after, hafter, h⟩ := bind_eq_ok.mp h
      cases h
      obtain ⟨hassignment, hconversation, -, rfl⟩ := assignCandidate_eq_ok hafter
      exact ⟨rfl, rfl, rfl,
        .inr (.inr ⟨candidate, hassignment, hconversation, hactive, hfound, rfl, rfl⟩)⟩
  · cases h
    exact ⟨rfl, rfl, rfl, .inl ⟨Bool.not_eq_true _ ▸ hactive, rfl, rfl⟩⟩

theorem endAssignment_eq_ok {db db' : Db} {assignment : Assignment}
    {endReason : AssignmentEndReason} {now : ℕ}
    (h : endAssignment db assignment endReason now = .ok db') :
    (∃ a, db.assignments.find? assignment.id = some a) ∧
      (∃ c, db.conversations.find? assignment.id = some c) ∧
      db' = db.withEnded assignment endReason now := by
  obtain ⟨assignments, hassignments, h⟩ := bind_eq_ok.mp h
  obtain ⟨conversations, hconversations, h⟩ := bind_eq_ok.mp h
  obtain ⟨hassignment, rfl⟩ := Table.change_eq_ok.mp hassignments
  obtain ⟨hconversation, rfl⟩ := Table.change_eq_ok.mp hconversations
  cases h
  exact ⟨hassignment, hconversation, rfl⟩

/-- The tables with the new request, when `completePending` takes over. -/
def Db.requested (db : Db) (input : BeginReassignmentInput) (now : ℕ) (draw : Draw)
    (hnew : db.requests.find? (newRequest input now draw).id = none) : Db :=
  { db.withEnded input.assignment input.assignmentEndReason now with
    requests := db.requests.insert (newRequest input now draw) hnew }

/-- **A call of `beginReassignment`** ends the assignment, opens the request
and goes on with `completePending`. -/
theorem beginReassignment_eq_ok {db db' : Db} {input : BeginReassignmentInput} {now : ℕ}
    {draw : Draw} {reassignment : Reassignment}
    (h : beginReassignment db input now draw = .ok (db', reassignment)) :
    ∃ hnew, (∃ c, db.conversations.find? input.assignment.id = some c) ∧
      completePending (db.requested input now draw hnew) (newRequest input now draw) now draw =
        .ok (db', reassignment) := by
  obtain ⟨after, hafter, h⟩ := bind_eq_ok.mp h
  obtain ⟨requests, hrequests, h⟩ := bind_eq_ok.mp h
  obtain ⟨-, hconversation, rfl⟩ := endAssignment_eq_ok hafter
  obtain ⟨hnew, rfl⟩ := Table.create_eq_ok.mp hrequests
  exact ⟨hnew, hconversation, h⟩

/-! ## A list of reassignments -/

/-- **The loop rule.** What each step keeps of the tables and the items still
to come, the loop keeps; and every reassignment it reports is one of a step. -/
theorem runEach_rule {α : Type} {step : Db → α → Draw → Except HttpException (Db × Reassignment)}
    {I : Db → List α → Prop}
    (hstep : ∀ db item rest draw db' reassignment, I db (item :: rest) →
      step db item draw = .ok (db', reassignment) → I db' rest)
    {db db' : Db} {items : List α} {draws : ℕ → Draw} {reassignments : List Reassignment}
    (hI : I db items) (h : runEach step db items draws = .ok (db', reassignments)) :
    I db' [] ∧ ∀ reassignment ∈ reassignments, ∃ mid item rest draw after,
      I mid (item :: rest) ∧ step mid item draw = .ok (after, reassignment) := by
  induction items generalizing db draws reassignments with
  | nil =>
    cases h
    exact ⟨hI, by simp⟩
  | cons item rest ih =>
    obtain ⟨first, hfirst, h⟩ := bind_eq_ok.mp h
    obtain ⟨others, hothers, h⟩ := bind_eq_ok.mp h
    cases h
    obtain ⟨hend, hall⟩ := ih (hstep _ _ _ _ _ _ hI hfirst) hothers
    refine ⟨hend, fun reassignment hmem => ?_⟩
    rcases List.mem_cons.mp hmem with rfl | hmem
    · exact ⟨db, item, rest, _, _, hI, hfirst⟩
    · exact hall reassignment hmem

end Attendance

end SinoChat
