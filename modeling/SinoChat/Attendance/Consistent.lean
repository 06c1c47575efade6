import SinoChat.Attendance.Attended

/-!
# The rows stand by each other

What the triggers demand of assignments, conversations and requests, as a
property of the tables alone (`Consistent`): a conversation is active exactly
when its assignment is, a reassignment follows an ended assignment and
completes a request, and every request has its source, its block and its
result. Ending an assignment, opening a request and `completePending` keep it.
-/

namespace SinoChat

open Js

namespace Attendance

/-! ## Assignments only end -/

/-- An active assignment that has ended since. -/
def Ended (old new : Assignment) : Prop :=
  old.endedAt = none ∧ ∃ endReason now, new = ended endReason now old

/-- The assignments that were there are there, some of them ended. -/
def Grown (before after : Db) : Prop :=
  ∀ id a, before.assignments.find? id = some a →
    ∃ a', after.assignments.find? id = some a' ∧ (a' = a ∨ Ended a a')

/-- Blocks are never removed or changed. -/
def BlocksKept (before after : Db) : Prop :=
  ∀ id b, before.blocks.find? id = some b → after.blocks.find? id = some b

variable {db db' before after : Db} {request r : ReassignmentRequest} {now : ℕ} {draw : Draw}
  {reassignment : Reassignment}

theorem Grown.refl (db : Db) : Grown db db := fun _ a h => ⟨a, h, .inl rfl⟩

/-- The same assignments have grown by nothing. -/
theorem Grown.of_eq (h : after.assignments = before.assignments) : Grown before after :=
  fun _ a hfind => ⟨a, h ▸ hfind, .inl rfl⟩

/-- An assignment that has ended is the same for good. -/
theorem Grown.of_ended (h : Grown before after) {id : Uuid} {a : Assignment}
    (hfind : before.assignments.find? id = some a) (hended : a.endedAt.isSome) :
    after.assignments.find? id = some a := by
  obtain ⟨a', hfind', rfl | hnow⟩ := h id a hfind
  · exact hfind'
  · rw [hnow.1] at hended
    cases hended

/-- A valid source stays valid. -/
theorem Grown.validSource (h : Grown before after) (hr : before.validSource r = true) :
    after.validSource r = true := by
  obtain ⟨previous, hfind, hcond⟩ := (Option.any_eq_true _ _).mp hr
  have hended : previous.endedAt.isSome := by
    simp only [Bool.and_eq_true] at hcond
    exact hcond.1.1.2
  refine (Option.any_eq_true _ _).mpr ⟨previous, h.of_ended hfind hended, hcond⟩

/-- So does a valid predecessor. -/
theorem Grown.validPrevious (h : Grown before after) {a : Assignment}
    (ha : before.validPrevious a = true) : after.validPrevious a = true := by
  obtain ⟨previous, hfind, hcond⟩ := (Option.any_eq_true _ _).mp ha
  obtain ⟨id, hid, hfind⟩ := Option.bind_eq_some_iff.mp hfind
  have hended : previous.endedAt.isSome := by
    simp only [Bool.and_eq_true] at hcond
    exact hcond.1
  refine (Option.any_eq_true _ _).mpr ⟨previous, ?_, hcond⟩
  exact Option.bind_eq_some_iff.mpr ⟨id, hid, h.of_ended hfind hended⟩

/-! ## Consistent tables -/

/-- **What a request rests on**: its source, its block and its result. -/
structure Db.Founded (db : Db) (r : ReassignmentRequest) : Prop where
  source : db.validSource r = true
  trigger : db.validTrigger r = true
  block : ∀ blockId, r.triggerBlockId = some blockId → ∃ b, db.blocks.find? blockId = some b
  result : r.status = .completed → ∃ a, r.resultingAssignmentId.bind db.assignments.find? = some a
  valid : db.validResult r = true

/-- A request stays founded. -/
theorem Db.Founded.grown (h : before.Founded r) (hgrown : Grown before after)
    (hblocks : BlocksKept before after) : after.Founded r := by
  have hresult : r.status = .completed →
      ∃ a', r.resultingAssignmentId.bind after.assignments.find? = some a' ∧
        ∃ a, r.resultingAssignmentId.bind before.assignments.find? = some a ∧
          (a' = a ∨ Ended a a') := by
    intro hcompleted
    obtain ⟨a, ha⟩ := h.result hcompleted
    obtain ⟨id, hid, hfind⟩ := Option.bind_eq_some_iff.mp ha
    obtain ⟨a', hfind', hkept⟩ := hgrown id a hfind
    exact ⟨a', by rw [hid]; exact hfind', a, ha, hkept⟩
  refine ⟨hgrown.validSource h.source, ?_, fun blockId hid => ?_, fun hcompleted => ?_, ?_⟩
  · have htrigger := h.trigger
    unfold Db.validTrigger at htrigger ⊢
    split
    · rename_i blockId hid
      rw [hid] at htrigger
      obtain ⟨b, hb⟩ := h.block blockId hid
      rw [hblocks _ _ hb, ← hb]
      exact htrigger
    · rename_i hid
      rw [hid] at htrigger
      exact htrigger
  · obtain ⟨b, hb⟩ := h.block blockId hid
    exact ⟨b, hblocks _ _ hb⟩
  · obtain ⟨a', ha', -⟩ := hresult hcompleted
    exact ⟨a', ha'⟩
  · have hvalid := h.valid
    unfold Db.validResult at hvalid ⊢
    by_cases hcompleted : r.status = .completed
    · obtain ⟨a', ha', a, ha, hkept⟩ := hresult hcompleted
      rw [ha] at hvalid
      rw [ha']
      rcases hkept with rfl | ⟨-, endReason, now, rfl⟩
      · exact hvalid
      · exact hvalid
    · simp [hcompleted]

/-- The status a conversation has by its assignment. -/
def conversationStatus (a : Assignment) : ConversationStatus :=
  if a.endedAt = none then .active else .closed

/-- **The tables agree.** -/
structure Consistent (db : Db) : Prop where
  conversations : ∀ id, (db.conversations.find? id).map Conversation.status =
    (db.assignments.find? id).map conversationStatus
  previous : ∀ id a, db.assignments.find? id = some a → a.startReason ≠ .invitation →
    db.validPrevious a = true ∧ db.completesRequest a = true
  requests : ∀ id r, db.requests.find? id = some r → db.Founded r

/-- Only four tables matter. -/
theorem Consistent.congr (h : Consistent before) (hassignments : after.assignments =
    before.assignments) (hconversations : after.conversations = before.conversations)
    (hblocks : after.blocks = before.blocks) (hrequests : after.requests = before.requests) :
    Consistent after := by
  have hgrown : Grown before after := .of_eq hassignments
  have hkept : BlocksKept before after := fun _ _ hb => hblocks ▸ hb
  refine ⟨fun id => ?_, fun id a ha hreason => ?_, fun id r hr => ?_⟩
  · rw [hassignments, hconversations]
    exact h.conversations id
  · rw [hassignments] at ha
    obtain ⟨hprevious, hcompletes⟩ := h.previous id a ha hreason
    refine ⟨hgrown.validPrevious hprevious, ?_⟩
    unfold Db.completesRequest at hcompletes ⊢
    rwa [hrequests]
  · rw [hrequests] at hr
    exact (h.requests id r hr).grown hgrown hkept

/-- Rows of no table at all. -/
theorem consistent_of_empty (hassignments : db.assignments = Table.empty)
    (hconversations : db.conversations = Table.empty) (hrequests : db.requests = Table.empty) :
    Consistent db := by
  refine ⟨fun id => ?_, fun id a ha => ?_, fun id r hr => ?_⟩
  · rw [hassignments, hconversations]
    rfl
  · rw [hassignments] at ha
    cases ha
  · rw [hrequests] at hr
    cases hr

/-- The trigger lets consistent tables through. -/
theorem Consistent.validateAssignmentConversation (h : Consistent db) (id : Uuid) :
    db.validateAssignmentConversation id = true := by
  have hid := h.conversations id
  unfold Db.validateAssignmentConversation
  cases hfind : db.assignments.find? id with
  | none => rfl
  | some a =>
    rw [hfind] at hid
    obtain ⟨c, hc, hstatus⟩ := Option.map_eq_some_iff.mp hid
    rw [hc]
    simpa [conversationStatus] using hstatus

/-- A completed request is not one that is pending. -/
theorem completesRequest_update {f : ReassignmentRequest → ReassignmentRequest}
    (hf : ∀ r, (f r).id = r.id) {a : Assignment}
    (hpending : ∀ r, db.requests.find? request.id = some r → r.status = .pending)
    (hcompletes : db.completesRequest a = true)
    (hrequests : after.requests = db.requests.update request.id f hf) :
    after.completesRequest a = true := by
  obtain ⟨r, hr, hcond⟩ := List.any_eq_true.mp hcompletes
  have hfind : db.requests.find? r.id = some r := Table.find?_eq_some.mpr ⟨hr, rfl⟩
  have hne : r.id ≠ request.id := by
    intro hid
    have hstatus := hpending r (hid ▸ hfind)
    simp [hstatus] at hcond
  have hafter : after.requests.find? r.id = some r := by
    rw [hrequests, Table.find?_update, if_neg hne]
    exact hfind
  exact List.any_eq_true.mpr ⟨r, (Table.find?_eq_some.mp hafter).1, hcond⟩

/-! ## One reassignment -/

/-- An attempt more or less makes no difference. -/
theorem Consistent.attempted (h : Consistent db)
    (hfind : db.requests.find? request.id = some request) (hpending : request.status = .pending) :
    Consistent { db with
      requests := db.requests.update request.id (attempted now) (attempted_id now) } := by
  refine ⟨h.conversations, fun id a ha hreason => ?_, fun id r hr => ?_⟩
  · obtain ⟨hprevious, hcompletes⟩ := h.previous id a ha hreason
    refine ⟨hprevious, completesRequest_update (attempted_id now) (fun r hr => ?_) hcompletes rfl⟩
    rw [hfind] at hr
    exact Option.some_inj.mp hr ▸ hpending
  · dsimp only at hr
    rw [Table.find?_update] at hr
    split at hr
    · obtain ⟨r', hr', rfl⟩ := Option.map_eq_some_iff.mp hr
      obtain ⟨hsource, htrigger, hblock, hresult, hvalid⟩ := h.requests _ r' hr'
      exact ⟨hsource, htrigger, hblock, hresult, hvalid⟩
    · obtain ⟨hsource, htrigger, hblock, hresult, hvalid⟩ := h.requests _ r hr
      exact ⟨hsource, htrigger, hblock, hresult, hvalid⟩

/-- New rows leave the assignments that were there. -/
theorem grown_assigned {cashierUserId : Uuid} {hassignment hconversation} :
    Grown db (db.assigned request cashierUserId now draw hassignment hconversation) := by
  intro id a hfind
  refine ⟨a, ?_, .inl rfl⟩
  have hne : draw.assignmentId ≠ id := by
    rintro rfl
    rw [newAssignment_id, hfind] at hassignment
    cases hassignment
  simpa [Db.assigned, Table.find?_insert, hne] using hfind

/-- **A reassignment** to another cashier than the one replaced. -/
theorem Consistent.assigned (h : Consistent db)
    (hfind : db.requests.find? request.id = some request) (hpending : request.status = .pending)
    {cashierUserId : Uuid} (hother : cashierUserId ≠ request.excludedCashierUserId)
    {hassignment hconversation} :
    Consistent (db.assigned request cashierUserId now draw hassignment hconversation) := by
  have hgrown : Grown db (db.assigned request cashierUserId now draw hassignment hconversation) :=
    grown_assigned
  have hnew : (db.assigned request cashierUserId now draw hassignment hconversation).assignments.find?
      draw.assignmentId = some (newAssignment request cashierUserId now draw) := by
    simp [Db.assigned, Table.find?_insert]
  have hdone : (db.assigned request cashierUserId now draw hassignment hconversation).requests.find?
      request.id = some (completed draw.assignmentId now request) := by
    simp [Db.assigned, Table.find?_update, hfind]
  have hfounded := (h.requests _ _ hfind).grown hgrown fun _ _ hb => hb
  refine ⟨fun id => ?_, fun id a ha hreason => ?_, fun id r hr => ?_⟩
  · by_cases hid : draw.assignmentId = id
    · simp [Db.assigned, Table.find?_insert, hid, conversationStatus, newConversation]
    · simpa [Db.assigned, Table.find?_insert, hid] using h.conversations id
  · by_cases hid : draw.assignmentId = id
    · subst hid
      obtain rfl : newAssignment request cashierUserId now draw = a := by
        simpa using hnew.symm.trans ha
      refine ⟨?_, ?_⟩
      · obtain ⟨previous, hprevious, hcond⟩ := (Option.any_eq_true _ _).mp hfounded.source
        simp only [Bool.and_eq_true, decide_eq_true_eq] at hcond
        refine (Option.any_eq_true _ _).mpr ⟨previous, hprevious, ?_⟩
        simp [hcond.1.1.1.1, hcond.1.1.2]
      · refine List.any_eq_true.mpr ⟨_, (Table.find?_eq_some.mp hdone).1, ?_⟩
        simp [newAssignment, completed]
    · have ha' : db.assignments.find? id = some a := by
        simpa [Db.assigned, Table.find?_insert, hid] using ha
      obtain ⟨hprevious, hcompletes⟩ := h.previous id a ha' hreason
      refine ⟨hgrown.validPrevious hprevious,
        completesRequest_update (completed_id _ _) (fun r hr => ?_) hcompletes rfl⟩
      rw [hfind] at hr
      exact Option.some_inj.mp hr ▸ hpending
  · by_cases hid : id = request.id
    · subst hid
      obtain rfl : completed draw.assignmentId now request = r := by
        simpa using hdone.symm.trans hr
      refine ⟨hfounded.source, hfounded.trigger, hfounded.block, fun _ => ⟨_, hnew⟩, ?_⟩
      unfold Db.validResult
      have hresult : (completed draw.assignmentId now request).resultingAssignmentId.bind
          (db.assigned request cashierUserId now draw hassignment hconversation).assignments.find? =
          some (newAssignment request cashierUserId now draw) := hnew
      rw [hresult]
      simp [newAssignment, completed, hother]
    · have hr' : db.requests.find? id = some r := by
        simpa [Db.assigned, Table.find?_update, hid] using hr
      exact (h.requests id r hr').grown hgrown fun _ _ hb => hb

/-- Who is picked is eligible. -/
theorem eligible_of_select {clientUserId excludedCashierUserId : Uuid} {randomIndex : ℕ → ℕ}
    {candidate : CashierLoad}
    (h : selectLeastLoadedCashier (db.findEligibleCandidates clientUserId excludedCashierUserId now)
      randomIndex = .ok (some candidate)) :
    ∃ profile ∈ db.cashierProfiles, profile.userId = candidate.userId ∧
      db.eligible clientUserId excludedCashierUserId now profile = true ∧
      ∀ other ∈ db.cashierProfiles, db.eligible clientUserId excludedCashierUserId now other = true →
        db.load candidate.userId ≤ db.load other.userId := by
  obtain ⟨hmem, hleast⟩ := selectLeastLoadedCashier_eq_some h
  obtain ⟨profile, hprofile, rfl⟩ := List.mem_map.mp hmem
  obtain ⟨hprofile, heligible⟩ := List.mem_filter.mp hprofile
  refine ⟨profile, hprofile, rfl, heligible, fun other hother hok => ?_⟩
  exact hleast _ (List.mem_map_of_mem (List.mem_filter.mpr ⟨hother, hok⟩))

/-- An eligible cashier is not the excluded one. -/
theorem Db.eligible_ne {clientUserId excludedCashierUserId : Uuid} {profile : CashierProfile}
    (h : db.eligible clientUserId excludedCashierUserId now profile = true) :
    profile.userId ≠ excludedCashierUserId := by
  simp only [Db.eligible, Bool.and_eq_true, decide_eq_true_eq] at h
  exact h.1.1.1.1.1.1

/-- **`completePending` keeps the tables consistent.** -/
theorem consistent_completePending (h : Consistent db)
    (hfind : db.requests.find? request.id = some request) (hpending : request.status = .pending)
    (hrun : completePending db request now draw = .ok (db', reassignment)) : Consistent db' := by
  obtain ⟨-, -, -, hcases⟩ := completePending_eq_ok hrun
  rcases hcases with ⟨-, rfl, -⟩ | ⟨-, -, rfl, -⟩ | ⟨candidate, _, _, -, hselect, rfl, -⟩
  · exact h
  · exact h.attempted hfind hpending
  · obtain ⟨profile, -, hid, heligible, -⟩ := eligible_of_select hselect
    exact h.assigned hfind hpending (hid ▸ Db.eligible_ne heligible)

/-- An assignment that ends is grown. -/
theorem grown_withEnded {assignment : Assignment} {endReason : AssignmentEndReason}
    (hfind : db.assignments.find? assignment.id = some assignment)
    (hactive : assignment.endedAt = none) : Grown db (db.withEnded assignment endReason now) := by
  intro id a ha
  by_cases hid : id = assignment.id
  · subst hid
    obtain rfl : assignment = a := by simpa using hfind.symm.trans ha
    refine ⟨ended endReason now assignment, ?_, .inr ⟨hactive, _, _, rfl⟩⟩
    simp [Db.withEnded, Table.find?_update, hfind]
  · exact ⟨a, by simpa [Db.withEnded, Table.find?_update, hid] using ha, .inl rfl⟩

/-- **An assignment ends**, and its conversation with it. -/
theorem Consistent.withEnded {assignment : Assignment} {endReason : AssignmentEndReason}
    (h : Consistent db) (hfind : db.assignments.find? assignment.id = some assignment)
    (hactive : assignment.endedAt = none) :
    Consistent (db.withEnded assignment endReason now) := by
  have hgrown : Grown db (db.withEnded assignment endReason now) := grown_withEnded hfind hactive
  refine ⟨fun id => ?_, fun id a ha hreason => ?_, fun id r hr => ?_⟩
  · by_cases hid : id = assignment.id
    · subst hid
      have hconversation := h.conversations assignment.id
      rw [hfind] at hconversation
      obtain ⟨c, hc, -⟩ := Option.map_eq_some_iff.mp hconversation
      simp [Db.withEnded, Table.find?_update, hfind, hc, conversationStatus, closed]
    · simpa [Db.withEnded, Table.find?_update, hid] using h.conversations id
  · have hbefore : ∃ old, db.assignments.find? id = some old ∧ (a = old ∨ Ended old a) := by
      by_cases hid : id = assignment.id
      · subst hid
        have hnew : ended endReason now assignment = a := by
          simpa [Db.withEnded, Table.find?_update, hfind] using ha
        exact ⟨assignment, hfind, .inr ⟨hactive, _, _, hnew.symm⟩⟩
      · exact ⟨a, by simpa [Db.withEnded, Table.find?_update, hid] using ha, .inl rfl⟩
    obtain ⟨old, hold, rfl | ⟨-, _, _, rfl⟩⟩ := hbefore
    · obtain ⟨hprevious, hcompletes⟩ := h.previous id a hold hreason
      exact ⟨hgrown.validPrevious hprevious, hcompletes⟩
    · obtain ⟨hprevious, hcompletes⟩ := h.previous id old hold hreason
      exact ⟨hgrown.validPrevious hprevious, hcompletes⟩
  · exact (h.requests id r hr).grown hgrown fun _ _ hb => hb

/-- What a new request asks of the reason and the block it is opened with. -/
structure Db.Admits (db : Db) (input : BeginReassignmentInput) : Prop where
  reason : matchesEndReason input.reason input.assignmentEndReason = true
  trigger : ∀ now draw, db.validTrigger (newRequest input now draw) = true
  block : ∀ blockId, input.triggerBlockId = some blockId → ∃ b, db.blocks.find? blockId = some b

/-- Reasons without a block need none. -/
theorem Db.admits_of_none {assignment : Assignment} {reason : ReassignmentReason}
    {endReason : AssignmentEndReason} (hmatches : matchesEndReason reason endReason = true)
    (hnone : blockInitiatorOf reason = none) :
    db.Admits ⟨assignment, reason, endReason, none⟩ := by
  refine ⟨hmatches, fun now draw => ?_, fun blockId h => by cases h⟩
  simp [Db.validTrigger, newRequest, hnone]

/-- **A request opens** for an assignment that ends. -/
theorem Consistent.requested {input : BeginReassignmentInput} (h : Consistent db)
    (hfind : db.assignments.find? input.assignment.id = some input.assignment)
    (hactive : input.assignment.endedAt = none) (hadmits : db.Admits input) {hnew} :
    Consistent (db.requested input now draw hnew) := by
  have hended : Consistent (db.withEnded input.assignment input.assignmentEndReason now) :=
    h.withEnded hfind hactive
  have hrow : (db.requested input now draw hnew).assignments.find? input.assignment.id =
      some (ended input.assignmentEndReason now input.assignment) := by
    simp [Db.requested, Db.withEnded, Table.find?_update, hfind]
  refine ⟨hended.conversations, fun id a ha hreason => ?_, fun id r hr => ?_⟩
  · obtain ⟨hprevious, hcompletes⟩ := hended.previous id a ha hreason
    refine ⟨hprevious, ?_⟩
    obtain ⟨r, hr, hcond⟩ := List.any_eq_true.mp hcompletes
    have hmem : r ∈ db.requests.insert (newRequest input now draw) hnew :=
      Table.mem_insert.mpr (.inl hr)
    exact List.any_eq_true.mpr ⟨r, hmem, hcond⟩
  · by_cases hid : draw.requestId = id
    · subst hid
      obtain rfl : newRequest input now draw = r := by
        simpa [Db.requested, Table.find?_insert] using hr
      refine ⟨?_, hadmits.trigger now draw, hadmits.block, fun hdone => (by cases hdone), by
        simp [Db.validResult]⟩
      refine (Option.any_eq_true _ _).mpr ⟨_, hrow, ?_⟩
      have hreason : input.reason ≠ .clientBlockedCashier := by
        intro hblocked
        have hmatches := hadmits.reason
        rw [hblocked] at hmatches
        cases hmatches
      simp [ended, newRequest, hreason, hadmits.reason]
    · have hr' : db.requests.find? id = some r := by
        simpa [Db.requested, Table.find?_insert, hid] using hr
      obtain ⟨hsource, htrigger, hblock, hresult, hvalid⟩ := hended.requests id r hr'
      exact ⟨hsource, htrigger, hblock, hresult, hvalid⟩

/-- **`beginReassignment` keeps the tables consistent.** -/
theorem consistent_beginReassignment {input : BeginReassignmentInput} (h : Consistent db)
    (hfind : db.assignments.find? input.assignment.id = some input.assignment)
    (hactive : input.assignment.endedAt = none) (hadmits : db.Admits input)
    (hrun : beginReassignment db input now draw = .ok (db', reassignment)) : Consistent db' := by
  obtain ⟨hnew, -, hrun⟩ := beginReassignment_eq_ok hrun
  refine consistent_completePending (h.requested hfind hactive hadmits) ?_ rfl hrun
  dsimp only [Db.requested]
  rw [Table.find?_insert, if_pos rfl]

end Attendance

end SinoChat
