import SinoChat.Attendance.Operations

/-!
# What passes at the commit

A transaction from consistent tables passes the checks of its commit, if the
invitation assignments it ends have an origin the update check accepts and
the cashiers it assigned are still subscribed (`Transaction.commitChecks`).
It fails them if one has not or is not, and when it deletes a busy cashier.
So every state of the machine is consistent.
-/

namespace SinoChat

open Js

namespace Attendance

variable {db db' mid before after : Db} {request : ReassignmentRequest} {now clock : ℕ}
  {draw : Draw} {draws : ℕ → Draw} {reads : ℕ → ℕ} {reassignment : Reassignment}
  {reassignments : List Reassignment} {ends : Assignment → Prop} {good : Prop}
  {lasts : Uuid → Prop}

/-! ## The checks of one table each -/

/-- An assignment that ends keeps its history. -/
theorem keepsHistory_of_ended {a a' : Assignment} (h : Ended a a') : keepsHistory a a' = true := by
  obtain ⟨hactive, endReason, now, rfl⟩ := h
  simp [keepsHistory, ended, hactive]

/-- The origin of an assignment is what it was. -/
theorem validInvitation_ended {a : Assignment} {endReason : AssignmentEndReason} {limit : ℕ}
    (hinvitations : after.invitations = before.invitations) :
    after.validInvitation (ended endReason now a) limit = before.validInvitation a limit := by
  unfold Db.validInvitation
  rw [hinvitations]
  rfl

theorem Transaction.commitsAssignment (h : Transaction good lasts clock ends reassignments before
    after) (hgood : good) (hafter : Consistent after)
    (horigins : ∀ id a, before.assignments.find? id = some a → ends a →
      a.startReason = .invitation → before.validInvitation a a.startedAt = true)
    (hlasts : ∀ reassignment ∈ reassignments, ∀ cashierUserId assignmentId,
      reassignment.Assigns cashierUserId assignmentId → lasts cashierUserId)
    {a : Assignment} (ha : a ∈ after.assignments) :
    Attendance.commitsAssignment clock before after a = true := by
  have hfind : after.assignments.find? a.id = some a := Table.find?_eq_some.mpr ⟨ha, rfl⟩
  have hconversation := hafter.validateAssignmentConversation a.id
  unfold Attendance.commitsAssignment
  cases hbefore : before.assignments.find? a.id with
  | none =>
    obtain ⟨reassignment, hmem, hopens⟩ := h.moved.opened a.id a hfind hbefore
    obtain ⟨hnow, hseated⟩ := h.seated hgood reassignment hmem
    obtain ⟨profile, hprofile, hid, heligible, -⟩ :=
      h.moved.chosen reassignment hmem _ _ _ _ _ hopens.outcome
    have hassignee : after.validAssignee profile.userId clock = true :=
      (hseated _ (Db.validAssignee_of_eligible hprofile heligible)).mpr (hid ▸
        hlasts reassignment hmem _ _ ⟨_, _, _, hopens.outcome⟩)
    obtain ⟨hprevious, hcompletes⟩ := hafter.previous a.id a hfind hopens.startReason
    simp [Db.validateNewAssignmentOrigin, hopens.startReason, hopens.startedAt, hnow, ← hid,
      hassignee, hprevious, hcompletes, hconversation]
  | some old =>
    obtain ⟨a', hfind', ⟨hends, hended⟩ | ⟨-, rfl⟩⟩ := h.moved.kept a.id old hbefore
    · obtain rfl : a' = a := by simpa using hfind'.symm.trans hfind
      have horigin : after.validateAssignmentOrigin a' = true := by
        unfold Db.validateAssignmentOrigin
        split
        · rename_i hinvitation
          have hinvitations := h.invitations hgood ⟨_, old, hbefore, hends⟩
          obtain ⟨-, endReason, now, rfl⟩ := hended
          rw [validInvitation_ended hinvitations]
          exact horigins _ old hbefore hends hinvitation
        · rename_i hreason
          exact (hafter.previous a'.id a' hfind hreason).1
      simp [keepsHistory_of_ended hended, horigin, hconversation]
    · obtain rfl : a' = a := by simpa using hfind'.symm.trans hfind
      simp

theorem Transaction.commitsConversation (h : Transaction good lasts clock ends reassignments before
    after) (hafter : Consistent after) {c : Conversation} (hc : c ∈ after.conversations) :
    Attendance.commitsConversation before after c = true := by
  have hfind : after.conversations.find? c.assignmentId = some c :=
    Table.find?_eq_some.mpr ⟨hc, rfl⟩
  have hconversation := hafter.validateAssignmentConversation c.assignmentId
  unfold Attendance.commitsConversation
  cases hbefore : before.conversations.find? c.assignmentId with
  | none => simp [hconversation]
  | some old =>
    obtain ⟨c', hfind', hkept⟩ := h.moved.conversations c.assignmentId old hbefore
    obtain rfl : c' = c := by simpa using hfind'.symm.trans hfind
    rcases hkept with rfl | rfl
    · simp
    · simp only [closed_assignmentId] at hconversation
      simp [keepsConversation, closed, hconversation]

/-- A request that is pending stands alone where the sums are one at most. -/
theorem validPending_of_held (hone : ∀ c, db.held c ≤ 1) {r : ReassignmentRequest}
    (hr : r ∈ db.requests) : db.validPending r = true := by
  unfold Db.validPending
  by_cases hpending : r.status = .pending
  · rw [Bool.or_eq_true]
    refine .inr (List.all_eq_true.mpr fun a ha => ?_)
    by_cases hclient : a.clientUserId = r.clientUserId
    · have hended := not_active_of_pending (hone _) hr hpending hclient.symm ha
      simp [hended]
    · simp [hclient]
  · simp [hpending]

theorem commitsRequest_of_consistent (hafter : Consistent after) (hone : ∀ c, after.held c ≤ 1)
    {r : ReassignmentRequest} (hr : r ∈ after.requests) :
    commitsRequest before after r = true := by
  obtain ⟨hsource, htrigger, -, -, hvalid⟩ :=
    hafter.requests r.id r (Table.find?_eq_some.mpr ⟨hr, rfl⟩)
  simp [commitsRequest, Db.validateReassignmentRequest, hsource, htrigger, hvalid,
    validPending_of_held hone hr]

/-- **A transaction passes** when the invitation assignments it ends have a
valid origin and the cashiers it assigned last. -/
theorem Transaction.commitChecks (h : Transaction good lasts clock ends reassignments before after)
    (hgood : good) (hbefore : Consistent before) (hone : ∀ c, after.held c ≤ 1)
    (horigins : ∀ id a, before.assignments.find? id = some a → ends a →
      a.startReason = .invitation → before.validInvitation a a.startedAt = true)
    (hlasts : ∀ reassignment ∈ reassignments, ∀ cashierUserId assignmentId,
      reassignment.Assigns cashierUserId assignmentId → lasts cashierUserId) :
    Attendance.commitChecks clock before after = true := by
  have hafter := h.consistent hgood hbefore
  unfold Attendance.commitChecks
  simp only [Bool.and_eq_true, List.all_eq_true]
  refine ⟨⟨⟨⟨fun a ha => ?_, fun c hc => ?_⟩, fun b hb => ?_⟩, fun r hr => ?_⟩, fun r hr => ?_⟩
  · exact h.commitsAssignment hgood hafter horigins hlasts ha
  · exact h.commitsConversation hafter hc
  · rcases h.blocks b hb with hold | ⟨hvalid, hlife⟩
    · simp [commitsBlock, hold]
    · simp [commitsBlock, hvalid, hlife]
  · rcases h.reports r hr with hold | hvalid
    · simp [commitsReport, hold]
    · simp [commitsReport, hvalid]
  · exact commitsRequest_of_consistent hafter hone hr

/-! ## What fails -/

/-- One assignment fails, and with it the commit. -/
theorem not_commitChecks_of_assignment {a : Assignment} (ha : a ∈ after.assignments)
    (hfails : Attendance.commitsAssignment clock before after a = false) :
    commitChecks clock before after = false := by
  have hall : after.assignments.rows.all (commitsAssignment clock before after) = false := by
    rw [List.all_eq_false]
    exact ⟨a, ha, by simp [hfails]⟩
  simp [commitChecks, hall]

/-- **A cashier whose subscription has run out cannot be assigned.** -/
theorem Transaction.not_commitChecks_of_assigns (h : Transaction good lasts clock ends
    reassignments before after) (hgood : good) (hmem : reassignment ∈ reassignments)
    {cashierUserId assignmentId : Uuid} (hassigns : reassignment.Assigns cashierUserId assignmentId)
    (hnot : ¬ lasts cashierUserId) : Attendance.commitChecks clock before after = false := by
  obtain ⟨hnew, a, hfind, hcashier⟩ := h.moved.reported reassignment hmem _ _ hassigns
  obtain ⟨_, _, _, houtcome⟩ := hassigns
  obtain ⟨profile, hprofile, rfl, heligible, -⟩ :=
    h.moved.chosen reassignment hmem _ _ _ _ _ houtcome
  have hseated := (h.seated hgood reassignment hmem).2 _
    (Db.validAssignee_of_eligible hprofile heligible)
  have hinvalid : after.validAssignee a.cashierUserId clock = false := by
    rw [hcashier, Bool.eq_false_iff]
    exact fun hvalid => hnot (hseated.mp hvalid)
  obtain ⟨hin, hid⟩ := Table.find?_eq_some.mp hfind
  refine not_commitChecks_of_assignment hin ?_
  simp [Attendance.commitsAssignment, hid, hnew, Db.validateNewAssignmentOrigin, hinvalid]

/-- **An invitation assignment without a valid origin cannot end.** -/
theorem Transaction.not_commitChecks (h : Transaction good lasts clock ends reassignments before
    after) (hgood : good) {id : Uuid} {a : Assignment}
    (hfind : before.assignments.find? id = some a) (hends : ends a)
    (hinvitation : a.startReason = .invitation)
    (hinvalid : before.validInvitation a a.startedAt = false) :
    Attendance.commitChecks clock before after = false := by
  obtain ⟨a', hfind', ⟨-, hended⟩ | ⟨hnot, -⟩⟩ := h.moved.kept id a hfind
  · have hinvitations := h.invitations hgood ⟨id, a, hfind, hends⟩
    obtain ⟨hactive, endReason, now, rfl⟩ := hended
    obtain ⟨hmem, hid⟩ := Table.find?_eq_some.mp hfind'
    have hfails : Attendance.commitsAssignment clock before after (ended endReason now a) =
        false := by
      unfold Attendance.commitsAssignment
      rw [hid, hfind]
      have hne : a ≠ ended endReason now a := by
        intro heq
        rw [heq] at hactive
        cases hactive
      have horigin : after.validateAssignmentOrigin (ended endReason now a) = false := by
        unfold Db.validateAssignmentOrigin
        rw [if_pos (by exact hinvitation), validInvitation_ended hinvitations]
        exact hinvalid
      simp [hne, horigin]
    exact not_commitChecks_of_assignment hmem hfails
  · exact absurd hends hnot

/-- The reason and the source of the requests that were there. -/
def RequestsKept (before after : Db) : Prop :=
  ∀ id r, before.requests.find? id = some r → ∃ r', after.requests.find? id = some r' ∧
    r'.reason = r.reason ∧ r'.previousAssignmentId = r.previousAssignmentId

theorem RequestsKept.trans (h : RequestsKept before mid) (h' : RequestsKept mid after) :
    RequestsKept before after := by
  intro id r hr
  obtain ⟨m, hm, hreason, hprevious⟩ := h id r hr
  obtain ⟨r', hr', hreason', hprevious'⟩ := h' id m hm
  exact ⟨r', hr', hreason'.trans hreason, hprevious'.trans hprevious⟩

theorem requestsKept_update {f : ReassignmentRequest → ReassignmentRequest}
    (hf : ∀ r, (f r).id = r.id) {id : Uuid}
    (hsame : ∀ r, (f r).reason = r.reason ∧ (f r).previousAssignmentId = r.previousAssignmentId)
    (hrequests : after.requests = before.requests.update id f hf) : RequestsKept before after := by
  intro other r hr
  rw [hrequests, Table.find?_update]
  by_cases hid : other = id
  · subst hid
    exact ⟨f r, by rw [if_pos rfl, hr]; rfl, hsame r⟩
  · exact ⟨r, by rw [if_neg hid, hr], rfl, rfl⟩

theorem requestsKept_completePending
    (h : completePending db request now draw = .ok (db', reassignment)) : RequestsKept db db' := by
  obtain ⟨-, -, -, hcases⟩ := completePending_eq_ok h
  rcases hcases with ⟨-, rfl, -⟩ | ⟨-, -, rfl, -⟩ | ⟨candidate, _, _, -, -, rfl, -⟩
  · exact fun id r hr => ⟨r, hr, rfl, rfl⟩
  · exact requestsKept_update (attempted_id now) (fun r => ⟨rfl, rfl⟩) rfl
  · exact requestsKept_update (completed_id draw.assignmentId now) (fun r => ⟨rfl, rfl⟩) rfl

theorem requestsKept_beginReassignment {input : BeginReassignmentInput}
    (h : beginReassignment db input now draw = .ok (db', reassignment)) : RequestsKept db db' := by
  obtain ⟨hnew, -, h⟩ := beginReassignment_eq_ok h
  refine RequestsKept.trans (fun id r hr => ?_) (requestsKept_completePending h)
  have hne : draw.requestId ≠ id := by
    rintro rfl
    rw [newRequest_id, hr] at hnew
    cases hnew
  exact ⟨r, by simpa [Db.requested, Table.find?_insert, hne] using hr, rfl, rfl⟩

/-- The request a reassignment opened is there with its reason. -/
theorem opened_beginReassignment {input : BeginReassignmentInput}
    (h : beginReassignment db input now draw = .ok (db', reassignment)) :
    db.requests.find? draw.requestId = none ∧ ∃ r, db'.requests.find? draw.requestId = some r ∧
      r.reason = input.reason ∧ r.previousAssignmentId = input.assignment.id := by
  obtain ⟨hnew, -, h⟩ := beginReassignment_eq_ok h
  refine ⟨hnew, requestsKept_completePending h draw.requestId (newRequest input now draw) ?_⟩
  simp [Db.requested, Table.find?_insert]

/-- **Reassigning for a deleted cashier fails**: the request says that the
cashier is unavailable and the assignment that an account was deleted. -/
theorem not_commitChecks_of_reassign {assignments : List Assignment}
    (hrunning : Running db assignments) (hsome : assignments ≠ [])
    (h : runEach (fun db assignment => beginReassignment db
        ⟨assignment, .cashierUnavailable, .accountDeleted, none⟩ now) db assignments draws =
      .ok (mid, reassignments)) (hassignments : after.assignments = mid.assignments)
    (hrequests : after.requests = mid.requests) : commitChecks clock db after = false := by
  cases assignments with
  | nil => exact absurd rfl hsome
  | cons assignment rest =>
    obtain ⟨⟨next, first⟩, hfirst, h⟩ := bind_eq_ok.mp h
    obtain ⟨⟨last, others⟩, hothers, h⟩ := bind_eq_ok.mp h
    cases h
    obtain ⟨hfind, hactive⟩ := hrunning.2 assignment List.mem_cons_self
    obtain ⟨hnew, r, hr, hreason, hprevious⟩ := opened_beginReassignment hfirst
    have hrow := ended_beginReassignment (by exact hfind) hfirst
    obtain ⟨hchain, -⟩ := reassigned_reassign (hrunning.next hfirst) hothers
    obtain ⟨r', hr', hreason', hprevious'⟩ : ∃ r', last.requests.find? (draws 0).requestId =
        some r' ∧ r'.reason = r.reason ∧ r'.previousAssignmentId = r.previousAssignmentId := by
      obtain ⟨hkept, -⟩ := runEach_rule (I := fun mid _ => RequestsKept next mid)
        (fun _ _ _ _ _ _ hI h => hI.trans (requestsKept_beginReassignment h))
        (fun id r hr => ⟨r, hr, rfl, rfl⟩) hothers
      exact hkept _ r hr
    have hlast : last.assignments.find? assignment.id =
        some (ended .accountDeleted now assignment) :=
      hchain.moved.grown.of_ended hrow rfl
    have hsource : after.validSource r' = false := by
      unfold Db.validSource
      rw [hassignments, hprevious', hprevious, hlast, hreason', hreason]
      simp [ended, matchesEndReason]
    obtain ⟨hmem, hid⟩ := Table.find?_eq_some.mp hr'
    have hfails : commitsRequest db after r' = false := by
      unfold commitsRequest
      rw [hid, hnew]
      simp [Db.validateReassignmentRequest, hsource]
    have hall : after.requests.rows.all (commitsRequest db after) = false := by
      rw [List.all_eq_false, hrequests]
      exact ⟨r', hmem, by simp [hfails]⟩
    simp [commitChecks, hall]

/-- **The deletion of a busy cashier is always rejected.** -/
theorem not_commitChecks_of_busy {operation : Operation}
    (hbusy : operation.DeletesBusyCashier db)
    (h : operation.run db reads draws = .ok (db', reassignments)) :
    commitChecks clock db db' = false := by
  cases operation with
  | deleteUser userId =>
    obtain ⟨⟨user, hfind, hcashier⟩, a, ha, hattends, hactive⟩ := hbusy
    obtain ⟨other, hother, h⟩ := bind_eq_ok.mp h
    obtain ⟨_, -, h⟩ := bind_eq_ok.mp h
    obtain ⟨_, -, h⟩ := bind_eq_ok.mp h
    obtain ⟨_, -, h⟩ := bind_eq_ok.mp h
    obtain ⟨⟨last, done⟩, hdone, h⟩ := bind_eq_ok.mp h
    cases h
    obtain rfl : other = user := by simpa using (orThrow_eq_ok.mp hother).symm.trans hfind
    have hid : other.id = userId := (Table.find?_eq_some.mp hfind).2
    unfold endRelationships at hdone
    rw [hcashier] at hdone
    obtain ⟨⟨mid, done'⟩, hmid, hdone⟩ := bind_eq_ok.mp hdone
    obtain ⟨cashierProfiles, -, hdone⟩ := bind_eq_ok.mp hdone
    cases hdone
    refine not_commitChecks_of_reassign (running_activeAssignments _) ?_ hmid rfl rfl
    have hmem : a ∈ db.activeAssignments fun assignment => assignment.cashierUserId = other.id :=
      mem_activeAssignments.mpr ⟨ha, by simp [hattends, hid], hactive⟩
    exact List.ne_nil_of_mem hmem
  | _ => exact absurd hbusy id

/-! ## Reachable states -/

/-- Every reachable state counts nobody twice. -/
theorem held_le_one {trace : List Action} {w : World} (h : attendance.Run trace w) (c : Uuid) :
    w.db.held c ≤ 1 :=
  (attendedInv (g := False) (h.guarded fun _ _ _ hnever => hnever.elim)).once c

/-- **Every reachable state is consistent.** -/
theorem consistent_of_run {trace : List Action} {w : World} (h : attendance.Run trace w) :
    Consistent w.db := by
  refine h.invariant (I := fun _ w => Consistent w.db) (fun w hw => ?_) ?_
  · rw [show w.db = _ from hw]
    exact consistent_of_empty rfl rfl rfl
  · rintro trace w action w' hrun hbefore hstep
    cases hstep with
    | @commit operation reads draws db' reassignments hreads hle hop hcheck =>
      by_cases hregisters : operation.Registers
      · cases operation with
        | registerClient => exact (consistent_registerClient hbefore hop).1
        | _ => exact absurd hregisters id
      · have hnot : ¬ operation.DeletesBusyCashier w.db := by
          intro hbusy
          rw [not_commitChecks_of_busy hbusy hop] at hcheck
          cases hcheck
        exact (Operation.transaction hregisters (held_le_one hrun) hle hop).consistent hnot
          hbefore
    | reject => exact hbefore
    | tick => exact hbefore

end Attendance

end SinoChat
