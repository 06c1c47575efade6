import SinoChat.Attendance.Admitted

/-!
# Reassignments are safe

In every run a client is attended at most once and waits at most once, a
conversation is active with its assignment, and whoever gets a client was
eligible with the fewest clients. Eligible are available accounts only: a
suspended cashier, or one whose password is being reset, keeps its approval
and its subscription and is passed over.
-/

namespace SinoChat

open Js

namespace Attendance

/-- Approved, verified and subscribed, not the cashier being replaced, and
without a block with the client by either of them. -/
structure Db.Qualified (db : Db) (clientUserId replaced : Uuid) (now : ℕ)
    (profile : CashierProfile) : Prop where
  approved : profile.approvalStatus = .approved
  verified : profile.emailVerifiedAt.isSome ∧ profile.phoneVerifiedAt.isSome
  subscribed : db.subscribed profile.userId now = true
  other : profile.userId ≠ replaced
  unblocked : ∀ block ∈ db.blocks,
    ¬ (block.clientUserId = clientUserId ∧ block.cashierUserId = profile.userId)

/-- The candidates are the qualified cashiers with an available account. -/
theorem Db.eligible_iff {db : Db} {clientUserId replaced : Uuid} {now : ℕ}
    {profile : CashierProfile} :
    db.eligible clientUserId replaced now profile = true ↔
      db.Qualified clientUserId replaced now profile ∧ db.availableUser profile.userId = true := by
  have hblocked : db.blocked clientUserId profile.userId = false ↔ ∀ block ∈ db.blocks,
      ¬ (block.clientUserId = clientUserId ∧ block.cashierUserId = profile.userId) := by
    simp [Db.blocked, Table.mem_def]
  unfold Db.eligible
  simp only [Bool.and_eq_true, decide_eq_true_eq, Bool.not_eq_true', hblocked]
  constructor
  · rintro ⟨⟨⟨⟨⟨⟨hother, happroved⟩, hemail⟩, hphone⟩, havailable⟩, hsubscribed⟩, hunblocked⟩
    exact ⟨⟨happroved, ⟨hemail, hphone⟩, hsubscribed, hother, hunblocked⟩, havailable⟩
  · rintro ⟨⟨happroved, ⟨hemail, hphone⟩, hsubscribed, hother, hunblocked⟩, havailable⟩
    exact ⟨⟨⟨⟨⟨⟨hother, happroved⟩, hemail⟩, hphone⟩, havailable⟩, hsubscribed⟩, hunblocked⟩

/-! ## Conversations -/

theorem Consistent.active_iff {db : Db} (h : Consistent db) {c : Conversation}
    (hc : c ∈ db.conversations) : ∃ a, db.assignments.find? c.assignmentId = some a ∧
      (c.status = .active ↔ a.endedAt = none) := by
  have hstatus := h.conversations c.assignmentId
  rw [Table.find?_eq_some.mpr ⟨hc, rfl⟩] at hstatus
  obtain ⟨a, ha, hsame⟩ := Option.map_eq_some_iff.mp hstatus.symm
  refine ⟨a, ha, ?_⟩
  rw [← hsame, conversationStatus]
  split
  · rename_i hactive
    simp [hactive]
  · rename_i hended
    simp [hended]

/-! ## Where assignments come from -/

/-- A reassignment follows one of another cashier. -/
theorem Consistent.replaced {db : Db} (h : Consistent db) {a : Assignment}
    (ha : a ∈ db.assignments) (hreason : a.startReason ≠ .invitation) :
    ∃ previous, a.previousAssignmentId.bind db.assignments.find? = some previous ∧
      previous.clientUserId = a.clientUserId ∧ previous.cashierUserId ≠ a.cashierUserId := by
  have hfind := Table.find?_eq_some.mpr ⟨ha, rfl⟩
  obtain ⟨-, hcompletes⟩ := h.previous a.id a hfind hreason
  obtain ⟨r, hr, hcond⟩ := List.any_eq_true.mp hcompletes
  simp only [Bool.and_eq_true, decide_eq_true_eq] at hcond
  obtain ⟨⟨⟨hprevious, hresult⟩, hclient⟩, hcompleted⟩ := hcond
  obtain ⟨hsource, -, -, -, hvalid⟩ := h.requests r.id r (Table.find?_eq_some.mpr ⟨hr, rfl⟩)
  obtain ⟨previous, hfound, hsource⟩ := (Option.any_eq_true _ _).mp hsource
  simp only [Bool.and_eq_true, decide_eq_true_eq] at hsource
  refine ⟨previous, by rw [← hprevious]; exact hfound,
    hsource.1.1.1.1.trans hclient, fun hsame => ?_⟩
  unfold Db.validResult at hvalid
  rw [hresult, Option.bind_some, hfind] at hvalid
  simp [hcompleted, ← hsource.1.1.1.2, hsame] at hvalid

/-- Every assignment that does not come from an invitation was opened by a
reported reassignment. -/
theorem opened_of_run {trace : List Action} {w : World} (h : attendance.Run trace w) :
    ∀ a ∈ w.db.assignments, a.startReason ≠ .invitation →
      ∃ operation reassignments, .committed operation reassignments ∈ trace ∧
        ∃ reassignment ∈ reassignments, reassignment.Opens a := by
  refine h.invariant (I := fun trace w => ∀ a ∈ w.db.assignments, a.startReason ≠ .invitation →
      ∃ operation reassignments, .committed operation reassignments ∈ trace ∧
        ∃ reassignment ∈ reassignments, reassignment.Opens a) (fun w hw a ha => ?_) ?_
  · rw [show w.db = _ from hw] at ha
    cases ha
  · rintro trace w action w' hrun hI hstep a ha hreason
    have hold : a ∈ w.db.assignments → ∃ operation reassignments,
        .committed operation reassignments ∈ action :: trace ∧
          ∃ reassignment ∈ reassignments, reassignment.Opens a := by
      intro hmem
      obtain ⟨operation, reassignments, hcommitted, hopened⟩ := hI a hmem hreason
      exact ⟨operation, reassignments, List.mem_cons_of_mem _ hcommitted, hopened⟩
    cases hstep with
    | reject => exact hold ha
    | tick => exact hold ha
    | @commit operation reads draws db' reassignments hreads hle hop hcheck =>
      have hfind : db'.assignments.find? a.id = some a := Table.find?_eq_some.mpr ⟨ha, rfl⟩
      by_cases hregisters : operation.Registers
      · cases operation with
        | registerClient =>
          obtain ⟨-, hnew⟩ := consistent_registerClient (consistent_of_run hrun) hop
          rcases hnew a.id a hfind with hsame | hinvitation
          · exact hold (Table.find?_eq_some.mp hsame).1
          · exact absurd hinvitation hreason
        | _ => exact absurd hregisters id
      · have hmoved := (Operation.transaction hregisters (held_le_one hrun) hle hop).moved
        cases hbefore : w.db.assignments.find? a.id with
        | none => exact ⟨operation, reassignments, List.mem_cons_self, hmoved.opened _ a hfind hbefore⟩
        | some old =>
          obtain ⟨a', hfind', ⟨-, hended⟩ | ⟨-, rfl⟩⟩ := hmoved.kept a.id old hbefore
          · obtain rfl : a' = a := by simpa using hfind'.symm.trans hfind
            obtain ⟨hactive, endReason, now, rfl⟩ := hended
            obtain ⟨op, others, hcommitted, reassignment, hmem, hopens⟩ :=
              hI old (Table.find?_eq_some.mp hbefore).1 hreason
            exact ⟨op, others, List.mem_cons_of_mem _ hcommitted, reassignment, hmem,
              hopens.ended ⟨hactive, endReason, now, rfl⟩⟩
          · obtain rfl : a' = a := by simpa using hfind'.symm.trans hfind
            exact hold (Table.find?_eq_some.mp hbefore).1

/-- Whom a reported reassignment gave a client to. -/
theorem chosen_of_run {trace : List Action} {w : World} (h : attendance.Run trace w)
    {operation : Operation} {reassignments : List Reassignment}
    (hcommitted : .committed operation reassignments ∈ trace) :
    ∀ reassignment ∈ reassignments, reassignment.Chosen := by
  obtain ⟨later, earlier, before, after, -, hrun, hstep, -⟩ := h.of_mem hcommitted
  cases hstep with
  | commit hreads hle hop hcheck =>
    by_cases hregisters : operation.Registers
    · cases operation with
      | registerClient =>
        obtain ⟨invitation, -, hop⟩ := bind_eq_ok.mp hop
        obtain ⟨users, -, hop⟩ := bind_eq_ok.mp hop
        obtain ⟨assignments, -, hop⟩ := bind_eq_ok.mp hop
        obtain ⟨conversations, -, hop⟩ := bind_eq_ok.mp hop
        cases hop
        simp
      | _ => exact absurd hregisters id
    · exact (Operation.transaction hregisters (held_le_one hrun) hle hop).moved.chosen

/-! ## The law -/

/-- **What holds of reassignments** after a run. -/
structure ReassignmentSafety (trace : List Action) (w : World) : Prop where
  /-- A client has at most one active assignment and at most one pending request. -/
  once : ∀ clientUserId, w.db.active clientUserId ≤ 1 ∧ w.db.pending clientUserId ≤ 1
  /-- A conversation is active exactly when its assignment has not ended. -/
  conversations : ∀ conversation ∈ w.db.conversations, ∃ a,
    w.db.assignments.find? conversation.assignmentId = some a ∧
      (conversation.status = .active ↔ a.endedAt = none)
  /-- A client is given to a qualified cashier with an available account, and no
  other of these has fewer clients. -/
  choice : ∀ operation reassignments, .committed operation reassignments ∈ trace →
    ∀ reassignment ∈ reassignments, ∀ requestId clientUserId replaced cashierUserId assignmentId,
      reassignment.outcome =
        .reassigned requestId clientUserId replaced cashierUserId assignmentId →
      ∃ profile ∈ reassignment.tables.cashierProfiles, profile.userId = cashierUserId ∧
        reassignment.tables.Qualified clientUserId replaced reassignment.now profile ∧
        reassignment.tables.availableUser cashierUserId = true ∧
        ∀ other ∈ reassignment.tables.cashierProfiles,
          reassignment.tables.Qualified clientUserId replaced reassignment.now other →
          reassignment.tables.availableUser other.userId = true →
          reassignment.tables.load cashierUserId ≤ reassignment.tables.load other.userId
  /-- Every assignment but those from invitations comes from such a
  reassignment, after one of another cashier. -/
  origins : ∀ a ∈ w.db.assignments, a.startReason ≠ .invitation →
    (∃ previous, a.previousAssignmentId.bind w.db.assignments.find? = some previous ∧
      previous.clientUserId = a.clientUserId ∧ previous.cashierUserId ≠ a.cashierUserId) ∧
    ∃ operation reassignments, .committed operation reassignments ∈ trace ∧
      ∃ reassignment ∈ reassignments, reassignment.Opens a

/-- **Reassignment safety**, in every run. -/
theorem reassignment_safety {trace : List Action} {w : World} (h : attendance.Run trace w) :
    ReassignmentSafety trace w := by
  have hconsistent := consistent_of_run h
  refine ⟨fun c => ?_, fun conversation hc => hconsistent.active_iff hc, ?_, fun a ha hreason =>
    ⟨hconsistent.replaced ha hreason, opened_of_run h a ha hreason⟩⟩
  · have hone := held_le_one h c
    unfold Db.held at hone
    omega
  · intro operation reassignments hcommitted reassignment hmem requestId clientUserId replaced
      cashierUserId assignmentId houtcome
    obtain ⟨profile, hprofile, rfl, heligible, hleast⟩ :=
      chosen_of_run h hcommitted reassignment hmem _ _ _ _ _ houtcome
    obtain ⟨hqualified, havailable⟩ := Db.eligible_iff.mp heligible
    exact ⟨profile, hprofile, rfl, hqualified, havailable, fun other hother hq ha =>
      hleast other hother (Db.eligible_iff.mpr ⟨hq, ha⟩)⟩

/-- A client blocked by its cashier goes to the other one. -/
theorem reassignment_safety_blocked : ∃ trace w, attendance.Run trace w ∧
    (∃ a ∈ w.db.assignments, a.startReason ≠ .invitation) ∧ ReassignmentSafety trace w := by
  obtain ⟨trace, w, hrun, hcheck⟩ := Machine.exists_run_of_perform (M := attendance)
    Command.exec_step Scene.start_initial (Scene.opens 1 0 ++ Scene.opens 2 0 ++ Scene.invites 1 0 ++
      [.call (.blockClient (Scene.cashier 1) (Scene.client 1) (Scene.cashier 9)) 0 (Scene.draws 3)])
    (fun _ w => w.db.assignments.rows.any fun a => a.startReason ≠ .invitation)
    (by decide +kernel)
  obtain ⟨a, ha, hreason⟩ := List.any_eq_true.mp hcheck
  exact ⟨trace, w, hrun, ⟨a, ha, by simpa using hreason⟩, reassignment_safety hrun⟩

instance {db : Db} {clientUserId replaced : Uuid} {now : ℕ} {profile : CashierProfile} :
    Decidable (db.Qualified clientUserId replaced now profile) :=
  decidable_of_iff (profile.approvalStatus = .approved ∧
      (profile.emailVerifiedAt.isSome ∧ profile.phoneVerifiedAt.isSome) ∧
      db.subscribed profile.userId now = true ∧ profile.userId ≠ replaced ∧
      ∀ block ∈ db.blocks.rows,
        ¬ (block.clientUserId = clientUserId ∧ block.cashierUserId = profile.userId))
    ⟨fun h => ⟨h.1, h.2.1, h.2.2.1, h.2.2.2.1, h.2.2.2.2⟩, fun h => ⟨h.1, h.2, h.3, h.4, h.5⟩⟩

/-- An operation with one reassignment, which passes over a qualified cashier with fewer clients. -/
def passesOver (trace : List Action) : Bool :=
  match trace with
  | .committed _ [reassignment] :: _ =>
    match reassignment.outcome with
    | .reassigned _ clientUserId replaced cashierUserId _ =>
      reassignment.tables.cashierProfiles.rows.any fun other =>
        decide (reassignment.tables.Qualified clientUserId replaced reassignment.now other) &&
          decide (reassignment.tables.load other.userId < reassignment.tables.load cashierUserId)
    | .pendingReassignment _ _ _ => false
  | _ => false

/-- **A suspended cashier is passed over**, however few clients it has. -/
theorem suspended_passed_over : ∃ trace w operation reassignments, attendance.Run trace w ∧
    .committed operation reassignments ∈ trace ∧ ∃ reassignment ∈ reassignments,
      ∃ requestId clientUserId replaced cashierUserId assignmentId, reassignment.outcome =
          .reassigned requestId clientUserId replaced cashierUserId assignmentId ∧
        ∃ other ∈ reassignment.tables.cashierProfiles,
          reassignment.tables.Qualified clientUserId replaced reassignment.now other ∧
          reassignment.tables.load other.userId < reassignment.tables.load cashierUserId := by
  obtain ⟨trace, w, hrun, hcheck⟩ := Machine.exists_run_of_perform (M := attendance)
    Command.exec_step Scene.start_initial (Scene.opens 1 0 ++ Scene.opens 2 0 ++ Scene.opens 3 0 ++
      Scene.invites 1 0 ++ Scene.invites 2 0 ++
      [.call (.suspend (Scene.cashier 3)) 0 (Scene.draws 3),
        .call (.blockClient (Scene.cashier 1) (Scene.client 1) (Scene.cashier 9)) 0 (Scene.draws 4)])
    (fun trace _ => passesOver trace) (by decide +kernel)
  unfold passesOver at hcheck
  split at hcheck
  · rename_i operation reassignment earlier
    split at hcheck
    · rename_i requestId clientUserId replaced cashierUserId assignmentId houtcome
      obtain ⟨other, hother, hfewer⟩ := List.any_eq_true.mp hcheck
      simp only [Bool.and_eq_true, decide_eq_true_eq] at hfewer
      exact ⟨_, w, operation, _, hrun, List.mem_cons_self, reassignment, List.mem_singleton_self _,
        requestId, clientUserId, replaced, cashierUserId, assignmentId, houtcome, other, hother,
        hfewer⟩
    · cases hcheck
  · cases hcheck

end Attendance

end SinoChat
