import SinoChat.Attendance.Moved

/-!
# What each operation does to relationships

For each operation, which assignments it ends (`Operation.ends`) and that the
rows it writes stand by each other at the commit (`Transaction`). One
condition comes with it: the deletion of a cashier that still attends someone
is out, since it opens requests for an unavailable cashier and ends the
assignments as of a deleted account (`DeletesBusyCashier`). A cashier the
operation chose passes the check of its new assignment if and only if it is
still subscribed at the commit (`KeepsSubscribed`).
-/

namespace SinoChat

open Js

namespace Attendance

/-! ## The conditions -/

/-- **The assignments an operation ends**, by what its queries find. -/
def Operation.ends (db : Db) (reads : ℕ → ℕ) : Operation → Assignment → Prop
  | .blockClient cashierUserId clientUserId _, a =>
    a.clientUserId = clientUserId ∧ a.cashierUserId = cashierUserId ∧ a.endedAt = none
  | .reportCashier _ assignmentId _ _, a => a.id = assignmentId
  | .reassignAdministrative clientUserId, a => a.clientUserId = clientUserId ∧ a.endedAt = none
  | .reassignAssignmentAdministrative assignmentId, a => a.id = assignmentId
  | .reconcileNextExpiredSubscription subscriptionId unlocked assignmentBatchSize, a =>
    ∃ subscription, (db.subscriptions.find? subscriptionId).filter (fun subscription =>
        subscription.status = .active &&
          subscription.endsAt.any fun endsAt => endsAt ≤ reads 0) = some subscription ∧
      a ∈ ((db.activeAssignments fun assignment =>
        assignment.cashierUserId = subscription.cashierUserId).filter fun assignment =>
          unlocked assignment.id).take assignmentBatchSize
  | .deleteUser userId, a =>
    a.endedAt = none ∧ ∃ user, db.users.find? userId = some user ∧
      (user.role = .client ∧ a.clientUserId = userId ∨
        user.role = .cashier ∧ a.cashierUserId = userId)
  | .suspend userId, a =>
    a.endedAt = none ∧ a.cashierUserId = userId ∧
      ∃ user, db.users.find? userId = some user ∧ user.role = .cashier
  | .deactivateSubscription cashierUserId, a => a.cashierUserId = cashierUserId ∧ a.endedAt = none
  | _, _ => False

/-- **The deletion of a cashier that attends a client.** -/
def Operation.DeletesBusyCashier (db : Db) : Operation → Prop
  | .deleteUser userId => (∃ user, db.users.find? userId = some user ∧ user.role = .cashier) ∧
      ∃ a ∈ db.assignments, a.cashierUserId = userId ∧ a.endedAt = none
  | _ => False

/-- **Who is subscribed at the commit**, by the tables before the operation and
the subscription it may activate. -/
def Operation.KeepsSubscribed (db : Db) (clock : ℕ) (cashierUserId : Uuid) : Operation → Prop
  | .activateSubscription activatedUserId _ endsAt => db.subscribed cashierUserId clock = true ∨
      cashierUserId = activatedUserId ∧ ∀ e, endsAt = some e → clock < e
  | _ => db.subscribed cashierUserId clock = true

/-- **A transaction at its commit.** With `good` the rows it wrote stand by
each other, and of the cashiers it found available `lasts` are still so. -/
structure Transaction (good : Prop) (lasts : Uuid → Prop) (clock : ℕ) (ends : Assignment → Prop)
    (reassignments : List Reassignment) (before after : Db) : Prop where
  moved : Moved ends reassignments before after
  consistent : good → Consistent before → Consistent after
  seated : good → ∀ reassignment ∈ reassignments, reassignment.now ≤ clock ∧
    ∀ cashierUserId, reassignment.tables.validAssignee cashierUserId reassignment.now = true →
      (after.validAssignee cashierUserId clock = true ↔ lasts cashierUserId)
  invitations : good → (∃ id a, before.assignments.find? id = some a ∧ ends a) →
    after.invitations = before.invitations
  blocks : ∀ b ∈ after.blocks, (before.blocks.find? b.id).isSome ∨
    after.validateBlock b = true ∧ after.validateBlockLifecycle b = true
  reports : ∀ r ∈ after.reports, (before.reports.find? r.id).isSome ∨
    after.validateReportSource r = true

variable {db db' before mid last after : Db} {request : ReassignmentRequest} {now clock : ℕ}
  {draw : Draw} {draws : ℕ → Draw} {reads : ℕ → ℕ} {reassignment : Reassignment}
  {reassignments : List Reassignment} {ends ends' : Assignment → Prop} {good : Prop}
  {lasts : Uuid → Prop}

/-- The relationships of two states are the same, whatever the accounts. -/
structure Same (before after : Db) : Prop where
  assignments : after.assignments = before.assignments
  conversations : after.conversations = before.conversations
  invitations : after.invitations = before.invitations
  blocks : after.blocks = before.blocks
  reports : after.reports = before.reports
  requests : after.requests = before.requests

theorem Same.refl (db : Db) : Same db db := ⟨rfl, rfl, rfl, rfl, rfl, rfl⟩

theorem Same.consistent (h : Same before after) (hbefore : Consistent before) : Consistent after :=
  hbefore.congr h.assignments h.conversations h.blocks h.requests

theorem isSome_of_mem {α : Type} {key : α → Uuid} {t : Table Uuid α key} {a : α} (h : a ∈ t) :
    (t.find? (key a)).isSome :=
  Option.isSome_iff_exists.mpr ⟨a, Table.find?_eq_some.mpr ⟨h, rfl⟩⟩

/-- An operation that leaves the relationships alone. -/
theorem Transaction.of_same (hassignments : after.assignments = before.assignments)
    (hconversations : after.conversations = before.conversations)
    (hblocks : after.blocks = before.blocks) (hreports : after.reports = before.reports)
    (hrequests : after.requests = before.requests)
    (hends : ∀ id a, before.assignments.find? id = some a → ¬ ends a) :
    Transaction good lasts clock ends [] before after where
  moved := .same hends hassignments hconversations fun _ _ h => hblocks ▸ h
  consistent _ h := h.congr hassignments hconversations hblocks hrequests
  seated _ := by simp
  invitations _ h := by
    obtain ⟨id, a, hfind, ha⟩ := h
    exact absurd ha (hends id a hfind)
  blocks b hb := .inl (isSome_of_mem (hblocks ▸ hb))
  reports r hr := .inl (isSome_of_mem (hreports ▸ hr))

theorem Transaction.of_iff (h : Transaction good lasts clock ends reassignments before after)
    (hends : ∀ id a, before.assignments.find? id = some a → (ends a ↔ ends' a)) :
    Transaction good lasts clock ends' reassignments before after := by
  refine { h with moved := h.moved.of_iff hends, invitations := fun hgood hsome => ?_ }
  obtain ⟨id, a, hfind, ha⟩ := hsome
  exact h.invitations hgood ⟨id, a, hfind, (hends id a hfind).mpr ha⟩

/-! ## Available cashiers -/

/-- Availability depends on three tables. -/
theorem validAssignee_congr {cashierUserId : Uuid} (husers : after.users = before.users)
    (hprofiles : after.cashierProfiles = before.cashierProfiles)
    (hsubscriptions : after.subscriptions = before.subscriptions) :
    after.validAssignee cashierUserId clock = before.validAssignee cashierUserId clock := by
  simp only [Db.validAssignee, Db.availableUser, Db.subscribed, husers, hprofiles, hsubscriptions]

/-- An eligible cashier may be assigned. -/
theorem Db.validAssignee_of_eligible {clientUserId excludedCashierUserId : Uuid}
    {profile : CashierProfile} (hprofile : profile ∈ db.cashierProfiles)
    (h : db.eligible clientUserId excludedCashierUserId now profile = true) :
    db.validAssignee profile.userId now = true := by
  simp only [Db.eligible, Bool.and_eq_true, decide_eq_true_eq] at h
  obtain ⟨⟨⟨⟨⟨⟨-, happroved⟩, -⟩, -⟩, havailable⟩, hsubscribed⟩, -⟩ := h
  have hfind : db.cashierProfiles.find? profile.userId = some profile :=
    Table.find?_eq_some.mpr ⟨hprofile, rfl⟩
  simp [Db.validAssignee, havailable, hsubscribed, hfind, happroved]

/-- **Of the available, the subscribed stay available**, where accounts and
profiles stay. -/
theorem validAssignee_iff_subscribed {cashierUserId : Uuid} (husers : after.users = mid.users)
    (hprofiles : after.cashierProfiles = mid.cashierProfiles)
    (h : mid.validAssignee cashierUserId now = true) :
    after.validAssignee cashierUserId clock = true ↔
      after.subscribed cashierUserId clock = true := by
  simp only [Db.validAssignee, Bool.and_eq_true] at h ⊢
  obtain ⟨⟨havailable, happroved⟩, -⟩ := h
  refine ⟨And.right, fun hsubscribed => ⟨⟨?_, ?_⟩, hsubscribed⟩⟩
  · rw [← havailable, Db.availableUser, Db.availableUser, husers]
  · rw [← happroved, hprofiles]

theorem subscribed_congr {cashierUserId : Uuid}
    (hsubscriptions : after.subscriptions = before.subscriptions) :
    after.subscribed cashierUserId clock = before.subscribed cashierUserId clock := by
  rw [Db.subscribed, Db.subscribed, hsubscriptions]

/-- Whom a chain of reassignments found available is available after it, if
still subscribed. -/
theorem Reassigned.seated (h : Reassigned ends now reassignments mid last) (hnow : now ≤ clock)
    (husers : after.users = last.users) (hprofiles : after.cashierProfiles = last.cashierProfiles)
    (hlasts : ∀ cashierUserId, mid.validAssignee cashierUserId now = true →
      (after.subscribed cashierUserId clock = true ↔ lasts cashierUserId)) :
    ∀ reassignment ∈ reassignments, reassignment.now ≤ clock ∧
      ∀ cashierUserId, reassignment.tables.validAssignee cashierUserId reassignment.now = true →
        (after.validAssignee cashierUserId clock = true ↔ lasts cashierUserId) := by
  intro reassignment hmem
  obtain ⟨hframe, hreading⟩ := h.tables reassignment hmem
  rw [hreading]
  refine ⟨hnow, fun cashierUserId hvalid => ?_⟩
  rw [validAssignee_congr hframe.users hframe.cashierProfiles hframe.subscriptions] at hvalid
  rw [← hlasts cashierUserId hvalid]
  exact validAssignee_iff_subscribed (husers.trans h.frame.users)
    (hprofiles.trans h.frame.cashierProfiles) hvalid

/-- **A chain of reassignments as a transaction**, with changes of accounts,
profiles and subscriptions before it and of subscriptions after it. -/
theorem Transaction.of_reassigned (hmid : Same before mid)
    (h : Reassigned ends now reassignments mid last) (hconsistent : Consistent mid → Consistent last)
    (hlast : Same last after) (husers : after.users = last.users)
    (hprofiles : after.cashierProfiles = last.cashierProfiles) (hnow : now ≤ clock)
    (hlasts : ∀ cashierUserId, mid.validAssignee cashierUserId now = true →
      (after.subscribed cashierUserId clock = true ↔ lasts cashierUserId)) :
    Transaction good lasts clock ends reassignments before after := by
  have hblocks : after.blocks = before.blocks := by
    rw [hlast.blocks, h.frame.blocks, hmid.blocks]
  have hreports : after.reports = before.reports := by
    rw [hlast.reports, h.frame.reports, hmid.reports]
  refine ⟨⟨fun id a hfind => ?_, fun id a hfind hnone => ?_, fun reassignment hmem _ _ hassigns =>
    ?_, fun id c hfind => ?_, fun _ _ hb => hblocks ▸ hb, h.moved.chosen⟩, fun _ hbefore =>
    hlast.consistent (hconsistent (hmid.consistent hbefore)), fun _ => h.seated hnow husers
    hprofiles hlasts, fun _ _ => ?_, fun b hb => .inl (isSome_of_mem (hblocks ▸ hb)),
    fun r hr => .inl (isSome_of_mem (hreports ▸ hr))⟩
  · rw [hlast.assignments]
    exact h.moved.kept id a (by rw [hmid.assignments]; exact hfind)
  · rw [hlast.assignments] at hfind
    exact h.moved.opened id a hfind (by rw [hmid.assignments]; exact hnone)
  · rw [hlast.assignments, ← hmid.assignments]
    exact h.moved.reported reassignment hmem _ _ hassigns
  · rw [hlast.conversations]
    exact h.moved.conversations id c (by rw [hmid.conversations]; exact hfind)
  · rw [hlast.invitations, h.frame.invitations, hmid.invitations]

/-- The common case: nothing changes after the chain. -/
theorem Transaction.of_chain (hmid : Same before mid)
    (h : Reassigned ends now reassignments mid after) (hconsistent : Consistent mid →
      Consistent after) (hnow : now ≤ clock)
    (hlasts : ∀ cashierUserId, mid.validAssignee cashierUserId now = true →
      (mid.subscribed cashierUserId clock = true ↔ lasts cashierUserId)) :
    Transaction good lasts clock ends reassignments before after := by
  refine .of_reassigned hmid h hconsistent (.refl _) rfl rfl hnow fun cashierUserId hvalid => ?_
  rw [subscribed_congr h.frame.subscriptions]
  exact hlasts cashierUserId hvalid

end Attendance

end SinoChat
