import SinoChat.Attendance.Held

/-!
# Every active client is attended

What each operation does to the accounts and to the sum of active assignments
and pending requests (`Effect`): it leaves the sum and makes nobody a client
to attend, it registers a client with one assignment, or it takes a client
out. Reactivating a client that was suspended for five blocks is the
exception: nothing was opened when its last assignment ended.
-/

namespace SinoChat

open Js

namespace Attendance

/-- A client somebody has to attend now, or when it is reactivated. -/
def Attended (user : User) : Prop :=
  user.role = .client ∧ user.status ≠ .deleted ∧
    ¬ (user.status = .suspended ∧ user.suspensionReasonCode = some .fiveDistinctCashierBlocks)

/-- **What an operation does** to accounts and sums, where `g` says that it
does not reactivate a client suspended for five blocks. -/
inductive Effect (g : Prop) (before after : Db) : Prop
  | kept : after.held = before.held →
      (∀ c, after.users.find? c = none → before.users.find? c = none) →
      (g → ∀ c user', after.users.find? c = some user' → Attended user' →
        ∃ user, before.users.find? c = some user ∧ Attended user) → Effect g before after
  | registered (c : Uuid) : before.users.find? c = none →
      (∀ c', after.held c' = before.held c' + if c' = c then 1 else 0) →
      (∀ c', c' ≠ c → after.users.find? c' = before.users.find? c') →
      (after.users.find? c).isSome → Effect g before after
  | released (c : Uuid) : (∀ c', c' ≠ c → after.held c' = before.held c') →
      after.held c ≤ before.held c →
      (∀ c', c' ≠ c → after.users.find? c' = before.users.find? c') →
      (∃ user, after.users.find? c = some user ∧ ¬ Attended user) → Effect g before after

variable {g : Prop} {db db' before after : Db} {now : ℕ} {reads : ℕ → ℕ} {draw : Draw}
  {draws : ℕ → Draw} {reassignment : Reassignment} {reassignments : List Reassignment}

/-- Accounts and sums as they were. -/
theorem Effect.same (hheld : after.held = before.held) (husers : after.users = before.users) :
    Effect g before after :=
  .kept hheld (fun _ h => husers ▸ h) fun _ _ user' h ha => ⟨user', husers ▸ h, ha⟩

/-- One account updated, and nobody to attend that was not. -/
theorem Effect.account (userId : Uuid) {f : User → User} (hf : ∀ u, (f u).id = u.id)
    (hheld : after.held = before.held) (husers : after.users = before.users.update userId f hf)
    (hattended : g → ∀ user, before.users.find? userId = some user → Attended (f user) →
      Attended user) : Effect g before after := by
  refine .kept hheld (fun c h => ?_) fun hg c user' h ha => ?_
  · rw [husers, Table.find?_update] at h
    split at h
    · rename_i hc
      subst hc
      exact Option.map_eq_none_iff.mp h
    · exact h
  · rw [husers, Table.find?_update] at h
    split at h
    · rename_i hc
      subst hc
      obtain ⟨user, hfind, rfl⟩ := Option.map_eq_some_iff.mp h
      exact ⟨user, hfind, hattended hg user hfind ha⟩
    · exact ⟨user', h, ha⟩

/-! ## Reassignments leave the other tables -/

/-- The tables a reassignment does not touch. -/
structure Frame (before after : Db) : Prop where
  users : after.users = before.users
  cashierProfiles : after.cashierProfiles = before.cashierProfiles
  subscriptions : after.subscriptions = before.subscriptions
  invitations : after.invitations = before.invitations
  blocks : after.blocks = before.blocks
  reports : after.reports = before.reports

theorem Frame.refl (db : Db) : Frame db db := ⟨rfl, rfl, rfl, rfl, rfl, rfl⟩

theorem Frame.trans {a b c : Db} (h : Frame a b) (h' : Frame b c) : Frame a c :=
  ⟨h'.users.trans h.users, h'.cashierProfiles.trans h.cashierProfiles,
    h'.subscriptions.trans h.subscriptions, h'.invitations.trans h.invitations,
    h'.blocks.trans h.blocks, h'.reports.trans h.reports⟩

/-- Completing a request leaves the accounts alone. -/
theorem frame_completePending {request : ReassignmentRequest}
    (h : completePending db request now draw = .ok (db', reassignment)) : Frame db db' := by
  obtain ⟨-, -, -, hcases⟩ := completePending_eq_ok h
  rcases hcases with ⟨-, rfl, -⟩ | ⟨-, -, rfl, -⟩ | ⟨candidate, _, _, -, -, rfl, -⟩
  · exact .refl _
  · exact ⟨rfl, rfl, rfl, rfl, rfl, rfl⟩
  · exact ⟨rfl, rfl, rfl, rfl, rfl, rfl⟩

/-- So does its beginning. -/
theorem frame_beginReassignment {input : BeginReassignmentInput}
    (h : beginReassignment db input now draw = .ok (db', reassignment)) : Frame db db' := by
  obtain ⟨hnew, -, h⟩ := beginReassignment_eq_ok h
  have hstart : Frame db (db.requested input now draw hnew) := ⟨rfl, rfl, rfl, rfl, rfl, rfl⟩
  exact hstart.trans (frame_completePending h)

/-- Retries keep the sums and the other tables. -/
theorem keeps_retry {requests : List ReassignmentRequest} (hwaiting : Waiting db requests)
    (h : runEach (fun db request => completePending db request now) db requests draws =
      .ok (db', reassignments)) : db'.held = db.held ∧ Frame db db' := by
  refine (retry_rule (I := fun mid => mid.held = db.held ∧ Frame db mid) ?_ hwaiting
    ⟨rfl, .refl _⟩ h).1
  rintro mid request draw after reassignment ⟨hheld, hframe⟩ hfind hpending h
  exact ⟨(held_completePending hfind hpending h).trans hheld,
    hframe.trans (frame_completePending h)⟩

/-- Mass reassignments keep the sums and the other tables. -/
theorem keeps_reassign {reason : ReassignmentReason} {endReason : AssignmentEndReason}
    {assignments : List Assignment} (hrunning : Running db assignments)
    (h : runEach (fun db assignment =>
        beginReassignment db ⟨assignment, reason, endReason, none⟩ now) db assignments draws =
      .ok (db', reassignments)) : db'.held = db.held ∧ Frame db db' := by
  refine (reassign_rule (I := fun mid => mid.held = db.held ∧ Frame db mid)
    (P := fun _ => True) ?_ hrunning (fun _ _ => trivial) ⟨rfl, .refl _⟩ h).1
  rintro mid assignment draw after reassignment ⟨hheld, hframe⟩ - hfind hactive h
  exact ⟨(held_beginReassignment hfind hactive h).trans hheld,
    hframe.trans (frame_beginReassignment h)⟩

/-- A retry of requests keeps what is held. -/
theorem keeps_retryPending {limit : ℕ}
    (h : retryPending db limit now draws = .ok (db', reassignments)) :
    db'.held = db.held ∧ Frame db db' :=
  keeps_retry ((waiting_pendingRequests _).sublist (List.take_sublist _ _)) h

/-- So does the reassignment of a cashier's clients. -/
theorem keeps_reassignCashierClients {cashierUserId : Uuid} {endReason : AssignmentEndReason}
    (h : reassignCashierClients db cashierUserId endReason now draws = .ok (db', reassignments)) :
    db'.held = db.held ∧ Frame db db' :=
  keeps_reassign (running_activeAssignments _) h

/-- So does a retry for one client. -/
theorem keeps_retryClientPending {clientUserId : Uuid}
    (h : retryClientPending db clientUserId now draw = .ok (db', reassignments)) :
    db'.held = db.held ∧ Frame db db' := by
  unfold retryClientPending at h
  split at h
  · rename_i request hrequest
    obtain ⟨done, hdone, h⟩ := bind_eq_ok.mp h
    cases h
    obtain ⟨hmem, -, hpending⟩ := mem_pendingRequests.mp (List.mem_of_mem_head? hrequest)
    exact ⟨held_completePending (Table.find?_eq_some.mpr ⟨hmem, rfl⟩) hpending hdone,
      frame_completePending hdone⟩
  · cases h
    exact ⟨rfl, .refl _⟩

@[simp] theorem held_setUser {userId : Uuid} {f : User → User} {hf : ∀ u, (f u).id = u.id} :
    (db.setUser userId f hf).held = db.held := rfl

@[simp] theorem held_publishCurrentRelationshipsForUser {userId : Uuid} {changeType : ChangeType} :
    (db.publishCurrentRelationshipsForUser userId changeType).held = db.held := rfl

/-! ## The operations -/

/-- A client registers with a cashier. -/
theorem effect_registerClient {clientUserId invitationId : Uuid}
    (h : registerClient db clientUserId invitationId now draw = .ok (db', reassignments)) :
    Effect g db db' := by
  obtain ⟨invitation, -, h⟩ := bind_eq_ok.mp h
  obtain ⟨users, husers, h⟩ := bind_eq_ok.mp h
  obtain ⟨assignments, hassignments, h⟩ := bind_eq_ok.mp h
  obtain ⟨conversations, hconversations, h⟩ := bind_eq_ok.mp h
  obtain ⟨hnew, rfl⟩ := Table.create_eq_ok.mp husers
  obtain ⟨hassignment, rfl⟩ := Table.create_eq_ok.mp hassignments
  cases h
  refine .registered clientUserId hnew (fun c => ?_) (fun c hc => ?_) ?_
  · simp only [Db.held, Db.active, Db.pending]
    rw [Table.count_insert]
    by_cases hc : clientUserId = c
    · subst hc
      simp
      omega
    · simp [hc, Ne.symm hc]
  · simp [Table.find?_insert, Ne.symm hc]
  · simp [Table.find?_insert]

/-- A cashier registers without clients. -/
theorem effect_registerCashier {cashierUserId : Uuid}
    (h : registerCashier db cashierUserId = .ok (db', reassignments)) : Effect g db db' := by
  obtain ⟨users, husers, h⟩ := bind_eq_ok.mp h
  obtain ⟨cashierProfiles, -, h⟩ := bind_eq_ok.mp h
  obtain ⟨hnew, rfl⟩ := Table.create_eq_ok.mp husers
  cases h
  refine .kept rfl (fun c hc => ?_) fun _ c user' hc ha => ?_
  · rw [Table.find?_insert] at hc
    split at hc
    · cases hc
    · exact hc
  · rw [Table.find?_insert] at hc
    split at hc
    · cases hc
      exact absurd ha.1 (by simp)
    · exact ⟨user', hc, ha⟩

/-- An invitation changes nobody's attendance. -/
theorem effect_rotateInvitation {cashierUserId invitationId : Uuid}
    (h : rotateInvitation db cashierUserId invitationId now = .ok (db', reassignments)) :
    Effect g db db' := by
  obtain ⟨_, -, h⟩ := bind_eq_ok.mp h
  obtain ⟨invitations, -, h⟩ := bind_eq_ok.mp h
  cases h
  exact .same rfl rfl

/-- A block is created if there is no such block yet. -/
theorem createBlock_eq_ok {block : Block} (h : db.createBlock block = .ok db') :
    ∃ hnew : db.blocks.find? block.id = none,
      (∀ other ∈ db.blocks, ¬ (other.clientUserId = block.clientUserId ∧
        other.cashierUserId = block.cashierUserId ∧ other.initiatedBy = block.initiatedBy)) ∧
      db' = { db with blocks := db.blocks.insert block hnew } := by
  obtain ⟨_, hunique, h⟩ := bind_eq_ok.mp h
  obtain ⟨blocks, hblocks, h⟩ := bind_eq_ok.mp h
  obtain ⟨hnew, rfl⟩ := Table.create_eq_ok.mp hblocks
  cases h
  refine ⟨hnew, fun other hmem heq => ?_, rfl⟩
  have hne := List.all_eq_true.mp (require_eq_ok.mp hunique) other hmem
  simp [heq] at hne

/-- The access a block finds is an active assignment between the two. -/
theorem lockCurrentByParticipants_eq_ok {clientUserId cashierUserId : Uuid}
    {access : Assignment × Option ℕ}
    (h : db.lockCurrentByParticipants clientUserId cashierUserId now = .ok access) :
    db.assignments.find? access.1.id = some access.1 ∧ access.1.endedAt = none ∧
      access.1.clientUserId = clientUserId ∧ access.1.cashierUserId = cashierUserId ∧
      db.activeClient clientUserId = true := by
  have hmem : access ∈ db.currentByParticipants clientUserId cashierUserId now := by
    unfold Db.lockCurrentByParticipants at h
    split at h <;> cases h
    rename_i hrows
    simp [hrows]
  obtain ⟨assignment, hrow, hmap⟩ := List.mem_flatMap.mp hmem
  obtain ⟨subscription, -, rfl⟩ := List.mem_map.mp hmap
  obtain ⟨hin, hcond⟩ := List.mem_filter.mp hrow
  simp only [Bool.and_eq_true, decide_eq_true_eq] at hcond
  exact ⟨Table.find?_eq_some.mpr ⟨hin, rfl⟩, hcond.1.1.1.2, hcond.1.1.1.1.1, hcond.1.1.1.1.2,
    hcond.2⟩

/-- **A block** ends as a reassignment, or with the fifth cashier as a
suspension that leaves nobody to attend the client. -/
theorem effect_blockClient {cashierUserId clientUserId blockId : Uuid}
    (h : blockClient db cashierUserId clientUserId blockId reads draw =
      .ok (db', reassignments)) : Effect g db db' := by
  rw [blockClient, orConflict_eq_ok] at h
  obtain ⟨access, haccess, h⟩ := bind_eq_ok.mp h
  obtain ⟨blocked, hblocked, h⟩ := bind_eq_ok.mp h
  obtain ⟨_, -, h⟩ := bind_eq_ok.mp h
  obtain ⟨hfind, hactive, hclient, -, hok⟩ := lockCurrentByParticipants_eq_ok haccess
  obtain ⟨hnew, -, rfl⟩ := createBlock_eq_ok hblocked
  split at h
  · obtain ⟨after, hafter, h⟩ := bind_eq_ok.mp h
    obtain ⟨_, -, h⟩ := bind_eq_ok.mp h
    cases h
    obtain ⟨-, -, rfl⟩ := endAssignment_eq_ok hafter
    have hheld := fun c => @held_withEnded { db with blocks := db.blocks.insert _ hnew } (reads 1)
      access.1 .cashierBlockedClient hfind hactive c
    refine .released clientUserId (fun c hc => ?_) ?_ (fun c hc => ?_) ?_
    · have hc' := hheld c
      rw [hclient, if_neg (Ne.symm hc)] at hc'
      exact hc'
    · have hc' := hheld clientUserId
      simp only [held_setUser]
      exact Nat.le.intro hc'
    · simp [Db.setUser, Db.withEnded, Table.find?_update, hc]
    · obtain ⟨user, huser, -⟩ := (Option.any_eq_true _ _).mp hok
      refine ⟨_, by simp [Db.setUser, Db.withEnded, Table.find?_update, huser]; rfl, ?_⟩
      simp [Attended]
  · obtain ⟨⟨after, done⟩, hdone, h⟩ := bind_eq_ok.mp h
    obtain ⟨_, -, h⟩ := bind_eq_ok.mp h
    cases h
    have hheld := held_beginReassignment (by exact hfind) (by exact hactive) hdone
    exact .same hheld (frame_beginReassignment hdone).users

/-- A report blocks the cashier and reassigns the client. -/
theorem effect_reportCashier {clientUserId assignmentId blockId reportId : Uuid}
    (h : reportCashier db clientUserId assignmentId blockId reportId now draw =
      .ok (db', reassignments)) : Effect g db db' := by
  rw [reportCashier, orConflict_eq_ok] at h
  obtain ⟨assignment, hassignment, h⟩ := bind_eq_ok.mp h
  obtain ⟨blocked, hblocked, h⟩ := bind_eq_ok.mp h
  obtain ⟨reports, -, h⟩ := bind_eq_ok.mp h
  obtain ⟨⟨after, done⟩, hdone, h⟩ := bind_eq_ok.mp h
  cases h
  obtain ⟨hnew, -, rfl⟩ := createBlock_eq_ok hblocked
  obtain ⟨hfind, hcond⟩ := Option.filter_eq_some_iff.mp (orThrow_eq_ok.mp hassignment)
  simp only [Bool.and_eq_true, decide_eq_true_eq] at hcond
  have hid : assignment.id = assignmentId := (Table.find?_eq_some.mp hfind).2
  have hheld := held_beginReassignment (by exact hid ▸ hfind) (by exact hcond.1.1.2) hdone
  exact .same hheld (frame_beginReassignment hdone).users

/-- An administrator reassigns a client. -/
theorem effect_reassignAdministrative {clientUserId : Uuid}
    (h : reassignAdministrative db clientUserId now draw = .ok (db', reassignments)) :
    Effect g db db' := by
  obtain ⟨_, -, h⟩ := bind_eq_ok.mp h
  split at h
  · rename_i request hrequest
    obtain ⟨⟨after, done⟩, hdone, h⟩ := bind_eq_ok.mp h
    cases h
    obtain ⟨hmem, -, hpending⟩ := mem_pendingRequests.mp (List.mem_of_mem_head? hrequest)
    exact .same (held_completePending (Table.find?_eq_some.mpr ⟨hmem, rfl⟩) hpending hdone)
      (frame_completePending hdone).users
  · obtain ⟨assignment, hassignment, h⟩ := bind_eq_ok.mp h
    obtain ⟨⟨after, done⟩, hdone, h⟩ := bind_eq_ok.mp h
    cases h
    obtain ⟨hmem, -, hactive⟩ := mem_activeAssignments.mp
      (List.mem_of_mem_head? (orThrow_eq_ok.mp hassignment))
    have hheld := held_beginReassignment (by exact Table.find?_eq_some.mpr ⟨hmem, rfl⟩)
      (by exact hactive) hdone
    exact .same hheld (frame_beginReassignment hdone).users

/-- An administrator ends an assignment. -/
theorem effect_reassignAssignmentAdministrative {assignmentId : Uuid}
    (h : reassignAssignmentAdministrative db assignmentId now draw = .ok (db', reassignments)) :
    Effect g db db' := by
  obtain ⟨assignment, hassignment, h⟩ := bind_eq_ok.mp h
  obtain ⟨⟨after, done⟩, hdone, h⟩ := bind_eq_ok.mp h
  cases h
  obtain ⟨hfind, hcond⟩ := Option.filter_eq_some_iff.mp (orThrow_eq_ok.mp hassignment)
  simp only [Bool.and_eq_true, decide_eq_true_eq] at hcond
  have hid : assignment.id = assignmentId := (Table.find?_eq_some.mp hfind).2
  have hheld := held_beginReassignment (by exact hid ▸ hfind) (by exact hcond.1) hdone
  exact .same hheld (frame_beginReassignment hdone).users

/-- The reconciler retries requests. -/
theorem effect_reconcilePendingReassignments {unlocked : Uuid → Bool} {size queryNow : ℕ}
    (h : reconcilePendingReassignments db unlocked size queryNow now draws =
      .ok (db', reassignments)) : Effect g db db' := by
  obtain ⟨_, -, h⟩ := bind_eq_ok.mp h
  obtain ⟨hheld, hframe⟩ := keeps_retry ((waiting_pendingRequests _).sublist
    ((List.take_sublist _ _).trans List.filter_sublist)) h
  exact .same hheld hframe.users

/-- The reconciler ends a subscription and reassigns its clients. -/
theorem effect_reconcileNextExpiredSubscription {subscriptionId : Uuid} {unlocked : Uuid → Bool}
    {size queryNow turnCompletedAt : ℕ}
    (h : reconcileNextExpiredSubscription db subscriptionId unlocked size queryNow now
      turnCompletedAt draws = .ok (db', reassignments)) : Effect g db db' := by
  obtain ⟨_, -, h⟩ := bind_eq_ok.mp h
  split at h
  · cases h
    exact .same rfl rfl
  · obtain ⟨⟨after, done⟩, hdone, h⟩ := bind_eq_ok.mp h
    obtain ⟨_, -, h⟩ := bind_eq_ok.mp h
    obtain ⟨hheld, hframe⟩ := keeps_reassign ((running_activeAssignments _).sublist
      ((List.take_sublist _ _).trans List.filter_sublist)) hdone
    split at h
    · obtain ⟨subscriptions, -, h⟩ := bind_eq_ok.mp h
      cases h
      exact .same hheld hframe.users
    · cases h
      exact .same hheld hframe.users

/-- A deleted client is neither attended nor waiting, and no other client changes. -/
theorem held_endClientRelationshipsForDeletion (clientUserId c : Uuid) :
    (endClientRelationshipsForDeletion db clientUserId now).held c =
      if c = clientUserId then 0 else db.held c := by
  have hactive : (endClientRelationshipsForDeletion db clientUserId now).active c =
      if c = clientUserId then 0 else db.active c := by
    unfold Db.active endClientRelationshipsForDeletion
    rw [Table.count_modify]
    split
    · rename_i hc
      subst hc
      refine Table.count_eq_zero.mpr fun a ha => ?_
      split
      · simp
      · rename_i hnot
        by_contra htrue
        simp only [Bool.not_eq_false, Bool.and_eq_true, decide_eq_true_eq] at htrue
        refine hnot ⟨List.mem_map_of_mem (List.mem_filter.mpr ⟨ha, ?_⟩), htrue.2⟩
        simp [htrue]
    · rename_i hc
      refine Table.count_congr fun a ha => ?_
      split
      · rename_i hin
        obtain ⟨b, hb, hid⟩ := List.mem_map.mp hin.1
        obtain ⟨hb, hcond⟩ := List.mem_filter.mp hb
        obtain rfl := Table.eq_of_key_eq hb ha hid
        simp only [Bool.and_eq_true, decide_eq_true_eq] at hcond
        simp [hcond.1, Ne.symm hc]
      · rfl
  have hpending : (endClientRelationshipsForDeletion db clientUserId now).pending c =
      if c = clientUserId then 0 else db.pending c := by
    unfold Db.pending endClientRelationshipsForDeletion
    rw [Table.count_modify]
    split
    · rename_i hc
      subst hc
      refine Table.count_eq_zero.mpr fun r hr => ?_
      split
      · simp
      · rename_i hnot
        simpa using hnot
    · rename_i hc
      refine Table.count_congr fun r hr => ?_
      split
      · rename_i hin
        simp [hin.1, Ne.symm hc]
      · rfl
  unfold Db.held
  rw [hactive, hpending]
  split <;> rfl

/-- An account is deleted with its attendance. -/
theorem effect_deleteUser {userId : Uuid}
    (h : deleteUser db userId reads draws = .ok (db', reassignments)) : Effect g db db' := by
  obtain ⟨user, huser, h⟩ := bind_eq_ok.mp h
  obtain ⟨_, -, h⟩ := bind_eq_ok.mp h
  obtain ⟨_, -, h⟩ := bind_eq_ok.mp h
  obtain ⟨_, -, h⟩ := bind_eq_ok.mp h
  obtain ⟨⟨after, done⟩, hdone, h⟩ := bind_eq_ok.mp h
  cases h
  have hfind := orThrow_eq_ok.mp huser
  have hid : user.id = userId := (Table.find?_eq_some.mp hfind).2
  unfold endRelationships at hdone
  split at hdone
  · cases hdone
    rw [hid]
    refine .released userId (fun c hc => ?_) ?_ (fun c hc => ?_) ?_
    · rw [held_setUser, held_endClientRelationshipsForDeletion, if_neg hc]
    · rw [held_setUser, held_endClientRelationshipsForDeletion, if_pos rfl]
      exact Nat.zero_le _
    · simp [Db.setUser, endClientRelationshipsForDeletion, Table.find?_update, hc]
    · refine ⟨_, by
        simp [Db.setUser, endClientRelationshipsForDeletion, Table.find?_update, hfind]; rfl, ?_⟩
      simp [Attended]
  · rename_i hrole
    obtain ⟨⟨mid, done'⟩, hmid, hdone⟩ := bind_eq_ok.mp hdone
    obtain ⟨cashierProfiles, -, hdone⟩ := bind_eq_ok.mp hdone
    cases hdone
    obtain ⟨hheld, hframe⟩ := keeps_reassignCashierClients hmid
    refine .account (f := fun u => { u with status := .deleted, suspensionReasonCode := none })
      userId (fun _ => rfl) hheld ?_ fun _ u _ ha => ?_
    · rw [← hframe.users]
      rfl
    · exact absurd rfl ha.2.1
  · cases hdone
    refine .account (f := fun u => { u with status := .deleted, suspensionReasonCode := none })
      userId (fun _ => rfl) rfl rfl fun _ u _ ha => ?_
    exact absurd rfl ha.2.1

/-- A password changes nobody's attendance. -/
theorem effect_resetPassword {userId : Uuid}
    (h : resetPassword db userId = .ok (db', reassignments)) : Effect g db db' := by
  obtain ⟨user, -, h⟩ := bind_eq_ok.mp h
  obtain ⟨_, -, h⟩ := bind_eq_ok.mp h
  obtain ⟨_, -, h⟩ := bind_eq_ok.mp h
  obtain ⟨_, -, h⟩ := bind_eq_ok.mp h
  cases h
  exact .account _ (by exact fun _ => rfl) rfl rfl fun _ u _ ha => ha

/-- Neither does the end of a reset. -/
theorem effect_completeAdminReset {userId : Uuid}
    (h : completeAdminReset db userId = .ok (db', reassignments)) : Effect g db db' := by
  obtain ⟨user, -, h⟩ := bind_eq_ok.mp h
  obtain ⟨_, -, h⟩ := bind_eq_ok.mp h
  cases h
  exact .account _ (by exact fun _ => rfl) rfl rfl fun _ u _ ha => ha

/-- An approved cashier takes waiting clients. -/
theorem effect_approveCashier {cashierUserId : Uuid}
    (h : approveCashier db cashierUserId reads draws = .ok (db', reassignments)) :
    Effect g db db' := by
  obtain ⟨user, huser, h⟩ := bind_eq_ok.mp h
  obtain ⟨_, hrole, h⟩ := bind_eq_ok.mp h
  obtain ⟨profile, -, h⟩ := bind_eq_ok.mp h
  obtain ⟨_, -, h⟩ := bind_eq_ok.mp h
  obtain ⟨_, -, h⟩ := bind_eq_ok.mp h
  obtain ⟨cashierProfiles, -, h⟩ := bind_eq_ok.mp h
  obtain ⟨hheld, hframe⟩ := keeps_retryPending h
  refine .account _ (by exact fun _ => rfl) hheld hframe.users fun _ u hu ha => ?_
  obtain rfl : user = u := by simpa using (orThrow_eq_ok.mp huser).symm.trans hu
  have hcashier := require_eq_ok.mp hrole
  simp only [decide_eq_true_eq] at hcashier
  exact absurd (hcashier.symm.trans ha.1) (by simp)

/-- A suspension reassigns a cashier's clients. -/
theorem effect_suspend {userId : Uuid}
    (h : suspend db userId reads draws = .ok (db', reassignments)) : Effect g db db' := by
  obtain ⟨user, huser, h⟩ := bind_eq_ok.mp h
  obtain ⟨_, -, h⟩ := bind_eq_ok.mp h
  obtain ⟨_, hsuspended, h⟩ := bind_eq_ok.mp h
  obtain ⟨_, hdeleted, h⟩ := bind_eq_ok.mp h
  have hfind := orThrow_eq_ok.mp huser
  have hbefore : user.role = .client → Attended user := by
    intro hclient
    simp only [require_eq_ok, ne_eq, decide_not, Bool.not_eq_true', decide_eq_false_iff_not]
      at hsuspended hdeleted
    exact ⟨hclient, hdeleted, fun hfive => hsuspended hfive.1⟩
  have hattended : ∀ u, db.users.find? userId = some u →
      Attended { u with status := .suspended, suspensionReasonCode := some .userSuspended } →
      Attended u := by
    intro u hu ha
    obtain rfl : user = u := by simpa using hfind.symm.trans hu
    exact hbefore ha.1
  split at h
  · cases h
    exact .account _ (by exact fun _ => rfl) rfl rfl fun _ => hattended
  · obtain ⟨hheld, hframe⟩ := keeps_reassignCashierClients h
    exact .account _ (by exact fun _ => rfl) hheld hframe.users fun _ => hattended
  · cases h
    exact .account _ (by exact fun _ => rfl) rfl rfl fun _ => hattended

/-- **A reactivation** leaves the sums; unless the client was suspended for
five blocks, it was to be attended before. -/
theorem effect_reactivate {userId : Uuid}
    (hg : g → ∀ user, db.users.find? userId = some user → user.role = .client →
      user.suspensionReasonCode ≠ some .fiveDistinctCashierBlocks)
    (h : reactivate db userId reads draws = .ok (db', reassignments)) : Effect g db db' := by
  obtain ⟨user, huser, h⟩ := bind_eq_ok.mp h
  obtain ⟨_, -, h⟩ := bind_eq_ok.mp h
  obtain ⟨_, hsuspended, h⟩ := bind_eq_ok.mp h
  have hattended : g → ∀ u, db.users.find? userId = some u →
      Attended { u with status := restoredStatus db user, suspensionReasonCode := none } →
      Attended u := by
    intro hg' u hu ha
    obtain rfl : user = u := by simpa using (orThrow_eq_ok.mp huser).symm.trans hu
    simp only [require_eq_ok, decide_eq_true_eq] at hsuspended
    exact ⟨ha.1, by simp [hsuspended], fun hfive => hg hg' user hu ha.1 hfive.2⟩
  split at h
  · split at h
    · obtain ⟨hheld, hframe⟩ := keeps_retryPending h
      exact .account _ (by exact fun _ => rfl) hheld hframe.users hattended
    · cases h
      exact .account _ (by exact fun _ => rfl) rfl rfl hattended
  · obtain ⟨hheld, hframe⟩ := keeps_retryClientPending h
    exact .account _ (by exact fun _ => rfl) hheld hframe.users hattended

/-- A contact changes nobody's attendance. -/
theorem effect_updateContact {userId : Uuid} {emailChanged phoneChanged : Bool}
    (h : updateContact db userId emailChanged phoneChanged now = .ok (db', reassignments)) :
    Effect g db db' := by
  obtain ⟨user, -, h⟩ := bind_eq_ok.mp h
  obtain ⟨_, -, h⟩ := bind_eq_ok.mp h
  obtain ⟨_, -, h⟩ := bind_eq_ok.mp h
  obtain ⟨_, -, h⟩ := bind_eq_ok.mp h
  obtain ⟨profile, -, h⟩ := bind_eq_ok.mp h
  obtain ⟨cashierProfiles, -, h⟩ := bind_eq_ok.mp h
  cases h
  exact .same rfl rfl

/-- A subscription lets a cashier take waiting clients. -/
theorem effect_activateSubscription {cashierUserId subscriptionId : Uuid} {endsAt : Option ℕ}
    (h : activateSubscription db cashierUserId subscriptionId endsAt reads draws =
      .ok (db', reassignments)) : Effect g db db' := by
  obtain ⟨_, -, h⟩ := bind_eq_ok.mp h
  obtain ⟨_, -, h⟩ := bind_eq_ok.mp h
  obtain ⟨_, -, h⟩ := bind_eq_ok.mp h
  obtain ⟨_, -, h⟩ := bind_eq_ok.mp h
  obtain ⟨_, -, h⟩ := bind_eq_ok.mp h
  obtain ⟨subscriptions, -, h⟩ := bind_eq_ok.mp h
  obtain ⟨hheld, hframe⟩ := keeps_retryPending h
  exact .same hheld hframe.users

/-- Its end reassigns the clients. -/
theorem effect_deactivateSubscription {cashierUserId : Uuid}
    (h : deactivateSubscription db cashierUserId reads draws = .ok (db', reassignments)) :
    Effect g db db' := by
  obtain ⟨_, -, h⟩ := bind_eq_ok.mp h
  obtain ⟨_, -, h⟩ := bind_eq_ok.mp h
  obtain ⟨hheld, hframe⟩ := keeps_reassignCashierClients h
  exact .same hheld hframe.users

/-- Devices change nobody's attendance. -/
theorem effect_changeDeviceSet {userId : Uuid}
    (h : changeDeviceSet db userId = .ok (db', reassignments)) : Effect g db db' := by
  obtain ⟨_, -, h⟩ := bind_eq_ok.mp h
  cases h
  exact .same rfl rfl

/-- Neither does the first one. -/
theorem effect_publishFirstDevice {userId : Uuid} {matrixUserId : JsString}
    (h : publishFirstDevice db userId matrixUserId = .ok (db', reassignments)) :
    Effect g db db' := by
  obtain ⟨_, -, h⟩ := bind_eq_ok.mp h
  obtain ⟨_, -, h⟩ := bind_eq_ok.mp h
  cases h
  exact .same rfl rfl

/-- The operation does not reactivate a client that was suspended for five blocks. -/
def Operation.Reviewed (db : Db) : Operation → Prop
  | .reactivate userId => ∀ user, db.users.find? userId = some user → user.role = .client →
      user.suspensionReasonCode ≠ some .fiveDistinctCashierBlocks
  | _ => True

/-- **Every operation has one of the effects.** -/
theorem Operation.effect {operation : Operation} (hg : g → operation.Reviewed db)
    (h : operation.run db reads draws = .ok (db', reassignments)) : Effect g db db' := by
  cases operation with
  | registerClient => exact effect_registerClient h
  | registerCashier => exact effect_registerCashier h
  | rotateInvitation => exact effect_rotateInvitation h
  | blockClient => exact effect_blockClient h
  | reportCashier => exact effect_reportCashier h
  | reassignAdministrative => exact effect_reassignAdministrative h
  | reassignAssignmentAdministrative => exact effect_reassignAssignmentAdministrative h
  | reconcilePendingReassignments => exact effect_reconcilePendingReassignments h
  | reconcileNextExpiredSubscription => exact effect_reconcileNextExpiredSubscription h
  | deleteUser => exact effect_deleteUser h
  | suspend => exact effect_suspend h
  | reactivate => exact effect_reactivate hg h
  | resetPassword => exact effect_resetPassword h
  | completeAdminReset => exact effect_completeAdminReset h
  | approveCashier => exact effect_approveCashier h
  | updateContact => exact effect_updateContact h
  | activateSubscription => exact effect_activateSubscription h
  | deactivateSubscription => exact effect_deactivateSubscription h
  | changeDeviceSet => exact effect_changeDeviceSet h
  | publishFirstDevice => exact effect_publishFirstDevice h

/-! ## Runs -/

/-- The sums: nobody is counted twice, and every client to attend once. -/
structure AttendedInv (g : Prop) (db : Db) : Prop where
  unknown : ∀ c, db.users.find? c = none → db.held c = 0
  once : ∀ c, db.held c ≤ 1
  attended : g → ∀ c user, db.users.find? c = some user → Attended user → db.held c = 1

/-- **The invariant through an operation's effect.** -/
theorem AttendedInv.effect (h : AttendedInv g before) (heffect : Effect g before after) :
    AttendedInv g after := by
  cases heffect with
  | kept hheld hnone hattended =>
    refine ⟨fun c hc => hheld ▸ h.unknown c (hnone c hc), fun c => hheld ▸ h.once c,
      fun hg c user' hc ha => ?_⟩
    obtain ⟨user, huser, ha⟩ := hattended hg c user' hc ha
    exact hheld ▸ h.attended hg c user huser ha
  | registered c hnew hheld husers hsome =>
    have hzero := h.unknown c hnew
    refine ⟨fun c' hc => ?_, fun c' => ?_, fun hg c' user' hc ha => ?_⟩
    · have hne : c' ≠ c := by
        rintro rfl
        simp [hc] at hsome
      rw [hheld, if_neg hne, h.unknown c' (husers c' hne ▸ hc)]
    · rw [hheld]
      split
      · rename_i hc
        rw [hc, hzero]
      · exact h.once c'
    · rw [hheld]
      split
      · rename_i hc
        rw [hc, hzero]
      · rename_i hne
        exact h.attended hg c' user' (husers c' hne ▸ hc) ha
  | released c hheld hle husers hsome =>
    obtain ⟨user, huser, hnot⟩ := hsome
    refine ⟨fun c' hc => ?_, fun c' => ?_, fun hg c' user' hc ha => ?_⟩
    · have hne : c' ≠ c := by
        rintro rfl
        simp [hc] at huser
      rw [hheld c' hne, h.unknown c' (husers c' hne ▸ hc)]
    · by_cases hc : c' = c
      · subst hc
        exact hle.trans (h.once c')
      · exact hheld c' hc ▸ h.once c'
    · have hne : c' ≠ c := by
        rintro rfl
        obtain rfl : user = user' := by simpa using huser.symm.trans hc
        exact hnot ha
      rw [hheld c' hne, h.attended hg c' user' (husers c' hne ▸ hc) ha]

/-- Every reactivation is of a client that was not suspended for five blocks. -/
def Reviewed (w : World) : Action → Prop
  | .committed operation _ => operation.Reviewed w.db
  | _ => True

/-- The invariant along runs. -/
theorem attendedInv {trace : List Action} {w : World}
    (h : (attendance.guarded fun w action => g → Reviewed w action).Run trace w) :
    AttendedInv g w.db := by
  refine h.stateInvariant (I := fun w => AttendedInv g w.db) ?_ ?_
  · intro w hw
    rw [show w.db = _ from hw]
    exact ⟨fun c _ => rfl, fun c => Nat.zero_le _, fun _ c user hc => by cases hc⟩
  · rintro w action w' hinv ⟨hstep, hg⟩
    cases hstep with
    | commit hreads hle hrun hcheck => exact hinv.effect (Operation.effect hg hrun)
    | reject => exact hinv
    | tick => exact hinv

end Attendance

end SinoChat
