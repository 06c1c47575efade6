import SinoChat.Attendance.Transactions

/-!
# The operations as transactions

Each operation but the registration of a client ends the assignments that
`Operation.ends` names, and with no busy cashier deleted what it writes passes
the triggers (`Operation.transaction`).
-/

namespace SinoChat

open Js

namespace Attendance

variable {db db' before after : Db} {now clock : ℕ} {draw : Draw} {draws : ℕ → Draw}
  {reads : ℕ → ℕ} {reassignment : Reassignment} {reassignments : List Reassignment}
  {ends : Assignment → Prop} {good : Prop} {lasts : Uuid → Prop}

/-! ## Subscriptions -/

/-- Subscriptions that change alike for the query. -/
theorem subscribed_modify {f : CashierSubscription → CashierSubscription}
    {h : ∀ s, (f s).id = s.id} {cashierUserId : Uuid}
    (hsubscriptions : after.subscriptions = before.subscriptions.modify f h)
    (hkept : ∀ s ∈ before.subscriptions, (f s).cashierUserId = s.cashierUserId ∧
      (s.cashierUserId = cashierUserId →
        Accounts.inForce clock (f s) = Accounts.inForce clock s)) :
    after.subscribed cashierUserId clock = before.subscribed cashierUserId clock := by
  rw [Db.subscribed, Db.subscribed, hsubscriptions, Table.rows_modify, Bool.eq_iff_iff]
  simp only [List.any_eq_true, List.mem_map, exists_exists_and_eq_and, Bool.and_eq_true,
    decide_eq_true_eq]
  refine exists_congr fun s => and_congr_right fun hs => ?_
  obtain ⟨hcashier, hforce⟩ := hkept s hs
  rw [hcashier]
  exact and_congr_right fun hsame => by rw [hforce hsame]

/-- A cashier whose subscriptions have ended has none. -/
theorem not_subscribed_endSubscriptions {cashierUserId : Uuid} {status : SubscriptionStatus}
    {proposed : CashierSubscription → ℕ} (hstatus : status ≠ .active) :
    (db.endSubscriptions cashierUserId status proposed).subscribed cashierUserId now = false := by
  rw [Db.subscribed, List.any_eq_false]
  intro s hs hcond
  obtain ⟨old, -, rfl⟩ := List.mem_map.mp hs
  simp only [Accounts.inForce, Bool.and_eq_true, decide_eq_true_eq, beq_iff_eq] at hcond
  obtain ⟨hcashier, ⟨hactive, -⟩, -⟩ := hcond
  split at hactive
  · exact hstatus hactive
  · rename_i hnot
    rw [if_neg hnot] at hcashier
    exact hnot ⟨hcashier, hactive⟩

/-- The subscriptions of the others stay. -/
theorem subscribed_endSubscriptions {cashierUserId other : Uuid} {status : SubscriptionStatus}
    {proposed : CashierSubscription → ℕ} (hne : other ≠ cashierUserId) :
    (db.endSubscriptions cashierUserId status proposed).subscribed other clock =
      db.subscribed other clock := by
  refine subscribed_modify (h := fun s => by split <;> rfl) rfl fun s hs => ⟨?_, fun hother => ?_⟩
  · split <;> rfl
  · rw [if_neg fun hcond => hne (hother.symm.trans hcond.1)]

/-- A subscription more. -/
theorem subscribed_insert {subscription : CashierSubscription} {cashierUserId : Uuid}
    {h : db.subscriptions.find? subscription.id = none}
    (hsubscriptions : after.subscriptions = db.subscriptions.insert subscription h) :
    after.subscribed cashierUserId clock = true ↔ db.subscribed cashierUserId clock = true ∨
      cashierUserId = subscription.cashierUserId ∧ Accounts.inForce clock subscription = true := by
  rw [Db.subscribed, hsubscriptions, List.any_eq_true]
  constructor
  · rintro ⟨s, hs, hcond⟩
    rcases (Table.mem_insert (h := h)).mp hs with hs | rfl
    · exact .inl (List.any_eq_true.mpr ⟨s, hs, hcond⟩)
    · rw [Bool.and_eq_true, decide_eq_true_eq] at hcond
      exact .inr ⟨hcond.1.symm, hcond.2⟩
  · rintro (hsubscribed | ⟨rfl, hforce⟩)
    · obtain ⟨s, hs, hcond⟩ := List.any_eq_true.mp hsubscribed
      exact ⟨s, (Table.mem_insert (h := h)).mpr (.inl hs), hcond⟩
    · exact ⟨subscription, (Table.mem_insert (h := h)).mpr (.inr rfl), by simp [hforce]⟩

/-- A subscription that has run out is in force no more, whatever its status. -/
theorem subscribed_expire {subscription : CashierSubscription} {subscriptionId cashierUserId : Uuid}
    {endsAt : ℕ} (hfind : before.subscriptions.find? subscriptionId = some subscription)
    (hends : subscription.endsAt = some endsAt) (hend : endsAt ≤ clock)
    (hsubscriptions : after.subscriptions = before.subscriptions.update subscriptionId
      (fun s => { s with status := .expired }) fun _ => rfl) :
    after.subscribed cashierUserId clock = before.subscribed cashierUserId clock := by
  refine subscribed_modify hsubscriptions fun s hs => ⟨?_, fun _ => ?_⟩
  · split <;> rfl
  · split
    · rename_i hid
      obtain rfl : s = subscription := by
        simpa [hid] using (Table.find?_eq_some.mpr ⟨hs, hid⟩).symm.trans hfind
      simp [Accounts.inForce, hends, Nat.not_lt.mpr hend]
    · rfl

/-! ## Retries -/

/-- Retries after changes of accounts, profiles and subscriptions. -/
theorem transaction_retryPending {mid : Db} {limit : ℕ}
    (h : retryPending mid limit now draws = .ok (db', reassignments)) (hmid : Same db mid)
    (hnow : now ≤ clock)
    (hlasts : ∀ cashierUserId, mid.validAssignee cashierUserId now = true →
      (mid.subscribed cashierUserId clock = true ↔ lasts cashierUserId)) :
    Transaction good lasts clock (fun _ => False) reassignments db db' := by
  obtain ⟨hdone, hconsistent⟩ :=
    reassigned_retry ((waiting_pendingRequests _).sublist (List.take_sublist _ _)) h
  exact .of_chain hmid hdone hconsistent hnow hlasts

/-- A retry completes requests of one client. -/
theorem transaction_retryClientPending {mid : Db} {clientUserId : Uuid}
    (h : retryClientPending mid clientUserId now draw = .ok (db', reassignments))
    (hmid : Same db mid) (hnow : now ≤ clock)
    (hlasts : ∀ cashierUserId, mid.validAssignee cashierUserId now = true →
      (mid.subscribed cashierUserId clock = true ↔ lasts cashierUserId)) :
    Transaction good lasts clock (fun _ => False) reassignments db db' := by
  unfold retryClientPending at h
  split at h
  · rename_i request hrequest
    obtain ⟨⟨after, done⟩, hdone, h⟩ := bind_eq_ok.mp h
    cases h
    obtain ⟨hmem, -, hpending⟩ := mem_pendingRequests.mp (List.mem_of_mem_head? hrequest)
    exact .of_chain hmid (reassigned_completePending hdone)
      (fun hbefore => consistent_completePending hbefore (Table.find?_eq_some.mpr ⟨hmem, rfl⟩)
        hpending hdone) hnow hlasts
  · cases h
    exact .of_same hmid.assignments hmid.conversations hmid.blocks hmid.reports hmid.requests
      fun _ _ _ => not_false

/-- Mass reassignments after changes of accounts, profiles and subscriptions. -/
theorem transaction_reassignCashierClients {mid : Db} {cashierUserId : Uuid}
    {endReason : AssignmentEndReason}
    (h : reassignCashierClients mid cashierUserId endReason now draws = .ok (db', reassignments))
    (hmatches : matchesEndReason .cashierUnavailable endReason = true) (hmid : Same db mid)
    (hnow : now ≤ clock)
    (hlasts : ∀ cashierUserId, mid.validAssignee cashierUserId now = true →
      (mid.subscribed cashierUserId clock = true ↔ lasts cashierUserId)) :
    Transaction good lasts clock (fun a => a.cashierUserId = cashierUserId ∧ a.endedAt = none)
      reassignments db db' := by
  obtain ⟨hdone, hconsistent⟩ := reassigned_reassign (running_activeAssignments _) h
  refine .of_chain hmid (hdone.of_iff fun id a hfind => ?_) (hconsistent hmatches rfl) hnow
    hlasts
  rw [mem_activeAssignments]
  simp [(Table.find?_eq_some.mp hfind).1]

/-- An approval retries what waits. -/
theorem transaction_approveCashier {cashierUserId : Uuid}
    (hclock : ∀ i, reads i ≤ clock)
    (h : approveCashier db cashierUserId reads draws = .ok (db', reassignments)) :
    Transaction good (fun other => db.subscribed other clock = true) clock (fun _ => False)
      reassignments db db' := by
  obtain ⟨user, huser, h⟩ := bind_eq_ok.mp h
  obtain ⟨_, hrole, h⟩ := bind_eq_ok.mp h
  obtain ⟨profile, -, h⟩ := bind_eq_ok.mp h
  obtain ⟨_, -, h⟩ := bind_eq_ok.mp h
  obtain ⟨_, -, h⟩ := bind_eq_ok.mp h
  obtain ⟨cashierProfiles, -, h⟩ := bind_eq_ok.mp h
  exact transaction_retryPending h ⟨rfl, rfl, rfl, rfl, rfl, rfl⟩ (hclock 1)
    fun _ _ => .rfl

/-- So does a subscription. -/
theorem transaction_activateSubscription {cashierUserId subscriptionId : Uuid} {endsAt : Option ℕ}
    (hclock : ∀ i, reads i ≤ clock)
    (h : activateSubscription db cashierUserId subscriptionId endsAt reads draws =
      .ok (db', reassignments)) :
    Transaction good (fun other => db.subscribed other clock = true ∨
      other = cashierUserId ∧ ∀ e, endsAt = some e → clock < e) clock (fun _ => False)
      reassignments db db' := by
  obtain ⟨_, -, h⟩ := bind_eq_ok.mp h
  obtain ⟨_, -, h⟩ := bind_eq_ok.mp h
  obtain ⟨_, -, h⟩ := bind_eq_ok.mp h
  obtain ⟨_, -, h⟩ := bind_eq_ok.mp h
  obtain ⟨_, -, h⟩ := bind_eq_ok.mp h
  obtain ⟨subscriptions, hsubscriptions, h⟩ := bind_eq_ok.mp h
  obtain ⟨hnew, rfl⟩ := Table.create_eq_ok.mp hsubscriptions
  refine transaction_retryPending h ⟨rfl, rfl, rfl, rfl, rfl, rfl⟩ (hclock 1) fun other _ => ?_
  rw [subscribed_insert (h := hnew) rfl]
  refine or_congr .rfl (and_congr .rfl ?_)
  cases endsAt with
  | none => simp [Accounts.inForce, hclock 0]
  | some endsAt => simp [Accounts.inForce, hclock 0]

/-- Its end reassigns the cashier's clients. -/
theorem transaction_deactivateSubscription {cashierUserId : Uuid}
    (hclock : ∀ i, reads i ≤ clock)
    (h : deactivateSubscription db cashierUserId reads draws = .ok (db', reassignments)) :
    Transaction good (fun other => db.subscribed other clock = true) clock
      (fun a => a.cashierUserId = cashierUserId ∧ a.endedAt = none) reassignments db db' := by
  obtain ⟨_, -, h⟩ := bind_eq_ok.mp h
  obtain ⟨_, -, h⟩ := bind_eq_ok.mp h
  refine transaction_reassignCashierClients h rfl ⟨rfl, rfl, rfl, rfl, rfl, rfl⟩
    (hclock 1) fun other hvalid => ?_
  have hne : other ≠ cashierUserId := by
    rintro rfl
    rw [Db.validAssignee, not_subscribed_endSubscriptions (by simp)] at hvalid
    simp at hvalid
  rw [subscribed_endSubscriptions hne]

/-- So does a suspension. -/
theorem transaction_suspend {userId : Uuid}
    (hclock : ∀ i, reads i ≤ clock)
    (h : suspend db userId reads draws = .ok (db', reassignments)) :
    Transaction good (fun other => db.subscribed other clock = true) clock
      (fun a => a.endedAt = none ∧ a.cashierUserId = userId ∧
        ∃ user, db.users.find? userId = some user ∧ user.role = .cashier) reassignments db db' := by
  obtain ⟨user, huser, h⟩ := bind_eq_ok.mp h
  obtain ⟨_, -, h⟩ := bind_eq_ok.mp h
  obtain ⟨_, -, h⟩ := bind_eq_ok.mp h
  obtain ⟨_, -, h⟩ := bind_eq_ok.mp h
  have hfind := orThrow_eq_ok.mp huser
  have hrole : ∀ other, db.users.find? userId = some other → other = user := fun other hother => by
    simpa using hother.symm.trans hfind
  split at h
  · rename_i hclient
    cases h
    refine .of_same rfl rfl rfl rfl rfl ?_
    rintro id a - ⟨-, -, other, hother, hcashier⟩
    rw [hrole other hother, hclient] at hcashier
    cases hcashier
  · rename_i hcashier
    have hdone : Transaction good (fun other => db.subscribed other clock = true) clock
        (fun a => a.cashierUserId = userId ∧ a.endedAt = none) reassignments db db' :=
      transaction_reassignCashierClients h rfl ⟨rfl, rfl, rfl, rfl, rfl, rfl⟩ (hclock 1)
        fun _ _ => .rfl
    refine hdone.of_iff fun id a _ => ?_
    constructor
    · rintro ⟨ha, hactive⟩
      exact ⟨hactive, ha, user, hfind, hcashier⟩
    · rintro ⟨hactive, ha, -⟩
      exact ⟨ha, hactive⟩
  · rename_i hadmin
    cases h
    refine .of_same rfl rfl rfl rfl rfl ?_
    rintro id a - ⟨-, -, other, hother, hcashier⟩
    rw [hrole other hother, hadmin] at hcashier
    cases hcashier

/-- A reactivation retries what waits. -/
theorem transaction_reactivate {userId : Uuid}
    (hclock : ∀ i, reads i ≤ clock)
    (h : reactivate db userId reads draws = .ok (db', reassignments)) :
    Transaction good (fun other => db.subscribed other clock = true) clock (fun _ => False)
      reassignments db db' := by
  obtain ⟨user, huser, h⟩ := bind_eq_ok.mp h
  obtain ⟨_, -, h⟩ := bind_eq_ok.mp h
  obtain ⟨_, -, h⟩ := bind_eq_ok.mp h
  split at h
  · split at h
    · exact transaction_retryPending h ⟨rfl, rfl, rfl, rfl, rfl, rfl⟩ (hclock 1)
        fun _ _ => .rfl
    · cases h
      exact .of_same rfl rfl rfl rfl rfl fun _ _ _ => not_false
  · exact transaction_retryClientPending h ⟨rfl, rfl, rfl, rfl, rfl, rfl⟩ (hclock 1)
      fun _ _ => .rfl

/-- The reconciler retries a batch of requests. -/
theorem transaction_reconcilePendingReassignments {unlocked : Uuid → Bool} {size queryNow : ℕ}
    (hnow : now ≤ clock)
    (h : reconcilePendingReassignments db unlocked size queryNow now draws =
      .ok (db', reassignments)) :
    Transaction good (fun other => db.subscribed other clock = true) clock (fun _ => False)
      reassignments db db' := by
  obtain ⟨_, -, h⟩ := bind_eq_ok.mp h
  obtain ⟨hdone, hconsistent⟩ := reassigned_retry ((waiting_pendingRequests _).sublist
    ((List.take_sublist _ _).trans List.filter_sublist)) h
  exact .of_chain (.refl db) hdone hconsistent hnow fun _ _ => .rfl

/-- The reconciler ends one subscription. -/
theorem transaction_reconcileNextExpiredSubscription {subscriptionId : Uuid}
    {unlocked : Uuid → Bool} {size : ℕ}
    (hclock : ∀ i, reads i ≤ clock)
    (h : reconcileNextExpiredSubscription db subscriptionId unlocked size (reads 0) (reads 1)
      (reads 2) draws = .ok (db', reassignments)) :
    Transaction good (fun other => db.subscribed other clock = true) clock (Operation.ends db reads
      (.reconcileNextExpiredSubscription subscriptionId unlocked size)) reassignments db db' := by
  obtain ⟨_, -, h⟩ := bind_eq_ok.mp h
  split at h
  · rename_i hnone
    cases h
    refine .of_same rfl rfl rfl rfl rfl ?_
    rintro id a - ⟨subscription, hsome, -⟩
    rw [hnone] at hsome
    cases hsome
  · rename_i subscription hsome
    obtain ⟨⟨mid, done⟩, hdone, h⟩ := bind_eq_ok.mp h
    obtain ⟨_, -, h⟩ := bind_eq_ok.mp h
    obtain ⟨hchain, hconsistent⟩ := reassigned_reassign ((running_activeAssignments _).sublist
      ((List.take_sublist _ _).trans List.filter_sublist)) hdone
    have hends : ∀ id a, db.assignments.find? id = some a →
        (a ∈ ((db.activeAssignments fun assignment =>
            assignment.cashierUserId = subscription.cashierUserId).filter fun assignment =>
              unlocked assignment.id).take size ↔ Operation.ends db reads
          (.reconcileNextExpiredSubscription subscriptionId unlocked size) a) := by
      intro id a _
      constructor
      · exact fun hmem => ⟨subscription, hsome, hmem⟩
      · rintro ⟨other, hother, hmem⟩
        obtain rfl : other = subscription := by simpa using hother.symm.trans hsome
        exact hmem
    obtain ⟨hfind, hdue⟩ := Option.filter_eq_some_iff.mp hsome
    rw [Bool.and_eq_true] at hdue
    obtain ⟨endsAt, hendsAt, hdue⟩ := (Option.any_eq_true _ _).mp hdue.2
    split at h
    · obtain ⟨subscriptions, hsubscriptions, h⟩ := bind_eq_ok.mp h
      cases h
      obtain ⟨-, rfl⟩ := Table.change_eq_ok.mp hsubscriptions
      refine .of_reassigned (.refl db) (hchain.of_iff hends) (hconsistent rfl rfl)
        (by exact ⟨rfl, rfl, rfl, rfl, rfl, rfl⟩) rfl rfl (hclock 1) fun cashierUserId _ => ?_
      have hmid : mid.subscriptions.find? subscriptionId = some subscription := by
        rw [hchain.frame.subscriptions]
        exact hfind
      have hrunOut : endsAt ≤ clock := (of_decide_eq_true hdue).trans (hclock 0)
      rw [subscribed_expire hmid hendsAt hrunOut rfl, subscribed_congr hchain.frame.subscriptions]
    · cases h
      exact .of_chain (.refl db) (hchain.of_iff hends) (hconsistent rfl rfl) (hclock 1)
        fun _ _ => .rfl

/-! ## One reassignment -/

/-- A client that waits has no active assignment. -/
theorem not_active_of_pending {request : ReassignmentRequest} {a : Assignment}
    (hone : db.held a.clientUserId ≤ 1) (hrequest : request ∈ db.requests)
    (hpending : request.status = .pending) (hclient : request.clientUserId = a.clientUserId)
    (ha : a ∈ db.assignments) : a.endedAt ≠ none := by
  intro hactive
  have hone' : 0 < db.active a.clientUserId :=
    List.countP_pos_iff.mpr ⟨a, ha, by simp [hactive]⟩
  have hwaits : 0 < db.pending a.clientUserId :=
    List.countP_pos_iff.mpr ⟨request, hrequest, by simp [hclient, hpending]⟩
  unfold Db.held at hone
  omega

/-- A client has one active assignment. -/
theorem eq_of_active {a b : Assignment} (hone : db.held a.clientUserId ≤ 1)
    (ha : a ∈ db.assignments) (hb : b ∈ db.assignments) (hclient : b.clientUserId = a.clientUserId)
    (hactive : a.endedAt = none) (hactive' : b.endedAt = none) : a = b := by
  have hcount : db.active a.clientUserId ≤ 1 := (Nat.le_add_right _ _).trans hone
  exact Table.eq_of_count_le_one hcount ha hb (by simp [hactive]) (by simp [hclient, hactive'])

/-- An administrator reassigns one client. -/
theorem transaction_reassignAdministrative {clientUserId : Uuid} (hone : ∀ c, db.held c ≤ 1)
    (hnow : now ≤ clock)
    (h : reassignAdministrative db clientUserId now draw = .ok (db', reassignments)) :
    Transaction good (fun other => db.subscribed other clock = true) clock
      (fun a => a.clientUserId = clientUserId ∧ a.endedAt = none) reassignments db db' := by
  obtain ⟨_, -, h⟩ := bind_eq_ok.mp h
  split at h
  · rename_i request hrequest
    obtain ⟨⟨after, done⟩, hdone, h⟩ := bind_eq_ok.mp h
    cases h
    obtain ⟨hmem, hclient, hpending⟩ := mem_pendingRequests.mp (List.mem_of_mem_head? hrequest)
    have hchain : Reassigned (fun a => a.clientUserId = clientUserId ∧ a.endedAt = none) now [done]
        db after := by
      refine (reassigned_completePending hdone).of_iff fun id a hfind =>
        ⟨False.elim, fun ha => ?_⟩
      obtain rfl := ha.1
      exact not_active_of_pending (hone _) hmem hpending (of_decide_eq_true hclient)
        (Table.find?_eq_some.mp hfind).1 ha.2
    exact .of_chain (.refl db) hchain (fun hbefore => consistent_completePending hbefore
      (Table.find?_eq_some.mpr ⟨hmem, rfl⟩) hpending hdone) hnow fun _ _ => .rfl
  · obtain ⟨assignment, hassignment, h⟩ := bind_eq_ok.mp h
    obtain ⟨⟨after, done⟩, hdone, h⟩ := bind_eq_ok.mp h
    cases h
    obtain ⟨hmem, hclient, hactive⟩ := mem_activeAssignments.mp
      (List.mem_of_mem_head? (orThrow_eq_ok.mp hassignment))
    have hclient := of_decide_eq_true hclient
    have hfind := Table.find?_eq_some.mpr ⟨hmem, rfl⟩
    have hchain : Reassigned (fun a => a.clientUserId = clientUserId ∧ a.endedAt = none) now [done]
        db after := by
      refine (reassigned_beginReassignment (by exact hfind) (by exact hactive) hdone).of_iff
        fun id a ha => ?_
      constructor
      · rintro rfl
        exact ⟨hclient, hactive⟩
      · rintro ⟨hsame, hactive'⟩
        exact (eq_of_active (hone _) hmem (Table.find?_eq_some.mp ha).1
          (hsame.trans hclient.symm) hactive hactive').symm
    exact .of_chain (.refl db) hchain (fun hbefore => consistent_beginReassignment hbefore
      (by exact hfind) (by exact hactive) (Db.admits_of_none rfl rfl) hdone) hnow fun _ _ => .rfl

/-- An administrator ends one assignment. -/
theorem transaction_reassignAssignmentAdministrative {assignmentId : Uuid}
    (hnow : now ≤ clock)
    (h : reassignAssignmentAdministrative db assignmentId now draw = .ok (db', reassignments)) :
    Transaction good (fun other => db.subscribed other clock = true) clock
      (fun a => a.id = assignmentId) reassignments db db' := by
  obtain ⟨assignment, hassignment, h⟩ := bind_eq_ok.mp h
  obtain ⟨⟨after, done⟩, hdone, h⟩ := bind_eq_ok.mp h
  cases h
  obtain ⟨hfind, hcond⟩ := Option.filter_eq_some_iff.mp (orThrow_eq_ok.mp hassignment)
  simp only [Bool.and_eq_true, decide_eq_true_eq] at hcond
  obtain ⟨hmem, rfl⟩ := Table.find?_eq_some.mp hfind
  have hchain : Reassigned (fun a => a.id = assignment.id) now [done] db after := by
    refine (reassigned_beginReassignment (by exact hfind) (by exact hcond.1) hdone).of_iff
      fun id a ha => ⟨fun heq => by rw [heq], fun hid => ?_⟩
    exact Table.eq_of_key_eq (Table.find?_eq_some.mp ha).1 hmem hid
  exact .of_chain (.refl db) hchain (fun hbefore => consistent_beginReassignment hbefore
    (by exact hfind) (by exact hcond.1) (Db.admits_of_none rfl rfl) hdone) hnow fun _ _ => .rfl

/-! ## Blocks and reports -/

/-- A new block leaves the others. -/
theorem blocksKept_insert {block : Block} {hnew : db.blocks.find? block.id = none}
    (hblocks : after.blocks = db.blocks.insert block hnew) : BlocksKept db after := by
  intro id b hb
  have hne : block.id ≠ id := by
    rintro rfl
    rw [hb] at hnew
    cases hnew
  rw [hblocks, Table.find?_insert, if_neg hne]
  exact hb

/-- One block more. -/
theorem Consistent.blocked {mid : Db} (h : Consistent db)
    (hassignments : mid.assignments = db.assignments)
    (hconversations : mid.conversations = db.conversations)
    (hrequests : mid.requests = db.requests) (hkept : BlocksKept db mid) : Consistent mid := by
  refine ⟨fun id => ?_, fun id a ha hreason => ?_, fun id r hr => ?_⟩
  · rw [hassignments, hconversations]
    exact h.conversations id
  · rw [hassignments] at ha
    obtain ⟨hprevious, hcompletes⟩ := h.previous id a ha hreason
    refine ⟨(Grown.of_eq hassignments).validPrevious hprevious, ?_⟩
    unfold Db.completesRequest at hcompletes ⊢
    rwa [hrequests]
  · rw [hrequests] at hr
    exact (h.requests id r hr).grown (.of_eq hassignments) hkept

/-- The assignment a reassignment began with, when it is done. -/
theorem ended_beginReassignment {input : BeginReassignmentInput}
    (hfind : db.assignments.find? input.assignment.id = some input.assignment)
    (h : beginReassignment db input now draw = .ok (db', reassignment)) :
    db'.assignments.find? input.assignment.id =
      some (ended input.assignmentEndReason now input.assignment) := by
  obtain ⟨hnew, -, h⟩ := beginReassignment_eq_ok h
  refine assignments_completePending h ?_
  simp [Db.requested, Db.withEnded, Table.find?_update, hfind]

/-- **A block with the end of its assignment.** -/
theorem Transaction.of_block {mid : Db} {block : Block} {assignment : Assignment}
    {endReason : AssignmentEndReason} (hnew : db.blocks.find? block.id = none)
    (hmoved : Moved ends reassignments mid after)
    (hassignments : mid.assignments = db.assignments)
    (hconversations : mid.conversations = db.conversations)
    (hrequests : mid.requests = db.requests) (hblocks : mid.blocks = db.blocks.insert block hnew)
    (hinvitations : after.invitations = db.invitations) (hsame : after.blocks = mid.blocks)
    (hconsistent : Consistent mid → Consistent after)
    (hseated : ∀ reassignment ∈ reassignments, reassignment.now ≤ clock ∧
      ∀ cashierUserId, reassignment.tables.validAssignee cashierUserId reassignment.now = true →
        (after.validAssignee cashierUserId clock = true ↔ lasts cashierUserId))
    (hended : after.assignments.find? block.assignmentId = some (ended endReason now assignment))
    (hclient : assignment.clientUserId = block.clientUserId)
    (hcashier : assignment.cashierUserId = block.cashierUserId)
    (hlife : after.validateBlockLifecycle block = true)
    (hreports : ∀ r ∈ after.reports, (db.reports.find? r.id).isSome ∨
      after.validateReportSource r = true) :
    Transaction good lasts clock ends reassignments db after := by
  have hkept : BlocksKept db mid := blocksKept_insert hblocks
  refine ⟨⟨fun id a hfind => ?_, fun id a hfind hnone => ?_, fun reassignment hmem _ _ hassigns =>
    ?_, fun id c hfind => ?_, fun id b hb => ?_, hmoved.chosen⟩, fun _ hbefore =>
    hconsistent (hbefore.blocked hassignments hconversations hrequests hkept), fun _ => hseated,
    fun _ _ => hinvitations, fun b hb => ?_, hreports⟩
  · exact hmoved.kept id a (hassignments ▸ hfind)
  · exact hmoved.opened id a hfind (hassignments ▸ hnone)
  · rw [← hassignments]
    exact hmoved.reported reassignment hmem _ _ hassigns
  · exact hmoved.conversations id c (hconversations ▸ hfind)
  · exact hmoved.blocks id b (hkept id b hb)
  · rw [hsame, hblocks] at hb
    rcases (Table.mem_insert (h := hnew)).mp hb with hb | rfl
    · exact .inl (isSome_of_mem hb)
    · refine .inr ⟨?_, hlife⟩
      simp [Db.validateBlock, hended, ended, hclient, hcashier]

/-- A request with the block behind it. -/
theorem Db.admits_of_block {assignment : Assignment} {reason : ReassignmentReason}
    {endReason : AssignmentEndReason} (block : Block)
    (hmatches : matchesEndReason reason endReason = true)
    (hblock : db.blocks.find? block.id = some block)
    (hclient : assignment.clientUserId = block.clientUserId)
    (hcashier : assignment.cashierUserId = block.cashierUserId)
    (hinitiator : blockInitiatorOf reason = some block.initiatedBy) :
    db.Admits ⟨assignment, reason, endReason, some block.id⟩ := by
  refine ⟨hmatches, fun now draw => ?_, fun blockId h => ?_⟩
  · simp [Db.validTrigger, newRequest, hblock, hclient, hcashier, hinitiator]
  · cases h
    exact ⟨block, hblock⟩

/-- A block reassigns the client. -/
theorem transaction_blockClient {cashierUserId clientUserId blockId : Uuid}
    (hone : ∀ c, db.held c ≤ 1) (hclock : ∀ i, reads i ≤ clock)
    (h : blockClient db cashierUserId clientUserId blockId reads draw = .ok (db', reassignments)) :
    Transaction good (fun other => db.subscribed other clock = true) clock
      (fun a => a.clientUserId = clientUserId ∧ a.cashierUserId = cashierUserId ∧ a.endedAt = none)
      reassignments db db' := by
  rw [blockClient, orConflict_eq_ok] at h
  obtain ⟨access, haccess, h⟩ := bind_eq_ok.mp h
  obtain ⟨blocked, hblocked, h⟩ := bind_eq_ok.mp h
  obtain ⟨_, -, h⟩ := bind_eq_ok.mp h
  obtain ⟨hfind, hactive, hclient, hcashier, -⟩ := lockCurrentByParticipants_eq_ok haccess
  obtain ⟨hnew, -, rfl⟩ := createBlock_eq_ok hblocked
  have hmem := (Table.find?_eq_some.mp hfind).1
  have hends : ∀ id a, db.assignments.find? id = some a → (a = access.1 ↔
      a.clientUserId = clientUserId ∧ a.cashierUserId = cashierUserId ∧ a.endedAt = none) := by
    intro id a ha
    constructor
    · rintro rfl
      exact ⟨hclient, hcashier, hactive⟩
    · rintro ⟨hsame, -, hactive'⟩
      exact (eq_of_active (hone _) hmem (Table.find?_eq_some.mp ha).1
        (hsame.trans hclient.symm) hactive hactive').symm
  split at h
  · obtain ⟨after, hafter, h⟩ := bind_eq_ok.mp h
    obtain ⟨_, -, h⟩ := bind_eq_ok.mp h
    cases h
    obtain ⟨-, -, rfl⟩ := endAssignment_eq_ok hafter
    have hmoved : Moved (fun a => a = access.1) [] { db with blocks := db.blocks.insert _ hnew }
        (Db.withEnded { db with blocks := db.blocks.insert _ hnew } access.1 .cashierBlockedClient
          (reads 1)) := moved_withEnded hfind hactive
    have hended : Moved (fun a => a = access.1) [] { db with blocks := db.blocks.insert _ hnew }
        (Db.setUser (Db.withEnded { db with blocks := db.blocks.insert _ hnew } access.1
          .cashierBlockedClient (reads 1)) clientUserId (fun u => { u with
            status := .suspended
            suspensionReasonCode := some .fiveDistinctCashierBlocks }) fun _ => rfl) :=
      ⟨hmoved.kept, hmoved.opened, by simp, hmoved.conversations, hmoved.blocks, by simp⟩
    have hrow : (Db.withEnded { db with blocks := db.blocks.insert _ hnew } access.1
        .cashierBlockedClient (reads 1)).assignments.find? access.1.id =
          some (ended .cashierBlockedClient (reads 1) access.1) := by
      simp [Db.withEnded, Table.find?_update, hfind]
    refine .of_block hnew (hended.of_iff hends) rfl rfl rfl rfl rfl rfl
      (fun hmid => (hmid.withEnded hfind hactive).congr rfl rfl rfl rfl) (by simp) hrow
      hclient hcashier ?_ fun r hr => .inl (isSome_of_mem hr)
    simp [Db.validateBlockLifecycle, Db.setUser, hrow, ended]
  · obtain ⟨⟨after, done⟩, hdone, h⟩ := bind_eq_ok.mp h
    obtain ⟨_, -, h⟩ := bind_eq_ok.mp h
    cases h
    have hchain := reassigned_beginReassignment (by exact hfind) (by exact hactive) hdone
    have hrow := ended_beginReassignment (by exact hfind) hdone
    refine .of_block hnew (hchain.moved.of_iff hends) rfl rfl rfl rfl hchain.frame.invitations
      hchain.frame.blocks (fun hmid => consistent_beginReassignment hmid (by exact hfind)
        (by exact hactive) (Db.admits_of_block ⟨blockId, clientUserId, cashierUserId, access.1.id,
          .cashier⟩ rfl ?_ hclient hcashier rfl) hdone)
      (hchain.seated (hclock 2) rfl rfl fun _ _ => by
        rw [subscribed_congr hchain.frame.subscriptions]
        exact .rfl) hrow hclient
      hcashier ?_ fun r hr => .inl (isSome_of_mem (hchain.frame.reports ▸ hr))
    · simp [Table.find?_insert]
    · simp [Db.validateBlockLifecycle, hrow, ended]

/-- So does a report. -/
theorem transaction_reportCashier {clientUserId assignmentId blockId reportId : Uuid}
    (hnow : now ≤ clock)
    (h : reportCashier db clientUserId assignmentId blockId reportId now draw =
      .ok (db', reassignments)) :
    Transaction good (fun other => db.subscribed other clock = true) clock
      (fun a => a.id = assignmentId) reassignments db db' := by
  rw [reportCashier, orConflict_eq_ok] at h
  obtain ⟨assignment, hassignment, h⟩ := bind_eq_ok.mp h
  obtain ⟨blocked, hblocked, h⟩ := bind_eq_ok.mp h
  obtain ⟨reports, hreports, h⟩ := bind_eq_ok.mp h
  obtain ⟨⟨after, done⟩, hdone, h⟩ := bind_eq_ok.mp h
  cases h
  obtain ⟨hnew, -, rfl⟩ := createBlock_eq_ok hblocked
  obtain ⟨hreport, rfl⟩ := Table.create_eq_ok.mp hreports
  obtain ⟨hfind, hcond⟩ := Option.filter_eq_some_iff.mp (orThrow_eq_ok.mp hassignment)
  simp only [Bool.and_eq_true, decide_eq_true_eq] at hcond
  obtain ⟨⟨⟨hclient, hactive⟩, -⟩, -⟩ := hcond
  obtain ⟨hmem, rfl⟩ := Table.find?_eq_some.mp hfind
  have hchain := reassigned_beginReassignment (by exact hfind) (by exact hactive) hdone
  have hrow := ended_beginReassignment (by exact hfind) hdone
  have hblock : after.blocks.find? blockId =
      some ⟨blockId, clientUserId, assignment.cashierUserId, assignment.id, .client⟩ := by
    rw [hchain.frame.blocks]
    simp [Table.find?_insert]
  have hends : ∀ id a, db.assignments.find? id = some a → (a = assignment ↔ a.id = assignment.id) :=
    fun id a ha => ⟨fun heq => by rw [heq], fun hid =>
      Table.eq_of_key_eq (Table.find?_eq_some.mp ha).1 hmem hid⟩
  refine .of_block hnew (hchain.moved.of_iff hends) rfl rfl rfl rfl hchain.frame.invitations
    hchain.frame.blocks (fun hmid => consistent_beginReassignment hmid (by exact hfind)
      (by exact hactive) (Db.admits_of_block ⟨blockId, clientUserId, assignment.cashierUserId,
        assignment.id, .client⟩ rfl ?_ hclient rfl rfl) hdone)
    (hchain.seated hnow rfl rfl fun _ _ => by
      rw [subscribed_congr hchain.frame.subscriptions]
      exact .rfl) hrow hclient rfl ?_ fun r hr => ?_
  · simp [Table.find?_insert]
  · have hmem : (⟨reportId, blockId⟩ : Report) ∈ after.reports := by
      rw [hchain.frame.reports]
      exact (Table.mem_insert (h := hreport)).mpr (.inr rfl)
    have hany : (after.reports.rows.any fun report => report.blockId = blockId) = true :=
      List.any_eq_true.mpr ⟨_, hmem, by simp⟩
    simp [Db.validateBlockLifecycle, hrow, ended, hany]
  · rw [hchain.frame.reports] at hr
    rcases (Table.mem_insert (h := hreport)).mp hr with hr | rfl
    · exact .inl (isSome_of_mem hr)
    · exact .inr (by simp [Db.validateReportSource, hblock, hrow, ended])

/-! ## Deletions -/

/-- Which assignments the deletion of a client finds. -/
theorem mem_activeIds {clientUserId : Uuid} {a : Assignment} (ha : a ∈ db.assignments) :
    a.id ∈ (db.assignments.rows.filter fun assignment =>
        assignment.clientUserId = clientUserId && assignment.endedAt = none).map Assignment.id ↔
      a.clientUserId = clientUserId ∧ a.endedAt = none := by
  constructor
  · intro hin
    obtain ⟨b, hb, hid⟩ := List.mem_map.mp hin
    obtain ⟨hb, hcond⟩ := List.mem_filter.mp hb
    obtain rfl := Table.eq_of_key_eq hb ha hid
    simpa using hcond
  · rintro ⟨hclient, hactive⟩
    exact List.mem_map_of_mem (List.mem_filter.mpr ⟨ha, by simp [hclient, hactive]⟩)

/-- The assignments of a deleted client end. -/
theorem find?_endClientRelationships (clientUserId id : Uuid) :
    (endClientRelationshipsForDeletion db clientUserId now).assignments.find? id =
      (db.assignments.find? id).map fun a =>
        if a.clientUserId = clientUserId ∧ a.endedAt = none then ended .accountDeleted now a
        else a := by
  unfold endClientRelationshipsForDeletion
  rw [Table.find?_modify]
  refine Option.map_congr fun a ha => ?_
  have hiff := @mem_activeIds db clientUserId a (Table.find?_eq_some.mp ha).1
  by_cases hcond : a.clientUserId = clientUserId ∧ a.endedAt = none
  · rw [if_pos hcond, if_pos ⟨hiff.mpr hcond, hcond.2⟩]
    rfl
  · rw [if_neg hcond, if_neg fun h => hcond (hiff.mp h.1)]

/-- The conversations of a deleted client are closed. -/
theorem conversation_endClientRelationships (clientUserId : Uuid) (now : ℕ) {id : Uuid}
    {c : Conversation} (h : db.conversations.find? id = some c) :
    ∃ c', (endClientRelationshipsForDeletion db clientUserId now).conversations.find? id = some c' ∧
      (c' = c ∨ c' = closed c) := by
  unfold endClientRelationshipsForDeletion
  rw [Table.find?_modify, h]
  refine ⟨_, rfl, ?_⟩
  dsimp only
  split
  · exact .inr rfl
  · exact .inl rfl

/-- **The relationships of a deleted client end** with their conversations, and
what waits is cancelled. -/
theorem Consistent.endClientRelationships (h : Consistent db) (clientUserId : Uuid) :
    Consistent (endClientRelationshipsForDeletion db clientUserId now) := by
  -- An assignment of the client ends, every other one stays.
  have hgrown : Grown db (endClientRelationshipsForDeletion db clientUserId now) := by
    intro id a ha
    rw [find?_endClientRelationships, ha]
    refine ⟨_, rfl, ?_⟩
    dsimp only
    split
    · rename_i hcond
      exact .inr ⟨hcond.2, _, _, rfl⟩
    · exact .inl rfl
  refine ⟨fun id => ?_, fun id a ha hreason => ?_, fun id r hr => ?_⟩
  -- A conversation is closed with its assignment.
  · have hid := h.conversations id
    rw [find?_endClientRelationships]
    cases ha : db.assignments.find? id with
    | none =>
      rw [ha] at hid
      simp [endClientRelationshipsForDeletion, Table.find?_modify, Option.map_eq_none_iff.mp hid]
    | some a =>
      rw [ha] at hid
      obtain ⟨c, hc, hstatus⟩ := Option.map_eq_some_iff.mp hid
      obtain ⟨hmem, rfl⟩ := Table.find?_eq_some.mp ha
      have hconversation : c.assignmentId = a.id := (Table.find?_eq_some.mp hc).2
      unfold endClientRelationshipsForDeletion
      rw [Table.find?_modify, hc]
      simp only [Option.map_some, hconversation, mem_activeIds hmem]
      by_cases hcond : a.clientUserId = clientUserId ∧ a.endedAt = none
      · have hactive : c.status = .active := by
          rw [hstatus, conversationStatus, if_pos hcond.2]
        rw [if_pos ⟨hcond, hactive⟩, if_pos hcond]
        rfl
      · rw [if_neg hcond, if_neg fun h => hcond h.1, hstatus]
  -- An assignment that follows another one still does.
  · obtain ⟨old, hold, hkept⟩ : ∃ old, db.assignments.find? id = some old ∧
        (a = old ∨ Ended old a) := by
      rw [find?_endClientRelationships] at ha
      obtain ⟨old, hold, rfl⟩ := Option.map_eq_some_iff.mp ha
      refine ⟨old, hold, ?_⟩
      split
      · rename_i hcond
        exact .inr ⟨hcond.2, _, _, rfl⟩
      · exact .inl rfl
    have hold' : old.startReason ≠ .invitation → db.validPrevious old = true ∧
        db.completesRequest old = true := h.previous id old hold
    have hcompletes : db.completesRequest old = true →
        (endClientRelationshipsForDeletion db clientUserId now).completesRequest old = true := by
      intro hbefore
      obtain ⟨r, hr, hcond⟩ := List.any_eq_true.mp hbefore
      refine List.any_eq_true.mpr ⟨r, List.mem_map.mpr ⟨r, hr, ?_⟩, hcond⟩
      have hdone : r.status = .completed := by
        simp only [Bool.and_eq_true, decide_eq_true_eq] at hcond
        exact hcond.2
      simp [hdone]
    rcases hkept with rfl | ⟨-, _, _, rfl⟩
    · obtain ⟨hprevious, hdone⟩ := hold' hreason
      exact ⟨hgrown.validPrevious hprevious, hcompletes hdone⟩
    · obtain ⟨hprevious, hdone⟩ := hold' hreason
      exact ⟨hgrown.validPrevious hprevious, hcompletes hdone⟩
  -- A request of the client is cancelled, and stays founded.
  · unfold endClientRelationshipsForDeletion at hr
    rw [Table.find?_modify] at hr
    obtain ⟨old, hold, rfl⟩ := Option.map_eq_some_iff.mp hr
    have hfounded : (endClientRelationshipsForDeletion db clientUserId now).Founded old :=
      (h.requests id old hold).grown hgrown fun _ _ hb => hb
    split
    · refine ⟨hfounded.source, hfounded.trigger, hfounded.block, fun hdone => (by cases hdone), ?_⟩
      simp [Db.validResult]
    · exact hfounded

/-- **The deletion of an account.** Unless a busy cashier is deleted, the rows
stand by each other. -/
theorem transaction_deleteUser {userId : Uuid}
    (hgood : good → ¬ Operation.DeletesBusyCashier db (.deleteUser userId))
    (h : deleteUser db userId reads draws = .ok (db', reassignments)) :
    Transaction good (fun other => db.subscribed other clock = true) clock
      (Operation.ends db reads (.deleteUser userId)) reassignments db db' := by
  obtain ⟨user, huser, h⟩ := bind_eq_ok.mp h
  obtain ⟨_, -, h⟩ := bind_eq_ok.mp h
  obtain ⟨_, -, h⟩ := bind_eq_ok.mp h
  obtain ⟨_, -, h⟩ := bind_eq_ok.mp h
  obtain ⟨⟨after, done⟩, hdone, h⟩ := bind_eq_ok.mp h
  cases h
  have hfind := orThrow_eq_ok.mp huser
  have hid : user.id = userId := (Table.find?_eq_some.mp hfind).2
  have hrole : ∀ other, db.users.find? userId = some other → other = user := fun other hother => by
    simpa using hother.symm.trans hfind
  unfold endRelationships at hdone
  split at hdone
  -- A client's own relationship ends, and no other.
  · rename_i hclient
    cases hdone
    rw [hid]
    have hends : ∀ a, Operation.ends db reads (.deleteUser userId) a ↔
        a.clientUserId = userId ∧ a.endedAt = none := by
      intro a
      constructor
      · rintro ⟨hactive, other, hother, ⟨-, ha⟩ | ⟨hcashier, -⟩⟩
        · exact ⟨ha, hactive⟩
        · rw [hrole other hother, hclient] at hcashier
          cases hcashier
      · rintro ⟨ha, hactive⟩
        exact ⟨hactive, user, hfind, .inl ⟨hclient, ha⟩⟩
    refine ⟨⟨fun id a ha => ?_, fun id a ha hnone => ?_, by simp, fun id c hc =>
      conversation_endClientRelationships userId (reads 0) hc, fun _ _ hb => hb, by simp⟩,
      fun _ hbefore => (hbefore.endClientRelationships userId).congr rfl rfl rfl rfl, fun _ => by simp,
      fun _ _ => rfl, fun b hb => .inl (isSome_of_mem hb), fun r hr => .inl (isSome_of_mem hr)⟩
    · rw [hends]
      have hrow := @find?_endClientRelationships db (reads 0) userId id
      rw [ha] at hrow
      by_cases hcond : a.clientUserId = userId ∧ a.endedAt = none
      · exact ⟨_, hrow.trans (congrArg some (if_pos hcond)), .inl ⟨hcond, hcond.2, _, _, rfl⟩⟩
      · exact ⟨_, hrow.trans (congrArg some (if_neg hcond)), .inr ⟨hcond, rfl⟩⟩
    · have hafter := (@find?_endClientRelationships db (reads 0) userId id).symm.trans ha
      rw [hnone] at hafter
      cases hafter
  -- A cashier's clients are reassigned.
  · rename_i hcashier
    obtain ⟨⟨mid, done'⟩, hmid, hdone⟩ := bind_eq_ok.mp hdone
    obtain ⟨cashierProfiles, -, hdone⟩ := bind_eq_ok.mp hdone
    cases hdone
    obtain ⟨hchain, -⟩ := reassigned_reassign (running_activeAssignments _) hmid
    have hends : ∀ id a, db.assignments.find? id = some a → (a ∈ (db.activeAssignments fun
        assignment => assignment.cashierUserId = user.id) ↔
          Operation.ends db reads (.deleteUser userId) a) := by
      intro id a ha
      rw [mem_activeAssignments, hid, decide_eq_true_eq]
      constructor
      · rintro ⟨-, hcashier', hactive⟩
        exact ⟨hactive, user, hfind, .inr ⟨hcashier, hcashier'⟩⟩
      · rintro ⟨hactive, other, hother, ⟨hclient, -⟩ | ⟨-, hcashier'⟩⟩
        · rw [hrole other hother, hcashier] at hclient
          cases hclient
        · exact ⟨(Table.find?_eq_some.mp ha).1, hcashier', hactive⟩
    have hmoved := hchain.moved.of_iff hends
    -- Where the deletion is good the cashier has no clients, so nothing moves.
    have hidle : good → (db.activeAssignments fun assignment =>
        assignment.cashierUserId = user.id) = [] := by
      refine fun hg => List.eq_nil_iff_forall_not_mem.mpr fun a ha => ?_
      obtain ⟨ha, hcashier', hactive⟩ := mem_activeAssignments.mp ha
      exact hgood hg ⟨⟨user, hfind, hcashier⟩, a, ha, hid ▸ of_decide_eq_true hcashier', hactive⟩
    have hsame : good → mid = db ∧ done' = [] := by
      intro hg
      unfold reassignCashierClients at hmid
      rw [hidle hg] at hmid
      cases hmid
      exact ⟨rfl, rfl⟩
    refine ⟨⟨hmoved.kept, hmoved.opened, hmoved.reported, hmoved.conversations, hmoved.blocks,
      hmoved.chosen⟩, fun hg hbefore => ?_, fun hg => ?_, fun hg hsome => ?_, fun b hb =>
      .inl (isSome_of_mem (hchain.frame.blocks ▸ hb)), fun r hr =>
      .inl (isSome_of_mem (hchain.frame.reports ▸ hr))⟩
    · obtain ⟨rfl, -⟩ := hsame hg
      exact hbefore.congr rfl rfl rfl rfl
    · obtain ⟨-, rfl⟩ := hsame hg
      simp
    · obtain ⟨id, a, ha, hend⟩ := hsome
      have hmem := (hends id a ha).mpr hend
      rw [hidle hg] at hmem
      cases hmem
  · rename_i hadmin
    cases hdone
    refine .of_same rfl rfl rfl rfl rfl ?_
    rintro id a - ⟨-, other, hother, ⟨hclient, -⟩ | ⟨hcashier, -⟩⟩
    · rw [hrole other hother, hadmin] at hclient
      cases hclient
    · rw [hrole other hother, hadmin] at hcashier
      cases hcashier

/-! ## All operations -/

/-- The operation manages relationships or what they rest on; registering a
client begins one from an invitation. -/
def Operation.Registers : Operation → Prop
  | .registerClient _ _ => True
  | _ => False

/-- **Every operation but the registration of a client is a transaction** that
ends the assignments it names. -/
theorem Operation.transaction {operation : Operation} (hregisters : ¬ operation.Registers)
    (hone : ∀ c, db.held c ≤ 1) (hclock : ∀ i, reads i ≤ clock)
    (h : operation.run db reads draws = .ok (db', reassignments)) :
    Transaction (¬ operation.DeletesBusyCashier db)
      (fun cashierUserId => operation.KeepsSubscribed db clock cashierUserId) clock
      (operation.ends db reads) reassignments db db' := by
  cases operation with
  -- The operations that change no relationship leave the tables as they are.
  | registerClient => exact absurd trivial hregisters
  | registerCashier =>
    obtain ⟨users, -, h⟩ := bind_eq_ok.mp h
    obtain ⟨cashierProfiles, -, h⟩ := bind_eq_ok.mp h
    cases h
    exact .of_same rfl rfl rfl rfl rfl fun _ _ _ => not_false
  | rotateInvitation =>
    obtain ⟨_, -, h⟩ := bind_eq_ok.mp h
    obtain ⟨invitations, -, h⟩ := bind_eq_ok.mp h
    cases h
    exact .of_same rfl rfl rfl rfl rfl fun _ _ _ => not_false
  -- Each of the others is a transaction of its own kind.
  | blockClient => exact transaction_blockClient hone hclock h
  | reportCashier => exact transaction_reportCashier (hclock 0) h
  | reassignAdministrative =>
    exact transaction_reassignAdministrative hone (hclock 0) h
  | reassignAssignmentAdministrative =>
    exact transaction_reassignAssignmentAdministrative (hclock 0) h
  | reconcilePendingReassignments =>
    exact transaction_reconcilePendingReassignments (hclock 1)
      h
  | reconcileNextExpiredSubscription =>
    exact transaction_reconcileNextExpiredSubscription hclock h
  | deleteUser => exact transaction_deleteUser id h
  | suspend => exact transaction_suspend hclock h
  | reactivate => exact transaction_reactivate hclock h
  | resetPassword =>
    obtain ⟨user, -, h⟩ := bind_eq_ok.mp h
    obtain ⟨_, -, h⟩ := bind_eq_ok.mp h
    obtain ⟨_, -, h⟩ := bind_eq_ok.mp h
    obtain ⟨_, -, h⟩ := bind_eq_ok.mp h
    cases h
    exact .of_same rfl rfl rfl rfl rfl fun _ _ _ => not_false
  | completeAdminReset =>
    obtain ⟨user, -, h⟩ := bind_eq_ok.mp h
    obtain ⟨_, -, h⟩ := bind_eq_ok.mp h
    cases h
    exact .of_same rfl rfl rfl rfl rfl fun _ _ _ => not_false
  | approveCashier => exact transaction_approveCashier hclock h
  | updateContact =>
    obtain ⟨user, -, h⟩ := bind_eq_ok.mp h
    obtain ⟨_, -, h⟩ := bind_eq_ok.mp h
    obtain ⟨_, -, h⟩ := bind_eq_ok.mp h
    obtain ⟨_, -, h⟩ := bind_eq_ok.mp h
    obtain ⟨profile, -, h⟩ := bind_eq_ok.mp h
    obtain ⟨cashierProfiles, -, h⟩ := bind_eq_ok.mp h
    cases h
    exact .of_same rfl rfl rfl rfl rfl fun _ _ _ => not_false
  | activateSubscription =>
    exact transaction_activateSubscription hclock h
  | deactivateSubscription =>
    exact transaction_deactivateSubscription hclock h
  | changeDeviceSet =>
    obtain ⟨_, -, h⟩ := bind_eq_ok.mp h
    cases h
    exact .of_same rfl rfl rfl rfl rfl fun _ _ _ => not_false
  | publishFirstDevice =>
    obtain ⟨_, -, h⟩ := bind_eq_ok.mp h
    obtain ⟨_, -, h⟩ := bind_eq_ok.mp h
    cases h
    exact .of_same rfl rfl rfl rfl rfl fun _ _ _ => not_false

/-- **A registration** opens an assignment from its invitation and keeps the
tables consistent. -/
theorem consistent_registerClient {clientUserId invitationId : Uuid} (hbefore : Consistent db)
    (h : registerClient db clientUserId invitationId now draw = .ok (db', reassignments)) :
    Consistent db' ∧ ∀ id a, db'.assignments.find? id = some a →
      db.assignments.find? id = some a ∨ a.startReason = .invitation := by
  obtain ⟨invitation, -, h⟩ := bind_eq_ok.mp h
  obtain ⟨users, -, h⟩ := bind_eq_ok.mp h
  obtain ⟨assignments, hassignments, h⟩ := bind_eq_ok.mp h
  obtain ⟨conversations, hconversations, h⟩ := bind_eq_ok.mp h
  obtain ⟨hassignment, rfl⟩ := Table.create_eq_ok.mp hassignments
  obtain ⟨hconversation, rfl⟩ := Table.create_eq_ok.mp hconversations
  cases h
  have hgrown : ∀ after : Db, (∀ id, after.assignments.find? id =
      if draw.assignmentId = id then some ⟨draw.assignmentId, clientUserId,
        invitation.cashierUserId, some invitationId, none, .invitation, now, none, none⟩
      else db.assignments.find? id) → Grown db after := by
    intro after hafter id a ha
    have hne : draw.assignmentId ≠ id := by
      rintro rfl
      rw [ha] at hassignment
      cases hassignment
    exact ⟨a, by rw [hafter, if_neg hne, ha], .inl rfl⟩
  refine ⟨⟨fun id => ?_, fun id a ha hreason => ?_, fun id r hr => ?_⟩, fun id a ha => ?_⟩
  · by_cases hid : draw.assignmentId = id
    · simp [Table.find?_insert, hid, conversationStatus]
    · simpa [Table.find?_insert, hid] using hbefore.conversations id
  · by_cases hid : draw.assignmentId = id
    · simp only [Table.find?_insert, hid, if_true, Option.some.injEq] at ha
      exact absurd (by rw [← ha]) hreason
    · have ha' : db.assignments.find? id = some a := by
        simpa [Table.find?_insert, hid] using ha
      obtain ⟨hprevious, hcompletes⟩ := hbefore.previous id a ha' hreason
      exact ⟨(hgrown _ fun _ => Table.find?_insert (h := hassignment)).validPrevious hprevious,
        hcompletes⟩
  · exact (hbefore.requests id r hr).grown
      (hgrown _ fun _ => Table.find?_insert (h := hassignment)) fun _ _ hb => hb
  · by_cases hid : draw.assignmentId = id
    · simp only [Table.find?_insert, hid, if_true, Option.some.injEq] at ha
      exact .inr (by rw [← ha])
    · exact .inl (by simpa [Table.find?_insert, hid] using ha)

end Attendance

end SinoChat
