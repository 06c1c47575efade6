import SinoChat.Model.Invitations
import SinoChat.Attendance.Commit
import SinoChat.Attendance.Script

/-!
# Origins that stay valid

An invitation assignment can end as long as its invitation is not revoked, by
its times, before the assignment began. A rotation that read the clock before
a registration began may commit after it began and revoke its invitation as of
the earlier time. Rotations that commit with a reading no earlier than every
such start keep all origins valid, whatever else interleaves.
-/

namespace SinoChat

namespace Attendance

variable {db db' : Db} {now clock : ℕ} {draw : Draw} {reads : ℕ → ℕ} {draws : ℕ → Draw}

/-! ## The operations, by their tables -/

/-- The assignment of a registration. -/
def registration (clientUserId : Uuid) (invitation : CashierInvitation) (invitationId : Uuid)
    (startedAt : ℕ) (draw : Draw) : Assignment :=
  { id := draw.assignmentId, clientUserId, cashierUserId := invitation.cashierUserId
    invitationId := some invitationId, previousAssignmentId := none, startReason := .invitation
    startedAt, endedAt := none, endReason := none }

/-- **What a registration rests on.** -/
theorem registerClient_eq_ok {clientUserId invitationId : Uuid}
    {reassignments : List Reassignment}
    (h : registerClient db clientUserId invitationId now draw = .ok (db', reassignments)) :
    ∃ invitation, db.invitations.find? invitationId = some invitation ∧
      db.users.find? clientUserId = none ∧
      (∀ k, k ≠ clientUserId → db'.users.find? k = db.users.find? k) ∧
      db.assignments.find? draw.assignmentId = none ∧
      (∀ a, a ∈ db'.assignments ↔
        a ∈ db.assignments ∨ a = registration clientUserId invitation invitationId now draw) ∧
      db'.invitations = db.invitations := by
  obtain ⟨invitation, hinvitation, h⟩ := bind_eq_ok.mp h
  obtain ⟨users, husers, h⟩ := bind_eq_ok.mp h
  obtain ⟨assignments, hassignments, h⟩ := bind_eq_ok.mp h
  obtain ⟨conversations, hconversations, h⟩ := bind_eq_ok.mp h
  obtain ⟨hnew, rfl⟩ := Table.create_eq_ok.mp husers
  obtain ⟨hassignment, rfl⟩ := Table.create_eq_ok.mp hassignments
  cases h
  refine ⟨invitation, orThrow_eq_ok.mp hinvitation, hnew, fun k hk => ?_, hassignment, fun a =>
    Table.mem_insert (h := hassignment), rfl⟩
  rw [Table.find?_insert, if_neg (Ne.symm hk)]

/-- Revoking changes the open invitations of the cashier. -/
theorem find?_revokeInvitations (cashierUserId id : Uuid) :
    (db.revokeInvitations cashierUserId now).invitations.find? id =
      (db.invitations.find? id).map fun i =>
        if i.cashierUserId = cashierUserId ∧ i.revokedAt = none then { i with revokedAt := some now }
        else i := by
  unfold Db.revokeInvitations
  rw [Table.find?_modify]

/-- **What a rotation leaves of the invitations.** -/
theorem rotateInvitation_eq_ok {cashierUserId invitationId : Uuid}
    {reassignments : List Reassignment}
    (h : rotateInvitation db cashierUserId invitationId now = .ok (db', reassignments)) :
    db'.users = db.users ∧ db'.assignments = db.assignments ∧
      ∀ id i, db.invitations.find? id = some i → db'.invitations.find? id = some
        (if i.cashierUserId = cashierUserId ∧ i.revokedAt = none then { i with revokedAt := some now }
        else i) := by
  obtain ⟨_, -, h⟩ := bind_eq_ok.mp h
  obtain ⟨invitations, hinvitations, h⟩ := bind_eq_ok.mp h
  obtain ⟨hnew, rfl⟩ := Table.create_eq_ok.mp hinvitations
  cases h
  refine ⟨rfl, rfl, fun id i hi => ?_⟩
  have hfind := @find?_revokeInvitations db now cashierUserId id
  rw [hi] at hfind
  have hne : invitationId ≠ id := by
    rintro rfl
    rw [hfind] at hnew
    cases hnew
  rw [Table.find?_insert, if_neg hne]
  exact hfind

/-- The deletion of a cashier that commits leaves the assignments, revokes the
open invitations and marks the account. -/
theorem deleteUser_eq_ok {cashierUserId : Uuid} {user : User} {reassignments : List Reassignment}
    (hfind : db.users.find? cashierUserId = some user) (hcashier : user.role = .cashier)
    (hcheck : commitChecks clock db db' = true)
    (h : deleteUser db cashierUserId reads draws = .ok (db', reassignments)) :
    db'.assignments = db.assignments ∧
      db'.invitations = (db.revokeInvitations cashierUserId (reads 0)).invitations ∧
      (∀ k, k ≠ cashierUserId → db'.users.find? k = db.users.find? k) ∧
      ∃ user', db'.users.find? cashierUserId = some user' ∧ user'.status = .deleted := by
  have hidle : ¬ Operation.DeletesBusyCashier db (.deleteUser cashierUserId) := by
    intro hbusy
    have hfails : commitChecks clock db db' = false := not_commitChecks_of_busy hbusy h
    rw [hfails] at hcheck
    cases hcheck
  obtain ⟨other, hother, h⟩ := bind_eq_ok.mp h
  obtain ⟨_, -, h⟩ := bind_eq_ok.mp h
  obtain ⟨_, -, h⟩ := bind_eq_ok.mp h
  obtain ⟨_, -, h⟩ := bind_eq_ok.mp h
  obtain ⟨⟨last, done⟩, hdone, h⟩ := bind_eq_ok.mp h
  cases h
  obtain rfl : other = user := by simpa using (orThrow_eq_ok.mp hother).symm.trans hfind
  have hid : other.id = cashierUserId := (Table.find?_eq_some.mp hfind).2
  unfold endRelationships at hdone
  rw [hcashier] at hdone
  obtain ⟨⟨mid, done'⟩, hmid, hdone⟩ := bind_eq_ok.mp hdone
  obtain ⟨cashierProfiles, -, hdone⟩ := bind_eq_ok.mp hdone
  cases hdone
  have hnone : (db.activeAssignments fun assignment => assignment.cashierUserId = other.id) = [] := by
    refine List.eq_nil_iff_forall_not_mem.mpr fun a ha => ?_
    obtain ⟨ha, hattends, hactive⟩ := mem_activeAssignments.mp ha
    exact hidle ⟨⟨other, hfind, hcashier⟩, a, ha, hid ▸ of_decide_eq_true hattends, hactive⟩
  unfold reassignCashierClients at hmid
  rw [hnone] at hmid
  cases hmid
  rw [hid]
  refine ⟨rfl, rfl, fun k hk => ?_, { other with
    status := .deleted, suspensionReasonCode := none }, ?_, rfl⟩
  · simp [Db.setUser, Table.find?_update, hk, Db.revokeInvitations, Db.endSubscriptions]
  · simp [Db.setUser, Table.find?_update, hfind, Db.revokeInvitations, Db.endSubscriptions]

/-! ## What running transactions rely on -/

/-- An invitation of a snapshot, for a registration that began at `startedAt`:
it is still not revoked before that, or its cashier has been deleted. -/
def Followed (db : Db) (invitation : CashierInvitation) (startedAt : ℕ) : Prop :=
  ∃ current, db.invitations.find? invitation.id = some current ∧
    current.cashierUserId = invitation.cashierUserId ∧
    (∀ revokedAt, invitation.revokedAt = some revokedAt → current.revokedAt = some revokedAt) ∧
    (invitation.revokedAt = none →
      (∀ revokedAt, current.revokedAt = some revokedAt → startedAt ≤ revokedAt) ∨
      ∃ user, db.users.find? invitation.cashierUserId = some user ∧ user.status = .deleted)

/-- What a phase relies on. -/
def Phase.Sound (clock : ℕ) (db : Db) : Phase → Prop
  | .registering _ invitationId startedAt snapshot => startedAt ≤ clock ∧
      ∀ invitation, snapshot.invitations.find? invitationId = some invitation →
        Followed db invitation startedAt
  | .deleting _ snapshot now => ∀ a ∈ snapshot.assignments, a.startedAt ≤ now.getD clock
  | _ => True

/-- **The invariant.** -/
structure InvitationInv (w : InvitationWorld) : Prop where
  origins : ∀ a ∈ w.db.assignments, a.startReason = .invitation →
    w.db.validInvitation a a.startedAt = true
  started : ∀ a ∈ w.db.assignments, a.startedAt ≤ w.clock
  phases : ∀ n phase, w.phase n = some phase → phase.Sound w.clock w.db

variable {w w' : InvitationWorld} {n : ℕ} {phase : Phase}

theorem phase_starts {h : w.running.find? n = none} {m : ℕ} :
    (w.starts n phase h).phase m = if n = m then some phase else w.phase m := by
  unfold InvitationWorld.phase InvitationWorld.starts
  dsimp only
  rw [Table.find?_insert]
  split
  · rfl
  · rfl

theorem phase_moves {m : ℕ} {other : Phase} (h : (w.moves n phase).phase m = some other) :
    other = phase ∨ w.phase m = some other := by
  unfold InvitationWorld.phase InvitationWorld.moves at h
  dsimp only at h
  rw [Table.find?_update] at h
  split at h
  · obtain ⟨r, hr, rfl⟩ := Option.map_eq_some_iff.mp h
    obtain ⟨r', -, rfl⟩ := Option.map_eq_some_iff.mp hr
    exact .inl rfl
  · exact .inr h

theorem phase_ends {m : ℕ} {other : Phase} (h : (w.ends n db).phase m = some other) :
    w.phase m = some other := by
  unfold InvitationWorld.phase InvitationWorld.ends at h
  dsimp only at h
  rw [Table.find?_remove] at h
  split at h
  · cases h
  · exact h

/-- The invariant when a transaction starts. -/
theorem InvitationInv.starts (h : InvitationInv w) {hfree : w.running.find? n = none}
    (hphase : phase.Sound w.clock w.db) : InvitationInv (w.starts n phase hfree) := by
  refine ⟨h.origins, h.started, fun m other hother => ?_⟩
  rw [phase_starts] at hother
  split at hother
  · cases hother
    exact hphase
  · exact h.phases m other hother

/-- The invariant when it goes on. -/
theorem InvitationInv.moves (h : InvitationInv w) (hphase : phase.Sound w.clock w.db) :
    InvitationInv (w.moves n phase) := by
  refine ⟨h.origins, h.started, fun m other hother => ?_⟩
  rcases phase_moves hother with rfl | hother
  · exact hphase
  · exact h.phases m other hother

/-- The tables change under the other transactions. -/
theorem InvitationInv.ends (h : InvitationInv w)
    (horigins : ∀ a ∈ db.assignments, a.startReason = .invitation →
      db.validInvitation a a.startedAt = true)
    (hstarted : ∀ a ∈ db.assignments, a.startedAt ≤ w.clock)
    (hfollowed : ∀ m clientUserId invitationId startedAt snapshot,
      w.phase m = some (.registering clientUserId invitationId startedAt snapshot) →
      ∀ invitation, snapshot.invitations.find? invitationId = some invitation →
        Followed w.db invitation startedAt → Followed db invitation startedAt) :
    InvitationInv (w.ends n db) := by
  refine ⟨horigins, hstarted, fun m other hother => ?_⟩
  have hold := phase_ends hother
  have hsound := h.phases m other hold
  cases other with
  | registering clientUserId invitationId startedAt snapshot =>
    exact ⟨hsound.1, fun invitation hfind =>
      hfollowed m _ _ _ _ hold invitation hfind (hsound.2 invitation hfind)⟩
  | deleting => exact hsound
  | found => trivial
  | rotating => trivial

/-- A valid origin, by its invitation. -/
theorem validInvitation_iff {a : Assignment} {limit : ℕ} :
    db.validInvitation a limit = true ↔ ∃ invitation,
      a.invitationId.bind db.invitations.find? = some invitation ∧
        (∀ revokedAt, invitation.revokedAt = some revokedAt → limit ≤ revokedAt) ∧
        invitation.cashierUserId = a.cashierUserId := by
  unfold Db.validInvitation
  rw [Option.any_eq_true]
  refine exists_congr fun invitation => and_congr_right fun _ => ?_
  rw [Bool.and_eq_true, decide_eq_true_eq, Option.all_eq_true]
  simp

/-! ## Commits -/

/-- **A registration** is valid against the current tables, because what its
snapshot showed has been followed. -/
theorem InvitationInv.register (h : InvitationInv w) {clientUserId invitationId : Uuid}
    {startedAt : ℕ} {snapshot mine : Db} {invitation : CashierInvitation}
    (hphase : w.phase n = some (.registering clientUserId invitationId startedAt snapshot))
    (hmine : registerClient snapshot clientUserId invitationId startedAt draw = .ok (mine, []))
    (hcheck : commitChecks w.clock snapshot mine = true)
    (hfind : snapshot.invitations.find? invitationId = some invitation)
    (huser : w.db.users.find? invitation.cashierUserId =
      snapshot.users.find? invitation.cashierUserId)
    (hrun : registerClient w.db clientUserId invitationId startedAt draw = .ok (db', [])) :
    InvitationInv (w.ends n db') := by
  obtain ⟨hstart, hfollowed⟩ := h.phases n _ hphase
  have hid : invitation.id = invitationId := (Table.find?_eq_some.mp hfind).2
  obtain ⟨current, hcurrent, hcashier, hrevoked, hopen⟩ := hfollowed invitation hfind
  obtain ⟨seen, hseen, hclient, husers, hfresh, hmineRows, hmineInvitations⟩ :=
    registerClient_eq_ok hmine
  obtain rfl : seen = invitation := by simpa using hseen.symm.trans hfind
  obtain ⟨mineCurrent, hmineCurrent, hclient', husers', -, hrows, hinvitations⟩ :=
    registerClient_eq_ok hrun
  obtain rfl : mineCurrent = current :=
    Option.some_inj.mp (hmineCurrent.symm.trans (hid ▸ hcurrent))
  -- the trigger's view of the new row
  have hnew : Attendance.commitsAssignment w.clock snapshot mine
      (registration clientUserId seen invitationId startedAt draw) = true := by
    unfold Attendance.commitChecks at hcheck
    simp only [Bool.and_eq_true] at hcheck
    exact List.all_eq_true.mp hcheck.1.1.1.1 _ ((hmineRows _).mpr (.inr rfl))
  unfold Attendance.commitsAssignment at hnew
  rw [show snapshot.assignments.find? (registration clientUserId seen invitationId startedAt
    draw).id = none from hfresh] at hnew
  simp only [Db.validateNewAssignmentOrigin, registration, if_true, Bool.and_eq_true] at hnew
  obtain ⟨⟨⟨-, hassignee⟩, horigin⟩, -⟩ := hnew
  refine h.ends (fun a ha hreason => ?_) (fun a ha => ?_) fun m _ _ _ _ _ other _ hother => ?_
  · rcases (hrows a).mp ha with ha | rfl
    · obtain ⟨i, hi, hvalid⟩ := validInvitation_iff.mp (h.origins a ha hreason)
      exact validInvitation_iff.mpr ⟨i, by rw [hinvitations]; exact hi, hvalid⟩
    · refine validInvitation_iff.mpr ⟨mineCurrent, ?_, fun revokedAt hat => ?_, rfl⟩
      · rw [hinvitations]
        exact hmineCurrent
      · cases hseenAt : seen.revokedAt with
        | some limit =>
          obtain ⟨i, hi, hlimit, -⟩ := validInvitation_iff.mp horigin
          have hi' : seen = i := by
            rw [hmineInvitations] at hi
            simpa using hseen.symm.trans hi
          have hsame : revokedAt = limit := by simpa using hat.symm.trans (hrevoked limit hseenAt)
          have hle := hlimit limit (hi' ▸ hseenAt)
          have hstart' : startedAt ≤ w.clock := hstart
          change startedAt ≤ revokedAt
          omega
        | none =>
          rcases hopen hseenAt with hlate | ⟨user, huser', hdeleted⟩
          · exact hlate revokedAt hat
          · exfalso
            rw [huser] at huser'
            have hne : seen.cashierUserId ≠ clientUserId := by
              intro heq
              rw [heq, hclient] at huser'
              cases huser'
            have havailable : mine.availableUser seen.cashierUserId = true := by
              simp only [Db.validAssignee, Bool.and_eq_true] at hassignee
              exact hassignee.1.1
            unfold Db.availableUser at havailable
            rw [husers _ hne, huser'] at havailable
            simp [hdeleted] at havailable
  · rcases (hrows a).mp ha with ha | rfl
    · exact h.started a ha
    · exact hstart
  · obtain ⟨i, hi, hsame, hat, hlate⟩ := hother
    refine ⟨i, by rw [hinvitations]; exact hi, hsame, hat, fun hnone => ?_⟩
    rcases hlate hnone with hlate | ⟨user, huser', hdeleted⟩
    · exact .inl hlate
    · refine .inr ⟨user, ?_, hdeleted⟩
      have hne : other.cashierUserId ≠ clientUserId := by
        intro heq
        rw [heq, hclient'] at huser'
        cases huser'
      rw [husers' _ hne]
      exact huser'

/-- Revoking as of `now` leaves what is followed, unless the registration began later. -/
theorem Followed.revoke {cashierUserId : Uuid} {invitation : CashierInvitation} {startedAt : ℕ}
    (h : Followed db invitation startedAt)
    (hinvitations : ∀ id i, db.invitations.find? id = some i → db'.invitations.find? id = some
      (if i.cashierUserId = cashierUserId ∧ i.revokedAt = none then { i with revokedAt := some now }
      else i))
    (hlate : ∀ i, db.invitations.find? invitation.id = some i → i.cashierUserId = cashierUserId →
      i.revokedAt = none → startedAt ≤ now ∨
        ∃ user, db'.users.find? invitation.cashierUserId = some user ∧ user.status = .deleted)
    (hdeleted : ∀ user, db.users.find? invitation.cashierUserId = some user →
      user.status = .deleted →
      ∃ user', db'.users.find? invitation.cashierUserId = some user' ∧ user'.status = .deleted) :
    Followed db' invitation startedAt := by
  obtain ⟨current, hcurrent, hcashier, hrevoked, hopen⟩ := h
  have hnow := hinvitations _ current hcurrent
  by_cases hrevokes : current.cashierUserId = cashierUserId ∧ current.revokedAt = none
  · rw [if_pos hrevokes] at hnow
    refine ⟨_, hnow, hcashier, fun revokedAt hat => ?_, fun hnone => ?_⟩
    · rw [hrevoked revokedAt hat] at hrevokes
      cases hrevokes.2
    · rcases hlate current hcurrent hrevokes.1 hrevokes.2 with hle | hgone
      · refine .inl fun revokedAt hat => ?_
        cases hat
        exact hle
      · exact .inr hgone
  · rw [if_neg hrevokes] at hnow
    refine ⟨current, hnow, hcashier, hrevoked, fun hnone => ?_⟩
    rcases hopen hnone with hle | ⟨user, huser, hgone⟩
    · exact .inl hle
    · exact .inr (hdeleted user huser hgone)

/-- Origins stay valid when what is revoked is revoked no earlier than it began. -/
theorem origins_revoke {cashierUserId : Uuid}
    (horigins : ∀ a ∈ db.assignments, a.startReason = .invitation →
      db.validInvitation a a.startedAt = true)
    (hassignments : db'.assignments = db.assignments)
    (hinvitations : ∀ id i, db.invitations.find? id = some i → db'.invitations.find? id = some
      (if i.cashierUserId = cashierUserId ∧ i.revokedAt = none then { i with revokedAt := some now }
      else i))
    (hlate : ∀ a ∈ db.assignments, a.startReason = .invitation → ∀ i,
      a.invitationId.bind db.invitations.find? = some i → i.cashierUserId = cashierUserId →
      i.revokedAt = none → a.startedAt ≤ now) :
    ∀ a ∈ db'.assignments, a.startReason = .invitation →
      db'.validInvitation a a.startedAt = true := by
  intro a ha hreason
  rw [hassignments] at ha
  obtain ⟨i, hi, hlimit, hcashier⟩ := validInvitation_iff.mp (horigins a ha hreason)
  obtain ⟨id, hid, hfind⟩ := Option.bind_eq_some_iff.mp hi
  have hnow := hinvitations id i hfind
  refine validInvitation_iff.mpr ⟨_, by rw [hid]; exact hnow, fun revokedAt hat => ?_, ?_⟩
  · by_cases hrevokes : i.cashierUserId = cashierUserId ∧ i.revokedAt = none
    · rw [if_pos hrevokes] at hat
      cases hat
      exact hlate a ha hreason i hi hrevokes.1 hrevokes.2
    · rw [if_neg hrevokes] at hat
      exact hlimit revokedAt hat
  · split
    · exact hcashier
    · exact hcashier

/-- **The reading of the rotation is no earlier** than the start of any
registration, committed or running, from an open invitation of its cashier. -/
def Punctual (w : InvitationWorld) : InvitationAction → Prop
  | .rotated n => ∀ cashierUserId invitationId now,
      w.phase n = some (.rotating cashierUserId invitationId now) →
      (∀ a ∈ w.db.assignments, a.startReason = .invitation → ∀ i,
        a.invitationId.bind w.db.invitations.find? = some i → i.cashierUserId = cashierUserId →
        i.revokedAt = none → a.startedAt ≤ now) ∧
      ∀ m clientUserId used startedAt snapshot,
        w.phase m = some (.registering clientUserId used startedAt snapshot) → ∀ i,
        w.db.invitations.find? used = some i → i.cashierUserId = cashierUserId →
        i.revokedAt = none → startedAt ≤ now
  | _ => True

/-- The invariant when a rotation commits. -/
theorem InvitationInv.rotate (h : InvitationInv w) {cashierUserId invitationId : Uuid}
    (hphase : w.phase n = some (.rotating cashierUserId invitationId now))
    (hrun : rotateInvitation w.db cashierUserId invitationId now = .ok (db', []))
    (hpunctual : Punctual w (.rotated n)) : InvitationInv (w.ends n db') := by
  obtain ⟨hcommitted, hrunning⟩ := hpunctual _ _ _ hphase
  obtain ⟨husers, hassignments, hinvitations⟩ := rotateInvitation_eq_ok hrun
  refine h.ends (origins_revoke h.origins hassignments hinvitations hcommitted) (fun a ha => ?_)
    fun m clientUserId used startedAt snapshot hm invitation hfind hfollowed => ?_
  · exact h.started a (hassignments ▸ ha)
  · refine hfollowed.revoke hinvitations (fun i hi hcashier hopen => .inl ?_) fun user huser hgone =>
      ⟨user, husers ▸ huser, hgone⟩
    have hid : invitation.id = used := (Table.find?_eq_some.mp hfind).2
    exact hrunning m clientUserId used startedAt snapshot hm i (hid ▸ hi) hcashier hopen

/-- The invariant when a deletion commits. -/
theorem InvitationInv.delete (h : InvitationInv w) {cashierUserId : Uuid} {snapshot : Db}
    {user : User} {reassignments : List Reassignment}
    (hphase : w.phase n = some (.deleting cashierUserId snapshot (some now)))
    (hfind : w.db.users.find? cashierUserId = some user) (hcashier : user.role = .cashier)
    (hsame : ∀ a, a.cashierUserId = cashierUserId →
      (a ∈ w.db.assignments ↔ a ∈ snapshot.assignments))
    (hrun : deleteUser w.db cashierUserId (fun _ => now) draws = .ok (db', reassignments))
    (hcheck : commitChecks w.clock w.db db' = true) : InvitationInv (w.ends n db') := by
  obtain ⟨hassignments, hrevoked, husers, hdeleted⟩ := deleteUser_eq_ok hfind hcashier hcheck hrun
  have hseen : ∀ a ∈ snapshot.assignments, a.startedAt ≤ now := h.phases n _ hphase
  have hinvitations : ∀ id i, w.db.invitations.find? id = some i →
      db'.invitations.find? id = some (if i.cashierUserId = cashierUserId ∧ i.revokedAt = none then
        { i with revokedAt := some now } else i) := by
    intro id i hi
    rw [hrevoked, find?_revokeInvitations, hi]
    rfl
  refine h.ends (origins_revoke h.origins hassignments hinvitations
    fun a ha hreason i hi howner _ => ?_) (fun a ha => ?_) fun m _ _ _ _ _ invitation _ hfollowed => ?_
  · obtain ⟨i', hi', -, howner'⟩ := validInvitation_iff.mp (h.origins a ha hreason)
    obtain rfl : i' = i := by simpa using hi'.symm.trans hi
    exact hseen a ((hsame a (howner'.symm.trans howner)).mp ha)
  · exact h.started a (hassignments ▸ ha)
  · have hkept : ∀ k user, w.db.users.find? k = some user → user.status = .deleted →
        ∃ user', db'.users.find? k = some user' ∧ user'.status = .deleted := by
      intro k other hother hgone
      by_cases hk : k = cashierUserId
      · subst hk
        exact hdeleted
      · exact ⟨other, (husers k hk).trans hother, hgone⟩
    refine hfollowed.revoke hinvitations (fun i hi howner _ => .inr ?_) fun other hother hgone =>
      hkept _ other hother hgone
    obtain ⟨current, hcurrent, howner', -⟩ := hfollowed
    obtain rfl : current = i := by simpa using hcurrent.symm.trans hi
    rw [← howner', howner]
    exact hdeleted

/-! ## The law -/

/-- The invariant along runs. -/
theorem invitationInv {trace : List InvitationAction}
    (h : (invitations.guarded Punctual).Run trace w) : InvitationInv w := by
  refine h.stateInvariant ?_ ?_
  · rintro w ⟨-, hassignments, hrunning⟩
    refine ⟨fun a ha => ?_, fun a ha => ?_, fun n phase hphase => ?_⟩
    · rw [hassignments] at ha
      cases ha
    · rw [hassignments] at ha
      cases ha
    · unfold InvitationWorld.phase at hphase
      rw [hrunning] at hphase
      cases hphase
  · rintro w action w' hinv ⟨hstep, hpunctual⟩
    cases hstep with
    | find hfree hinvitation => exact hinv.starts trivial
    | begin hphase =>
      refine hinv.moves ⟨le_rfl, fun invitation hfind => ?_⟩
      have hid := (Table.find?_eq_some.mp hfind).2
      refine ⟨invitation, hid ▸ hfind, rfl, fun _ hat => hat, fun hnone => .inl fun _ hat => ?_⟩
      rw [hnone] at hat
      cases hat
    | register hphase hmine hcheck hfind huser hrun =>
      exact hinv.register hphase hmine hcheck hfind huser hrun
    | retry hphase => exact hinv.moves trivial
    | readRotation hfree havailable => exact hinv.starts trivial
    | rotate hphase hcreated hrun => exact hinv.rotate hphase hrun hpunctual
    | beginDeletion hfree huser hcashier => exact hinv.starts hinv.started
    | @readDeletion n cashierUserId snapshot hphase =>
      have hsound := hinv.phases n _ hphase
      exact hinv.moves (by exact hsound)
    | delete hphase hlocked huser hcashier hassignments hinvitations hrun hcheck =>
      exact hinv.delete hphase huser hcashier hassignments hrun hcheck
    | abort => exact hinv.ends hinv.origins hinv.started fun _ _ _ _ _ _ _ _ hfollowed => hfollowed
    | @tick clock hle =>
      refine ⟨hinv.origins, fun a ha => (hinv.started a ha).trans hle, fun n phase hphase => ?_⟩
      have hsound := hinv.phases n phase hphase
      cases phase with
      | registering => exact ⟨hsound.1.trans hle, hsound.2⟩
      | deleting _ snapshot now =>
        cases now with
        | none => exact fun a ha => (hsound a ha).trans hle
        | some now => exact hsound
      | found => trivial
      | rotating => trivial

/-! ## Runs by scripts -/

/-- A move of a request, with what it reads. -/
inductive InvitationCommand where
  | wait (clock : ℕ)
  | find (n : ℕ) (clientUserId invitationId : Uuid)
  | begin (n : ℕ)
  | register (n : ℕ) (draw : Draw)
  | readRotation (n : ℕ) (cashierUserId invitationId : Uuid)
  | rotate (n : ℕ)

/-- The condition on a rotation, by the rows. -/
def InvitationWorld.punctual (w : InvitationWorld) (cashierUserId : Uuid) (now : ℕ) : Bool :=
  let within (invitationId : Uuid) (startedAt : ℕ) : Bool :=
    (w.db.invitations.find? invitationId).all fun i =>
      i.cashierUserId ≠ cashierUserId || i.revokedAt ≠ none || startedAt ≤ now
  (w.db.assignments.rows.all fun a => a.invitationId.all fun id => within id a.startedAt) &&
    w.running.rows.all fun r => match r.phase with
      | .registering _ used startedAt _ => within used startedAt
      | _ => true

/-- Carry out a command; under `guarded`, only punctual rotations. -/
def InvitationCommand.exec (guarded : Bool) (command : InvitationCommand) (w : InvitationWorld) :
    Option (InvitationAction × InvitationWorld) :=
  match command with
  | wait clock => if w.clock ≤ clock then some (.ticked, { w with clock }) else none
  | find n clientUserId invitationId =>
    if hfree : w.running.find? n = none then
      (w.db.findInvitation invitationId w.clock).map fun _ =>
        (.found n, w.starts n (.found clientUserId invitationId) hfree)
    else none
  | begin n =>
    match w.phase n with
    | some (.found clientUserId invitationId) =>
      some (.began n, w.moves n (.registering clientUserId invitationId w.clock w.db))
    | _ => none
  | register n draw =>
    match w.phase n with
    | some (.registering clientUserId invitationId startedAt snapshot) =>
      match registerClient snapshot clientUserId invitationId startedAt draw,
        snapshot.invitations.find? invitationId,
        registerClient w.db clientUserId invitationId startedAt draw with
      | .ok (mine, []), some invitation, .ok (db', []) =>
        if commitChecks w.clock snapshot mine = true ∧
          w.db.users.find? invitation.cashierUserId =
            snapshot.users.find? invitation.cashierUserId then
          some (.registered n, w.ends n db')
        else none
      | _, _, _ => none
    | _ => none
  | readRotation n cashierUserId invitationId =>
    if hfree : w.running.find? n = none then
      if (w.db.availableCashier cashierUserId && w.db.subscribed cashierUserId w.clock) = true then
        some (.rotationRead n, w.starts n (.rotating cashierUserId invitationId w.clock) hfree)
      else none
    else none
  | rotate n =>
    match w.phase n with
    | some (.rotating cashierUserId invitationId now) =>
      match rotateInvitation w.db cashierUserId invitationId now with
      | .ok (db', []) =>
        if (∀ invitation ∈ w.db.invitations.rows, invitation.cashierUserId = cashierUserId →
            invitation.revokedAt = none → invitation.createdAt ≤ now) ∧
            (guarded = true → w.punctual cashierUserId now = true) then
          some (.rotated n, w.ends n db')
        else none
      | _ => none
    | _ => none

theorem InvitationWorld.punctual_spec {n : ℕ} {cashierUserId invitationId : Uuid}
    (hphase : w.phase n = some (.rotating cashierUserId invitationId now))
    (h : w.punctual cashierUserId now = true) : Punctual w (.rotated n) := by
  obtain ⟨hcommitted, hrunning⟩ := Bool.and_eq_true_iff.mp h
  intro cashierUserId' invitationId' now' hphase'
  obtain ⟨rfl, rfl, rfl⟩ : cashierUserId = cashierUserId' ∧ invitationId = invitationId' ∧
      now = now' := by simpa using hphase.symm.trans hphase'
  refine ⟨fun a ha _ i hi hcashier hopen => ?_, fun m _ used startedAt snapshot hm i hi hcashier
    hopen => ?_⟩
  · obtain ⟨id, hid, hfind⟩ := Option.bind_eq_some_iff.mp hi
    have hwithin := List.all_eq_true.mp hcommitted a ha
    simpa [hid, hfind, hcashier, hopen] using hwithin
  · obtain ⟨r, hr, hrphase⟩ := Option.map_eq_some_iff.mp hm
    have hwithin := List.all_eq_true.mp hrunning r (Table.find?_eq_some.mp hr).1
    simpa [hrphase, hi, hcashier, hopen] using hwithin

/-- A command that is carried out is a step. -/
theorem InvitationCommand.exec_guarded (guarded : Bool) (command : InvitationCommand)
    (w : InvitationWorld) (action : InvitationAction) (w' : InvitationWorld)
    (h : command.exec guarded w = some (action, w')) :
    invitations.step w action w' ∧ (guarded = true → Punctual w action) := by
  cases command with
  | wait clock =>
    obtain ⟨hle, h⟩ := Option.ite_none_right_eq_some.mp h
    cases h
    exact ⟨.tick hle, fun _ => trivial⟩
  | find n clientUserId invitationId =>
    obtain ⟨hfree, h⟩ := Option.dite_none_right_eq_some.mp h
    obtain ⟨invitation, hinvitation, h⟩ := Option.map_eq_some_iff.mp h
    cases h
    exact ⟨.find hfree hinvitation, fun _ => trivial⟩
  | begin n =>
    unfold exec at h
    dsimp only at h
    split at h
    · rename_i hphase
      cases h
      exact ⟨.begin hphase, fun _ => trivial⟩
    · cases h
  | register n draw =>
    unfold exec at h
    dsimp only at h
    split at h
    · rename_i hphase
      split at h
      · rename_i hmine hfind hrun
        obtain ⟨⟨hcheck, huser⟩, h⟩ := Option.ite_none_right_eq_some.mp h
        cases h
        exact ⟨.register hphase hmine hcheck hfind huser hrun, fun _ => trivial⟩
      · cases h
    · cases h
  | readRotation n cashierUserId invitationId =>
    obtain ⟨hfree, h⟩ := Option.dite_none_right_eq_some.mp h
    obtain ⟨havailable, h⟩ := Option.ite_none_right_eq_some.mp h
    cases h
    exact ⟨.readRotation hfree havailable, fun _ => trivial⟩
  | rotate n =>
    unfold exec at h
    dsimp only at h
    split at h
    · rename_i hphase
      split at h
      · rename_i hrun
        obtain ⟨⟨hcreated, hpunctual⟩, h⟩ := Option.ite_none_right_eq_some.mp h
        cases h
        exact ⟨.rotate hphase hcreated hrun, fun hguarded =>
          InvitationWorld.punctual_spec hphase (hpunctual hguarded)⟩
      · cases h
    · cases h

namespace Scene

/-- One subscribed cashier. -/
def counter : InvitationWorld where
  clock := 0
  db := { start.db with
    users := ⟨[⟨cashier 1, .cashier, .active, false, none⟩], List.nodup_singleton _⟩
    cashierProfiles := ⟨[⟨cashier 1, .approved, some 0, some 0⟩], List.nodup_singleton _⟩
    subscriptions :=
      ⟨[⟨subscription 1, cashier 1, .active, 0, none⟩], List.nodup_singleton _⟩ }
  running := Table.empty

theorem counter_initial : InvitationInitial counter := ⟨rfl, rfl, rfl⟩

/-- The cashier has an invitation from the beginning. -/
def invited : List InvitationCommand :=
  [.readRotation 0 (cashier 1) (invitation 1), .rotate 0]

/-- The first client registers while the invitation is rotated. -/
def overlapping : List InvitationCommand :=
  [.find 1 (client 1) (invitation 1), .wait 1, .begin 1, .wait 2,
    .readRotation 2 (cashier 1) (invitation 2), .rotate 2, .register 1 (Scene.draws 1 0),
    .find 3 (client 2) (invitation 2), .begin 3, .register 3 (Scene.draws 2 0)]

/-- A rotation reads the clock; the first client registers later and the rotation commits. -/
def overtaken : List InvitationCommand :=
  [.wait 1, .readRotation 2 (cashier 1) (invitation 2), .wait 2,
    .find 1 (client 1) (invitation 1), .begin 1, .register 1 (Scene.draws 1 0), .rotate 2]

end Scene

/-! ## The law of origins -/

/-- **Registered clients can be moved.** -/
theorem registered_origins_valid {trace : List InvitationAction}
    (h : (invitations.guarded Punctual).Run trace w) {a : Assignment} (ha : a ∈ w.db.assignments)
    (hreason : a.startReason = .invitation) : w.db.validInvitation a a.startedAt = true :=
  (invitationInv h).origins a ha hreason

/-- An invitation is rotated while a client registers with it. -/
theorem registered_origins_valid_overlapping : ∃ trace w,
    (invitations.guarded Punctual).Run trace w ∧ w.db.assignments.rows.length = 2 ∧
      ∃ a ∈ w.db.assignments, a.startReason = .invitation ∧
        w.db.validInvitation a a.startedAt = true := by
  obtain ⟨trace, w, hrun, hcheck⟩ := Machine.exists_run_of_perform
    (M := invitations.guarded Punctual)
    (fun command w action w' h =>
      have hstep := command.exec_guarded true w action w' h
      ⟨hstep.1, hstep.2 rfl⟩)
    Scene.counter_initial (Scene.invited ++ Scene.overlapping)
    (fun _ w => w.db.assignments.rows.length = 2 &&
      w.db.assignments.rows.any fun a => a.startReason = .invitation)
    (by decide +kernel)
  obtain ⟨hlength, hany⟩ := Bool.and_eq_true_iff.mp hcheck
  obtain ⟨a, ha, hreason⟩ := List.any_eq_true.mp hany
  exact ⟨trace, w, hrun, of_decide_eq_true hlength, a, ha, of_decide_eq_true hreason,
    registered_origins_valid hrun ha (of_decide_eq_true hreason)⟩

/-- **A rotation overtaken by a registration** leaves a client that can never be moved. -/
theorem overtaken_rotation : ∃ trace w, invitations.Run trace w ∧
    ∃ a ∈ w.db.assignments, a.startReason = .invitation ∧
      w.db.validInvitation a a.startedAt = false := by
  obtain ⟨trace, w, hrun, hcheck⟩ := Machine.exists_run_of_perform (M := invitations)
    (fun command w action w' h => (command.exec_guarded false w action w' h).1)
    Scene.counter_initial (Scene.invited ++ Scene.overtaken)
    (fun _ w => w.db.assignments.rows.any fun a =>
      a.startReason = .invitation && !w.db.validInvitation a a.startedAt)
    (by decide +kernel)
  obtain ⟨a, ha, hcheck⟩ := List.any_eq_true.mp hcheck
  obtain ⟨hreason, hinvalid⟩ := Bool.and_eq_true_iff.mp hcheck
  exact ⟨trace, w, hrun, a, ha, of_decide_eq_true hreason, by simpa using hinvalid⟩

end Attendance

end SinoChat
