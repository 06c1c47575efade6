import SinoChat.Attendance.Safety

/-!
# No active client is left alone

An active client has one active assignment or one pending request, and an
administrator can resolve the request, as long as nobody reactivates a client
that was suspended for five blocks. The fifth block ends the assignment
without a request, and the reactivation opens none.
-/

namespace SinoChat

open Js

namespace Attendance

/-- **An administrator can resolve the request**: the administrative
reassignment commits, and with an eligible cashier it completes the request. -/
def Resolvable (w : World) (request : ReassignmentRequest) : Prop :=
  ∀ draw : Draw, (∀ n, 0 < n → draw.randomIndex n < n) →
    w.db.assignments.find? draw.assignmentId = none →
    ∃ reassignments db',
      attendance.step w (.committed (.reassignAdministrative request.clientUserId) reassignments)
        { w with db := db' } ∧
      (w.db.findEligibleCandidates request.clientUserId request.excludedCashierUserId w.clock ≠ [] →
        ∃ r, db'.requests.find? request.id = some r ∧ r.status = .completed)

variable {db : Db} {now : ℕ} {request : ReassignmentRequest} {draw : Draw}

/-- **A retry of an active client's request succeeds** with fresh rows and an
index in range. -/
theorem completePending_ok (hconsistent : Consistent db)
    (hfind : db.requests.find? request.id = some request)
    (hclient : db.activeClient request.clientUserId = true)
    (hindex : ∀ n, 0 < n → draw.randomIndex n < n)
    (hfresh : db.assignments.find? draw.assignmentId = none) :
    ∃ db' reassignment, completePending db request now draw = .ok (db', reassignment) ∧
      (db.findEligibleCandidates request.clientUserId request.excludedCashierUserId now ≠ [] →
        ∃ r, db'.requests.find? request.id = some r ∧ r.status = .completed) := by
  obtain ⟨candidate, hselect⟩ : ∃ candidate, selectLeastLoadedCashier
      (db.findEligibleCandidates request.clientUserId request.excludedCashierUserId now)
        draw.randomIndex = .ok candidate := selectLeastLoadedCashier_ok hindex
  have hconversation : db.conversations.find? (newConversation draw).assignmentId = none := by
    have hstatus := hconsistent.conversations draw.assignmentId
    rw [hfresh] at hstatus
    exact Option.map_eq_none_iff.mp hstatus
  unfold completePending
  rw [if_pos hclient]
  cases candidate with
  | none =>
    refine ⟨_, _, bind_eq_ok.mpr ⟨none, hselect, bind_eq_ok.mpr ⟨_, Table.change_eq_ok.mpr
      ⟨⟨request, hfind⟩, rfl⟩, rfl⟩⟩, fun hsome => ?_⟩
    exact absurd (selectLeastLoadedCashier_eq_none hselect) hsome
  | some candidate =>
    have hafter : assignCandidate db request candidate.userId now draw =
        .ok (db.assigned request candidate.userId now draw hfresh hconversation) :=
      bind_eq_ok.mpr ⟨_, Table.create_eq_ok.mpr ⟨hfresh, rfl⟩, bind_eq_ok.mpr
        ⟨_, Table.create_eq_ok.mpr ⟨hconversation, rfl⟩, bind_eq_ok.mpr
          ⟨_, Table.change_eq_ok.mpr ⟨⟨request, hfind⟩, rfl⟩, rfl⟩⟩⟩
    refine ⟨_, _, bind_eq_ok.mpr ⟨some candidate, hselect, bind_eq_ok.mpr ⟨_, hafter, rfl⟩⟩,
      fun _ => ⟨completed draw.assignmentId now request, ?_, rfl⟩⟩
    simp [Db.assigned, Table.find?_update, hfind]

/-- Whom a retry chose was subscribed when it looked. -/
theorem subscribed_of_assigns {db' : Db} {reassignment : Reassignment} {cashierUserId id : Uuid}
    (h : completePending db request now draw = .ok (db', reassignment))
    (hassigns : reassignment.Assigns cashierUserId id) : db.subscribed cashierUserId now = true := by
  obtain ⟨_, _, _, houtcome⟩ := hassigns
  obtain ⟨profile, hprofile, rfl, heligible, -⟩ := chosen_completePending h _ _ _ _ _ houtcome
  obtain ⟨htables, hnow, -⟩ := completePending_eq_ok h
  have hvalid := Db.validAssignee_of_eligible hprofile heligible
  rw [htables, hnow, Db.validAssignee, Bool.and_eq_true] at hvalid
  exact hvalid.2

/-- **A pending request of an active client is resolvable** in every reachable state. -/
theorem resolvable_of_pending {trace : List Action} {w : World} (h : attendance.Run trace w)
    (hmem : request ∈ w.db.requests) (hpending : request.status = .pending)
    (hclient : w.db.activeClient request.clientUserId = true) : Resolvable w request := by
  intro draw hindex hfresh
  have hconsistent := consistent_of_run h
  have hfind := Table.find?_eq_some.mpr ⟨hmem, rfl⟩
  obtain ⟨db', reassignment, hdone, hcompletes⟩ := @completePending_ok w.db w.clock request draw
    hconsistent hfind hclient hindex hfresh
  have hhead : (w.db.pendingRequests fun r => r.clientUserId = request.clientUserId).head? =
      some request := by
    obtain ⟨first, hfirst⟩ : ∃ first, (w.db.pendingRequests fun r =>
        r.clientUserId = request.clientUserId).head? = some first := by
      have hin : request ∈ w.db.pendingRequests fun r => r.clientUserId = request.clientUserId :=
        mem_pendingRequests.mpr ⟨hmem, by simp, hpending⟩
      exact Option.isSome_iff_exists.mp (by
        rw [List.isSome_head?]
        exact List.ne_nil_of_mem hin)
    obtain ⟨hmem', hsame, hpending'⟩ := mem_pendingRequests.mp (List.mem_of_mem_head? hfirst)
    have hone : w.db.pending request.clientUserId ≤ 1 :=
      (Nat.le_add_left _ _).trans (held_le_one h _)
    rw [hfirst, Table.eq_of_count_le_one hone hmem' hmem (by simpa [hpending'] using hsame)
      (by simp [hpending])]
  have hrun : (Operation.reassignAdministrative request.clientUserId).run w.db (fun _ => w.clock)
      (fun _ => draw) = .ok (db', [reassignment]) := by
    refine bind_eq_ok.mpr ⟨(), require_eq_ok.mpr hclient, ?_⟩
    rw [hhead]
    exact bind_eq_ok.mpr ⟨_, hdone, rfl⟩
  have hcheck : commitChecks w.clock w.db db' = true := by
    refine (Operation.transaction (by exact not_false) (held_le_one h)
      (fun _ => le_rfl) hrun).commitChecks not_false hconsistent (held_le_one_of_run h hrun)
        (fun id a ha hends => ?_) fun done hdoneMem cashierUserId id hassigns => ?_
    · obtain ⟨hsame, hactive⟩ : a.clientUserId = request.clientUserId ∧ a.endedAt = none := hends
      exact absurd hactive (not_active_of_pending (held_le_one h _) hmem hpending hsame.symm
        (Table.find?_eq_some.mp ha).1)
    · obtain rfl := List.mem_singleton.mp hdoneMem
      exact subscribed_of_assigns hdone hassigns
  exact ⟨_, db', .commit monotone_const (fun _ => le_rfl) hrun hcheck, hcompletes⟩

/-! ## The law -/

/-- One active assignment and nothing pending. -/
def Assigned (db : Db) (clientUserId : Uuid) : Prop :=
  (∃ a ∈ db.assignments, a.clientUserId = clientUserId ∧ a.endedAt = none ∧
    ∀ b ∈ db.assignments, b.clientUserId = clientUserId → b.endedAt = none → b = a) ∧
  ∀ r ∈ db.requests, r.clientUserId = clientUserId → r.status ≠ .pending

/-- No active assignment and one pending request that can be resolved. -/
def Waits (w : World) (clientUserId : Uuid) : Prop :=
  (∀ a ∈ w.db.assignments, a.clientUserId = clientUserId → a.endedAt ≠ none) ∧
  ∃ r ∈ w.db.requests, r.clientUserId = clientUserId ∧ r.status = .pending ∧
    (∀ other ∈ w.db.requests, other.clientUserId = clientUserId → other.status = .pending →
      other = r) ∧ Resolvable w r

/-- **Every active client is attended or waits**, in every run that reactivates
no client suspended for five blocks. -/
theorem active_clients_attended {trace : List Action} {w : World}
    (h : (attendance.guarded Reviewed).Run trace w) :
    ∀ user ∈ w.db.users, user.role = .client → user.status = .active →
      Assigned w.db user.id ∨ Waits w user.id := by
  intro user huser hrole hstatus
  have hrun := h.of_guarded
  have hfind : w.db.users.find? user.id = some user := Table.find?_eq_some.mpr ⟨huser, rfl⟩
  have hone : w.db.active user.id + w.db.pending user.id = 1 :=
    (attendedInv (g := True) (h.mono fun _ _ hreviewed _ => hreviewed)).attended trivial _ user hfind
      ⟨hrole, by simp [hstatus], by simp [hstatus]⟩
  rcases Nat.eq_zero_or_pos (w.db.active user.id) with hzero | hpos
  · right
    have hnone := Table.count_eq_zero.mp hzero
    obtain ⟨r, hr, hcond⟩ := Table.exists_of_count_pos (show 0 < w.db.pending user.id by omega)
    simp only [Bool.and_eq_true, decide_eq_true_eq] at hcond
    refine ⟨fun a ha hclient hactive => ?_, r, hr, hcond.1, hcond.2, fun other hother hclient
      hpending => ?_, resolvable_of_pending hrun hr hcond.2 ?_⟩
    · have hcounted := hnone a ha
      simp [hclient, hactive] at hcounted
    · exact Table.eq_of_count_le_one (show w.db.pending user.id ≤ 1 by omega) hother hr
        (by simp [hclient, hpending]) (by simp [hcond.1, hcond.2])
    · simp [Db.activeClient, hcond.1, hfind, hrole, hstatus]
  · left
    obtain ⟨a, ha, hcond⟩ := Table.exists_of_count_pos hpos
    simp only [Bool.and_eq_true, decide_eq_true_eq] at hcond
    have hnone : w.db.pending user.id = 0 := by omega
    refine ⟨⟨a, ha, hcond.1, hcond.2, fun b hb hclient hactive => ?_⟩, fun r hr hclient hpending => ?_⟩
    · exact Table.eq_of_count_le_one (show w.db.active user.id ≤ 1 by omega) hb ha
        (by simp [hclient, hactive]) (by simp [hcond.1, hcond.2])
    · have hcounted := Table.count_eq_zero.mp hnone r hr
      simp [hclient, hpending] at hcounted

/-- No reactivation. -/
def Action.reviewed : Action → Bool
  | .committed (.reactivate _) _ => false
  | _ => true

/-- A client is registered and blocked, with nobody else to attend it. -/
theorem active_clients_attended_waiting : ∃ trace w user,
    (attendance.guarded Reviewed).Run trace w ∧ user ∈ w.db.users ∧ user.role = .client ∧
      user.status = .active ∧ w.db.active user.id = 0 ∧
      (Assigned w.db user.id ∨ Waits w user.id) := by
  obtain ⟨trace, w, hrun, hcheck⟩ := Machine.exists_run_of_perform (M := attendance)
    Command.exec_step Scene.start_initial
    (Scene.opens 1 0 ++ Scene.invites 1 0 ++ Scene.blocks 1 0)
    (fun trace w => trace.all Action.reviewed &&
      w.db.users.rows.any fun user => user.role = .client && user.status = .active &&
        w.db.active user.id = 0)
    (by decide +kernel)
  obtain ⟨hreviewed, hsome⟩ := Bool.and_eq_true_iff.mp hcheck
  obtain ⟨user, huser, hcond⟩ := List.any_eq_true.mp hsome
  simp only [Bool.and_eq_true, decide_eq_true_eq] at hcond
  have hguarded : (attendance.guarded Reviewed).Run trace w := by
    refine hrun.guarded fun action hmem s => ?_
    have haction := List.all_eq_true.mp hreviewed action hmem
    cases action with
    | committed operation _ =>
      cases operation with
      | reactivate => cases haction
      | _ => exact trivial
    | rejected => exact trivial
    | ticked => exact trivial
  exact ⟨trace, w, user, hguarded, huser, hcond.1.1, hcond.1.2, hcond.2,
    active_clients_attended hguarded user huser hcond.1.1 hcond.1.2⟩

/-- **A client left alone**: after five blocks and a reactivation it is active,
with no assignment and no request. -/
theorem reactivated_left_alone : ∃ trace w user, attendance.Run trace w ∧ user ∈ w.db.users ∧
    user.role = .client ∧ user.status = .active ∧ ¬ Assigned w.db user.id ∧ ¬ Waits w user.id := by
  obtain ⟨trace, w, hrun, hcheck⟩ := Machine.exists_run_of_perform (M := attendance)
    Command.exec_step Scene.start_initial
    (Scene.opens 1 0 ++ Scene.opens 2 0 ++ Scene.opens 3 0 ++ Scene.opens 4 0 ++ Scene.opens 5 0 ++
      Scene.invites 1 0 ++ Scene.blocks 5 0 ++
      [.call (.reactivate (Scene.client 1)) 0 (Scene.draws 0x30)])
    (fun _ w => w.db.users.rows.any fun user => user.role = .client && user.status = .active &&
      w.db.active user.id = 0 && w.db.pending user.id = 0)
    (by decide +kernel)
  obtain ⟨user, huser, hcond⟩ := List.any_eq_true.mp hcheck
  simp only [Bool.and_eq_true, decide_eq_true_eq] at hcond
  obtain ⟨⟨⟨hrole, hstatus⟩, hactive⟩, hpending⟩ := hcond
  refine ⟨trace, w, user, hrun, huser, hrole, hstatus, ?_, ?_⟩
  · rintro ⟨⟨a, ha, hclient, hrunning, -⟩, -⟩
    have hcounted := Table.count_eq_zero.mp hactive a ha
    simp [hclient, hrunning] at hcounted
  · rintro ⟨-, r, hr, hclient, hwaits, -⟩
    have hcounted := Table.count_eq_zero.mp hpending r hr
    simp [hclient, hwaits] at hcounted

end Attendance

end SinoChat
