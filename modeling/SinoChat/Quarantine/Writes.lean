import SinoChat.Common.Run
import SinoChat.Model.QuarantineServices

/-!
# What is written to the quarantine

Three statements write to the two tables: a resolution of a candidate, which takes its flow
along (`resolve_eq_ok`, `cascade_cases`), the insertion of a candidate and the insertion of
a flow. Each keeps the invariant of the tables (`Inv`) and every row, but for a resolution
(`Grows`).
-/

namespace SinoChat

open Js

namespace Quarantine

variable {db db' db'' : Db}

/-! ## How a row changes -/

/-- A candidate stays, or is resolved once. -/
def MatrixDeviceCandidate.Becomes (c c' : MatrixDeviceCandidate) : Prop :=
  c' = c ∨ c.status = .pending ∧ ∃ status resolvedAt, status ≠ .pending ∧
    c' = c.resolve status resolvedAt

/-- A flow stays, or is resolved once. -/
def MatrixDeviceVerificationFlow.Becomes (f f' : MatrixDeviceVerificationFlow) : Prop :=
  f' = f ∨ f.status = .pending ∧ ∃ status resolvedAt, status ≠ .pending ∧
    f' = f.resolve status resolvedAt

/-- What becomes of a candidate, over two writes. -/
theorem MatrixDeviceCandidate.Becomes.trans {c c' c'' : MatrixDeviceCandidate}
    (h : c.Becomes c') (h' : c'.Becomes c'') : c.Becomes c'' := by
  rcases h with rfl | ⟨hpending, status, resolvedAt, hstatus, rfl⟩
  · exact h'
  · rcases h' with rfl | ⟨hpending', -⟩
    · exact .inr ⟨hpending, status, resolvedAt, hstatus, rfl⟩
    · exact absurd hpending' hstatus

/-- What becomes of a flow, over two writes. -/
theorem MatrixDeviceVerificationFlow.Becomes.trans {f f' f'' : MatrixDeviceVerificationFlow}
    (h : f.Becomes f') (h' : f'.Becomes f'') : f.Becomes f'' := by
  rcases h with rfl | ⟨hpending, status, resolvedAt, hstatus, rfl⟩
  · exact h'
  · rcases h' with rfl | ⟨hpending', -⟩
    · exact .inr ⟨hpending, status, resolvedAt, hstatus, rfl⟩
    · exact absurd hpending' hstatus

/-- What was resolved stays as it is. -/
theorem MatrixDeviceCandidate.Becomes.eq_of_resolved {c c' : MatrixDeviceCandidate}
    (h : c.Becomes c') (hc : c.status ≠ .pending) : c' = c :=
  h.resolve_right fun hright => hc hright.1

/-- A resolved flow stays as it is. -/
theorem MatrixDeviceVerificationFlow.Becomes.eq_of_resolved {f f' : MatrixDeviceVerificationFlow}
    (h : f.Becomes f') (hf : f.status ≠ .pending) : f' = f :=
  h.resolve_right fun hright => hf hright.1

/-- What is pending was there as it is. -/
theorem MatrixDeviceCandidate.Becomes.eq_of_pending {c c' : MatrixDeviceCandidate}
    (h : c.Becomes c') (hc : c'.status = .pending) : c' = c := by
  rcases h with rfl | ⟨-, status, resolvedAt, hstatus, rfl⟩
  · rfl
  · exact absurd hc hstatus

/-- A flow that is pending was the same before. -/
theorem MatrixDeviceVerificationFlow.Becomes.eq_of_pending {f f' : MatrixDeviceVerificationFlow}
    (h : f.Becomes f') (hf : f'.status = .pending) : f' = f := by
  rcases h with rfl | ⟨-, status, resolvedAt, hstatus, rfl⟩
  · rfl
  · exact absurd hf hstatus

theorem MatrixDeviceCandidate.Becomes.id_eq {c c' : MatrixDeviceCandidate} (h : c.Becomes c') :
    c'.id = c.id := by
  rcases h with rfl | ⟨-, status, resolvedAt, -, rfl⟩ <;> rfl

theorem MatrixDeviceVerificationFlow.Becomes.candidateId_eq {f f' : MatrixDeviceVerificationFlow}
    (h : f.Becomes f') : f'.candidateId = f.candidateId := by
  rcases h with rfl | ⟨-, status, resolvedAt, -, rfl⟩ <;> rfl

/-- **The tables only grow**: every row stays, or is resolved. -/
structure Grows (db db' : Db) : Prop where
  candidates : ∀ c ∈ db.candidates, ∃ c' ∈ db'.candidates, c.Becomes c'
  flows : ∀ f ∈ db.flows, ∃ f' ∈ db'.flows, f.Becomes f'

/-- Tables grow by nothing. -/
theorem Grows.refl (db : Db) : Grows db db :=
  ⟨fun c hc => ⟨c, hc, .inl rfl⟩, fun f hf => ⟨f, hf, .inl rfl⟩⟩

/-- Two growths are one. -/
theorem Grows.trans (h : Grows db db') (h' : Grows db' db'') : Grows db db'' := by
  refine ⟨fun c hc => ?_, fun f hf => ?_⟩
  · obtain ⟨c', hc', hcc'⟩ := h.candidates c hc
    obtain ⟨c'', hc'', hcc''⟩ := h'.candidates c' hc'
    exact ⟨c'', hc'', hcc'.trans hcc''⟩
  · obtain ⟨f', hf', hff'⟩ := h.flows f hf
    obtain ⟨f'', hf'', hff''⟩ := h'.flows f' hf'
    exact ⟨f'', hf'', hff'.trans hff''⟩

/-- The row an id has later on. -/
theorem Grows.candidate (h : Grows db db') {c c' : MatrixDeviceCandidate}
    (hc : c ∈ db.candidates) (hc' : c' ∈ db'.candidates) (hid : c'.id = c.id) : c.Becomes c' := by
  obtain ⟨c'', hc'', hbecomes⟩ := h.candidates c hc
  rwa [Table.eq_of_key_eq hc' hc'' (hid.trans hbecomes.id_eq.symm)]

/-- The flow of a candidate becomes its later one. -/
theorem Grows.flow (h : Grows db db') {f f' : MatrixDeviceVerificationFlow}
    (hf : f ∈ db.flows) (hf' : f' ∈ db'.flows) (hid : f'.candidateId = f.candidateId) :
    f.Becomes f' := by
  obtain ⟨f'', hf'', hbecomes⟩ := h.flows f hf
  rwa [Table.eq_of_key_eq hf' hf'' (hid.trans hbecomes.candidateId_eq.symm)]

/-! ## The statements -/

/-- What `resolve` asks of the candidate. -/
structure Resolvable (c : MatrixDeviceCandidate) (status : Status) (resolvedAt : ℕ) : Prop where
  pending : c.status = .pending
  unresolved : c.resolvedAt = none
  ends : status ≠ .pending
  created : c.createdAt ≤ resolvedAt
  expired : status = .expired → c.expiresAt ≤ resolvedAt

/-- A resolution is behind the creation, and an expiry behind its time. -/
theorem resolutionCheck_eq_true {createdAt expiresAt resolvedAt : ℕ} {status : Status} :
    resolutionCheck createdAt expiresAt status resolvedAt = true ↔
      createdAt ≤ resolvedAt ∧ (status = .expired → expiresAt ≤ resolvedAt) := by
  simp only [resolutionCheck, Bool.and_eq_true, Bool.or_eq_true, bne_iff_ne, decide_eq_true_eq]
  tauto

/-- **What a resolution writes**, and when it is let through. -/
theorem resolve_eq_ok {id : Uuid} {status : Status} {resolvedAt : ℕ} {clock : TriggerReadings} :
    db.resolve id status resolvedAt clock = .ok db' ↔
      ∃ c, db.candidates.find? id = some c ∧ Resolvable c status resolvedAt ∧
        resolvedAt ≤ clock.candidate ∧ ∃ flows, cascade db.flows c clock = .ok flows ∧
          db' = { db with
            candidates := db.candidates.update id (MatrixDeviceCandidate.resolve status resolvedAt)
              (MatrixDeviceCandidate.id_resolve _ _)
            flows } := by
  constructor
  · intro h
    obtain ⟨c, hc, h⟩ := bind_eq_ok.mp h
    obtain ⟨_, hcheck, h⟩ := bind_eq_ok.mp h
    obtain ⟨flows, hflows, h⟩ := bind_eq_ok.mp h
    simp only [require_eq_ok, Bool.and_eq_true, beq_iff_eq, bne_iff_ne, decide_eq_true_eq,
      resolutionCheck_eq_true] at hcheck
    obtain ⟨⟨⟨⟨hpending, hunresolved⟩, hends⟩, hpast⟩, hcreated, hexpired⟩ := hcheck
    exact ⟨c, orThrow_eq_ok.mp hc, ⟨hpending, hunresolved, hends, hcreated, hexpired⟩, hpast, flows,
      hflows, (Except.ok.inj h).symm⟩
  · rintro ⟨c, hc, hresolvable, hpast, flows, hflows, rfl⟩
    refine bind_eq_ok.mpr ⟨c, orThrow_eq_ok.mpr hc, bind_eq_ok.mpr ⟨(), ?_, bind_eq_ok.mpr
      ⟨flows, hflows, rfl⟩⟩⟩
    simp only [require_eq_ok, Bool.and_eq_true, beq_iff_eq, bne_iff_ne, decide_eq_true_eq,
      resolutionCheck_eq_true]
    exact ⟨⟨⟨⟨hresolvable.pending, hresolvable.unresolved⟩, hresolvable.ends⟩, hpast⟩,
      hresolvable.created, hresolvable.expired⟩

/-- A cascade leaves nothing pending. -/
theorem cascadeStatus_ne_pending (flow : MatrixDeviceVerificationFlow) (checkedAt : ℕ) :
    cascadeStatus flow checkedAt ≠ .pending := by
  unfold cascadeStatus
  split <;> decide

/-- **What the cascade does**: it resolves the pending flow of the candidate, or there is
none. -/
theorem cascade_cases {flows flows' : Table Uuid MatrixDeviceVerificationFlow
      MatrixDeviceVerificationFlow.candidateId} {c : MatrixDeviceCandidate}
    {clock : TriggerReadings} (h : cascade flows c clock = .ok flows') :
    (flows' = flows ∧ ∀ f, flows.find? c.id = some f → f.userId = c.userId →
      f.status ≠ .pending) ∨
    ∃ f, flows.find? c.id = some f ∧ f.userId = c.userId ∧ f.status = .pending ∧
      f.createdAt ≤ clock.cascade ∧
      (cascadeStatus f clock.cascade = .expired → f.expiresAt ≤ clock.cascade) ∧
      flows' = flows.update c.id
        (MatrixDeviceVerificationFlow.resolve (cascadeStatus f clock.cascade) clock.cascade)
        (MatrixDeviceVerificationFlow.candidateId_resolve _ _) := by
  unfold cascade at h
  cases hfind : flows.find? c.id with
  | none =>
    simp only [hfind] at h
    obtain rfl := Except.ok.inj h
    exact .inl ⟨rfl, fun f hf => by cases hf⟩
  | some f =>
    simp only [hfind] at h
    by_cases hcase : f.userId = c.userId ∧ f.status = .pending
    · rw [if_pos hcase] at h
      obtain ⟨_, hcheck, h⟩ := bind_eq_ok.mp h
      obtain rfl := Except.ok.inj h
      simp only [require_eq_ok, Bool.and_eq_true, resolutionCheck_eq_true] at hcheck
      exact .inr ⟨f, rfl, hcase.1, hcase.2, hcheck.2.1, hcheck.2.2, rfl⟩
    · rw [if_neg hcase] at h
      obtain rfl := Except.ok.inj h
      refine .inl ⟨rfl, fun g hg huser hpending => ?_⟩
      obtain rfl := Option.some.inj hg
      exact hcase ⟨huser, hpending⟩

/-- What `createCandidate` asks. -/
theorem createCandidate_eq_ok {row : MatrixDeviceCandidate} {checkedAt : ℕ}
    {error : HttpException} (h : db.createCandidate row checkedAt error = .ok db') :
    candidateTrigger db.backdrop row checkedAt = true ∧
      windowCheck row.createdAt row.expiresAt = true ∧
      (∀ c ∈ db.candidates, c.userId = row.userId → c.status ≠ .pending) ∧
      ∃ hnew : db.candidates.find? row.id = none,
        db' = { db with candidates := db.candidates.insert row hnew } := by
  obtain ⟨_, htrigger, h⟩ := bind_eq_ok.mp h
  obtain ⟨_, hcheck, h⟩ := bind_eq_ok.mp h
  obtain ⟨_, hall, h⟩ := bind_eq_ok.mp h
  obtain ⟨candidates, hcandidates, h⟩ := bind_eq_ok.mp h
  obtain rfl := Except.ok.inj h
  simp only [require_eq_ok, Bool.and_eq_true] at hcheck
  refine ⟨require_eq_ok.mp htrigger, hcheck.1.1, fun c hc huser hpending => ?_, ?_⟩
  · have hrow := List.all_eq_true.mp (require_eq_ok.mp hall) c hc
    simp [huser, hpending] at hrow
  · obtain ⟨hnew, rfl⟩ := Table.create_eq_ok.mp (ok_of_toOption (orThrow_eq_ok.mp hcandidates))
    exact ⟨hnew, rfl⟩

/-- What `createFlow` asks. -/
theorem createFlow_eq_ok {row : MatrixDeviceVerificationFlow} {checkedAt : ℕ}
    {error : HttpException} (h : db.createFlow row checkedAt error = .ok db') :
    ∃ c, db.candidates.find? row.candidateId = some c ∧
      flowTrigger db.backdrop c row checkedAt = true ∧
      windowCheck row.createdAt row.expiresAt = true ∧
      (∀ f ∈ db.flows, f.userId = row.userId →
        f.flowId ≠ row.flowId ∧ f.requestTransactionId ≠ row.requestTransactionId) ∧
      ∃ hnew : db.flows.find? row.candidateId = none,
        db' = { db with flows := db.flows.insert row hnew } := by
  obtain ⟨c, hc, h⟩ := bind_eq_ok.mp h
  obtain ⟨_, htrigger, h⟩ := bind_eq_ok.mp h
  obtain ⟨_, hcheck, h⟩ := bind_eq_ok.mp h
  obtain ⟨_, hall, h⟩ := bind_eq_ok.mp h
  obtain ⟨flows, hflows, h⟩ := bind_eq_ok.mp h
  obtain rfl := Except.ok.inj h
  simp only [require_eq_ok, Bool.and_eq_true] at hcheck
  refine ⟨c, orThrow_eq_ok.mp hc, require_eq_ok.mp htrigger, hcheck.1, fun f hf huser => ?_, ?_⟩
  · have hrow := List.all_eq_true.mp (require_eq_ok.mp hall) f hf
    simpa [huser] using hrow
  · obtain ⟨hnew, rfl⟩ := Table.create_eq_ok.mp (ok_of_toOption (orThrow_eq_ok.mp hflows))
    exact ⟨hnew, rfl⟩

/-- What the trigger of a flow asks of the two rows. -/
structure Joined (c : MatrixDeviceCandidate) (f : MatrixDeviceVerificationFlow) : Prop where
  userId : c.userId = f.userId
  sessions : c.sessionId ≠ f.reviewerSessionId
  sessionVersion : c.sessionVersion = f.reviewerSessionVersion
  created : c.createdAt ≤ f.createdAt
  expires : f.expiresAt ≤ c.expiresAt
  pending : f.status = .pending → c.status = .pending

/-- A flow that is let in is pending and joined to its candidate. -/
theorem joined_of_flowTrigger {backdrop : Backdrop} {c : MatrixDeviceCandidate}
    {f : MatrixDeviceVerificationFlow} {checkedAt : ℕ}
    (h : flowTrigger backdrop c f checkedAt = true) :
    f.status = .pending ∧ f.resolvedAt = none ∧ Joined c f := by
  simp only [flowTrigger, Bool.and_eq_true, beq_iff_eq, bne_iff_ne, decide_eq_true_eq] at h
  obtain ⟨⟨⟨⟨⟨⟨⟨⟨⟨⟨⟨⟨⟨⟨⟨⟨⟨⟨⟨hstatus, hresolved⟩, huser⟩, -⟩, -⟩, -⟩, hpending⟩, hsessions⟩,
    hversion⟩, -⟩, -⟩, -⟩, hcreated⟩, -⟩, -⟩, hexpires⟩, -⟩, -⟩, -⟩, -⟩ := h
  exact ⟨hstatus, hresolved, huser, hsessions, hversion, hcreated, hexpires, fun _ => hpending⟩

/-! ## The invariant -/

/-- The times of a row: a window of ten minutes at most, and a resolution in order. -/
structure Lifetime (status : Status) (createdAt expiresAt : ℕ) (resolvedAt : Option ℕ) : Prop where
  window : createdAt < expiresAt ∧ expiresAt ≤ createdAt + 600000
  pending : status = .pending ↔ resolvedAt = none
  resolved : ∀ at_, resolvedAt = some at_ →
    createdAt ≤ at_ ∧ (status = .expired → expiresAt ≤ at_)

/-- A window lasts ten minutes at most. -/
theorem windowCheck_eq_true {createdAt expiresAt : ℕ} :
    windowCheck createdAt expiresAt = true ↔
      createdAt < expiresAt ∧ expiresAt ≤ createdAt + 600000 := by
  simp [windowCheck]

/-- A new row is within its window. -/
theorem Lifetime.fresh {createdAt expiresAt : ℕ} (h : windowCheck createdAt expiresAt = true) :
    Lifetime .pending createdAt expiresAt none :=
  ⟨windowCheck_eq_true.mp h, by simp, nofun⟩

/-- A resolved row has a time that fits its status. -/
theorem Lifetime.resolve {status status' : Status} {createdAt expiresAt at_ : ℕ}
    {resolvedAt : Option ℕ} (h : Lifetime status createdAt expiresAt resolvedAt)
    (hends : status' ≠ .pending) (hcreated : createdAt ≤ at_)
    (hexpired : status' = .expired → expiresAt ≤ at_) :
    Lifetime status' createdAt expiresAt (some at_) := by
  refine ⟨h.window, by simp [hends], fun t ht => ?_⟩
  obtain rfl := Option.some.inj ht
  exact ⟨hcreated, hexpired⟩

/-- **The invariant of the quarantine.** -/
structure Inv (db : Db) : Prop where
  onePending : ∀ c ∈ db.candidates, ∀ c' ∈ db.candidates, c.userId = c'.userId →
    c.status = .pending → c'.status = .pending → c = c'
  candidates : ∀ c ∈ db.candidates, Lifetime c.status c.createdAt c.expiresAt c.resolvedAt
  flows : ∀ f ∈ db.flows, Lifetime f.status f.createdAt f.expiresAt f.resolvedAt
  joined : ∀ f ∈ db.flows, ∃ c ∈ db.candidates, c.id = f.candidateId ∧ Joined c f
  flowIds : ∀ f ∈ db.flows, ∀ f' ∈ db.flows, f.userId = f'.userId →
    f.flowId = f'.flowId ∨ f.requestTransactionId = f'.requestTransactionId → f = f'

/-! ## The tables behind a statement -/

/-- The rows behind a resolution. -/
theorem mem_resolved {candidates : Table Uuid MatrixDeviceCandidate MatrixDeviceCandidate.id}
    {id : Uuid} {c b : MatrixDeviceCandidate} {status : Status} {resolvedAt : ℕ}
    (hc : candidates.find? id = some c) :
    b ∈ candidates.update id (MatrixDeviceCandidate.resolve status resolvedAt)
        (MatrixDeviceCandidate.id_resolve _ _) ↔
      b = c.resolve status resolvedAt ∨ b ∈ candidates ∧ b.id ≠ id := by
  obtain ⟨hmem, hid⟩ := Table.find?_eq_some.mp hc
  rw [Table.mem_update]
  constructor
  · rintro (⟨a, ha, haid, rfl⟩ | hold)
    · rw [Table.eq_of_key_eq ha hmem (haid.trans hid.symm)]
      exact .inl rfl
    · exact .inr hold
  · rintro (rfl | hold)
    · exact .inl ⟨c, hmem, hid, rfl⟩
    · exact .inr hold

/-- The flow of a candidate was resolved with it. -/
structure Cascaded (c : MatrixDeviceCandidate) (f f' : MatrixDeviceVerificationFlow) : Prop where
  candidateId : f.candidateId = c.id
  pending : f.status = .pending
  resolved : ∃ status resolvedAt, status ≠ .pending ∧ f.createdAt ≤ resolvedAt ∧
    (status = .expired → f.expiresAt ≤ resolvedAt) ∧ f' = f.resolve status resolvedAt

/-- **The flows behind a cascade.** -/
theorem mem_cascaded {flows flows' : Table Uuid MatrixDeviceVerificationFlow
      MatrixDeviceVerificationFlow.candidateId} {c : MatrixDeviceCandidate}
    {clock : TriggerReadings} (h : cascade flows c clock = .ok flows')
    {f' : MatrixDeviceVerificationFlow} (hf' : f' ∈ flows') :
    f' ∈ flows ∧ (f'.candidateId = c.id → f'.userId = c.userId → f'.status ≠ .pending) ∨
      ∃ f ∈ flows, Cascaded c f f' := by
  rcases cascade_cases h with ⟨rfl, hnone⟩ | ⟨f, hf, huser, hpending, hcreated, hexpired, rfl⟩
  · refine .inl ⟨hf', fun hid huser => hnone f' (Table.find?_eq_some.mpr ⟨hf', hid⟩) huser⟩
  · obtain ⟨hmem, hid⟩ := Table.find?_eq_some.mp hf
    rcases Table.mem_update.mp hf' with ⟨g, hg, hgid, rfl⟩ | ⟨hold, hne⟩
    · obtain rfl : g = f := Table.eq_of_key_eq hg hmem (hgid.trans hid.symm)
      exact .inr ⟨g, hg, hid, hpending, _, _, cascadeStatus_ne_pending _ _, hcreated, hexpired, rfl⟩
    · exact .inl ⟨hold, fun hid' => absurd hid' hne⟩

/-- A cascade is something that becomes of a flow. -/
theorem Cascaded.becomes {c : MatrixDeviceCandidate} {f f' : MatrixDeviceVerificationFlow}
    (h : Cascaded c f f') : f.Becomes f' := by
  obtain ⟨status, resolvedAt, hstatus, -, -, rfl⟩ := h.resolved
  exact .inr ⟨h.pending, status, resolvedAt, hstatus, rfl⟩

/-- Every flow behind a cascade was there before. -/
theorem origin_of_cascade {flows flows' : Table Uuid MatrixDeviceVerificationFlow
      MatrixDeviceVerificationFlow.candidateId} {c : MatrixDeviceCandidate}
    {clock : TriggerReadings} (h : cascade flows c clock = .ok flows')
    {f' : MatrixDeviceVerificationFlow} (hf' : f' ∈ flows') : ∃ f ∈ flows, f.Becomes f' := by
  rcases mem_cascaded h hf' with ⟨hold, -⟩ | ⟨f, hf, hcascaded⟩
  · exact ⟨f', hold, .inl rfl⟩
  · exact ⟨f, hf, hcascaded.becomes⟩

/-- Every flow is still there behind a cascade. -/
theorem kept_of_cascade {flows flows' : Table Uuid MatrixDeviceVerificationFlow
      MatrixDeviceVerificationFlow.candidateId} {c : MatrixDeviceCandidate}
    {clock : TriggerReadings} (h : cascade flows c clock = .ok flows')
    {f : MatrixDeviceVerificationFlow} (hf : f ∈ flows) : ∃ f' ∈ flows', f.Becomes f' := by
  rcases cascade_cases h with ⟨rfl, -⟩ | ⟨g, hg, -, hpending, -, -, rfl⟩
  · exact ⟨f, hf, .inl rfl⟩
  · obtain ⟨hmem, hid⟩ := Table.find?_eq_some.mp hg
    by_cases hfid : f.candidateId = c.id
    · obtain rfl : f = g := Table.eq_of_key_eq hf hmem (hfid.trans hid.symm)
      exact ⟨_, Table.mem_update.mpr (.inl ⟨f, hf, hfid, rfl⟩),
        .inr ⟨hpending, _, _, cascadeStatus_ne_pending _ _, rfl⟩⟩
    · exact ⟨f, Table.mem_update.mpr (.inr ⟨hf, hfid⟩), .inl rfl⟩

/-! ## Every statement grows the tables -/

section Statements

variable {id : Uuid} {status : Status} {resolvedAt checkedAt : ℕ} {clock : TriggerReadings}
variable {candidate : MatrixDeviceCandidate} {flow : MatrixDeviceVerificationFlow}
variable {error : HttpException}

/-- A resolution leaves the other tables alone. -/
theorem backdrop_of_resolve (h : db.resolve id status resolvedAt clock = .ok db') :
    db'.backdrop = db.backdrop := by
  obtain ⟨c, -, -, -, flows, -, rfl⟩ := resolve_eq_ok.mp h
  rfl

/-- A resolution only resolves. -/
theorem grows_of_resolve (h : db.resolve id status resolvedAt clock = .ok db') : Grows db db' := by
  obtain ⟨c, hc, hresolvable, -, flows, hflows, rfl⟩ := resolve_eq_ok.mp h
  refine ⟨fun b hb => ?_, fun f hf => kept_of_cascade hflows hf⟩
  obtain ⟨hmem, hid⟩ := Table.find?_eq_some.mp hc
  by_cases hbid : b.id = id
  · obtain rfl : b = c := Table.eq_of_key_eq hb hmem (hbid.trans hid.symm)
    exact ⟨_, (mem_resolved hc).mpr (.inl rfl),
      .inr ⟨hresolvable.pending, _, _, hresolvable.ends, rfl⟩⟩
  · exact ⟨b, (mem_resolved hc).mpr (.inr ⟨hb, hbid⟩), .inl rfl⟩

/-- A new candidate changes no row. -/
theorem grows_of_createCandidate (h : db.createCandidate candidate checkedAt error = .ok db') :
    Grows db db' := by
  obtain ⟨-, -, -, hnew, rfl⟩ := createCandidate_eq_ok h
  refine ⟨fun c hc => ⟨c, ?_, .inl rfl⟩, fun f hf => ⟨f, hf, .inl rfl⟩⟩
  exact (Table.mem_insert (h := hnew)).mpr (.inl hc)

/-- Neither does a new flow. -/
theorem grows_of_createFlow (h : db.createFlow flow checkedAt error = .ok db') : Grows db db' := by
  obtain ⟨c, -, -, -, -, hnew, rfl⟩ := createFlow_eq_ok h
  refine ⟨fun c hc => ⟨c, hc, .inl rfl⟩, fun f hf => ⟨f, ?_, .inl rfl⟩⟩
  exact (Table.mem_insert (h := hnew)).mpr (.inl hf)

/-! ## Every statement keeps the invariant -/

/-- The invariant of empty tables. -/
theorem Inv.init (hcandidates : db.candidates = Table.empty) (hflows : db.flows = Table.empty) :
    Inv db := by
  obtain ⟨backdrop, candidates, flows⟩ := db
  obtain rfl : candidates = Table.empty := hcandidates
  obtain rfl : flows = Table.empty := hflows
  exact ⟨nofun, nofun, nofun, nofun, nofun⟩

theorem Inv.withBackdrop (h : Inv db) (backdrop : Backdrop) : Inv { db with backdrop } :=
  ⟨h.onePending, h.candidates, h.flows, h.joined, h.flowIds⟩

/-- The invariant through a resolution. -/
theorem Inv.resolve (hinv : Inv db) (h : db.resolve id status resolvedAt clock = .ok db') :
    Inv db' := by
  obtain ⟨c, hc, hresolvable, -, flows, hflows, rfl⟩ := resolve_eq_ok.mp h
  obtain ⟨hmem, hid⟩ := Table.find?_eq_some.mp hc
  -- a pending candidate was there before, under another id
  have hold : ∀ b, b ∈ db.candidates.update id (MatrixDeviceCandidate.resolve status resolvedAt)
      (MatrixDeviceCandidate.id_resolve _ _) → b.status = .pending →
      b ∈ db.candidates ∧ b.id ≠ id := by
    intro b hb hpending
    rcases (mem_resolved hc).mp hb with rfl | hold
    · exact absurd hpending hresolvable.ends
    · exact hold
  refine ⟨fun b hb b' hb' huser hpending hpending' => ?_, fun b hb => ?_, fun f' hf' => ?_,
    fun f' hf' => ?_, fun f hf f' hf' huser hids => ?_⟩
  · exact hinv.onePending b (hold b hb hpending).1 b' (hold b' hb' hpending').1 huser hpending
      hpending'
  · rcases (mem_resolved hc).mp hb with rfl | ⟨hb, -⟩
    · exact (hinv.candidates c hmem).resolve hresolvable.ends hresolvable.created
        hresolvable.expired
    · exact hinv.candidates b hb
  · rcases mem_cascaded hflows hf' with ⟨hf, -⟩ | ⟨f, hf, hcascaded⟩
    · exact hinv.flows f' hf
    · obtain ⟨status', at_, hends, hcreated, hexpired, rfl⟩ := hcascaded.resolved
      exact (hinv.flows f hf).resolve hends hcreated hexpired
  · -- the candidate of the flow is another one, or the flow is resolved like it
    have hjoined : ∃ b ∈ db.candidates, b.id = f'.candidateId ∧ Joined b f' ∧
        (b.id = c.id → f'.status ≠ .pending) := by
      rcases mem_cascaded hflows hf' with ⟨hf, hresolved⟩ | ⟨f, hf, hcascaded⟩
      · obtain ⟨b, hb, hbid, hjoined⟩ := hinv.joined f' hf
        refine ⟨b, hb, hbid, hjoined, fun hbc => hresolved (hbid.symm.trans hbc) ?_⟩
        rw [← hjoined.userId, Table.eq_of_key_eq hb hmem hbc]
      · obtain ⟨b, hb, hbid, hjoined⟩ := hinv.joined f hf
        obtain ⟨status', at_, hends, -, -, rfl⟩ := hcascaded.resolved
        exact ⟨b, hb, hbid, ⟨hjoined.userId, hjoined.sessions, hjoined.sessionVersion,
          hjoined.created, hjoined.expires, fun hpending => absurd hpending hends⟩, fun _ => hends⟩
    obtain ⟨b, hb, hbid, hjoined, hresolved⟩ := hjoined
    by_cases hbc : b.id = id
    · obtain rfl : b = c := Table.eq_of_key_eq hb hmem (hbc.trans hid.symm)
      refine ⟨_, (mem_resolved hc).mpr (.inl rfl), hbid, hjoined.userId, hjoined.sessions,
        hjoined.sessionVersion, hjoined.created, hjoined.expires, fun hpending => ?_⟩
      exact absurd hpending (hresolved rfl)
    · exact ⟨b, (mem_resolved hc).mpr (.inr ⟨hb, hbc⟩), hbid, hjoined⟩
  · obtain ⟨g, hg, hbecomes⟩ := origin_of_cascade hflows hf
    obtain ⟨g', hg', hbecomes'⟩ := origin_of_cascade hflows hf'
    have hsame : ∀ {a b : MatrixDeviceVerificationFlow}, a.Becomes b → b.userId = a.userId ∧
        b.flowId = a.flowId ∧ b.requestTransactionId = a.requestTransactionId := by
      intro a b hab
      rcases hab with rfl | ⟨-, status', at_, -, rfl⟩ <;> exact ⟨rfl, rfl, rfl⟩
    obtain ⟨hguser, hgflow, hgtxn⟩ := hsame hbecomes
    obtain ⟨hguser', hgflow', hgtxn'⟩ := hsame hbecomes'
    have heq : g = g' := by
      refine hinv.flowIds g hg g' hg' (by rw [← hguser, ← hguser', huser]) ?_
      rwa [hgflow, hgflow', hgtxn, hgtxn'] at hids
    refine Table.eq_of_key_eq hf hf' ?_
    rw [hbecomes.candidateId_eq, hbecomes'.candidateId_eq, heq]

/-- The invariant through a new candidate. -/
theorem Inv.createCandidate (hinv : Inv db)
    (h : db.createCandidate candidate checkedAt error = .ok db') : Inv db' := by
  obtain ⟨htrigger, hwindow, hnone, hnew, rfl⟩ := createCandidate_eq_ok h
  obtain ⟨hstatus, hresolved⟩ : candidate.status = .pending ∧ candidate.resolvedAt = none := by
    simp only [candidateTrigger, Bool.and_eq_true, beq_iff_eq] at htrigger
    exact htrigger.1.1.1.1.1.1.1.1.1.1
  have hmem : ∀ b, b ∈ db.candidates.insert candidate hnew ↔ b ∈ db.candidates ∨ b = candidate :=
    fun b => Table.mem_insert
  refine ⟨fun c hc c' hc' huser hpending hpending' => ?_, fun c hc => ?_, hinv.flows,
    fun f hf => ?_, hinv.flowIds⟩
  · rcases (hmem c).mp hc with hold | rfl
    · rcases (hmem c').mp hc' with hold' | rfl
      · exact hinv.onePending c hold c' hold' huser hpending hpending'
      · exact absurd hpending (hnone c hold huser)
    · rcases (hmem c').mp hc' with hold' | rfl
      · exact absurd hpending' (hnone c' hold' huser.symm)
      · rfl
  · rcases (hmem c).mp hc with hc | rfl
    · exact hinv.candidates c hc
    · rw [hstatus, hresolved]
      exact .fresh hwindow
  · obtain ⟨c, hc, hid, hjoined⟩ := hinv.joined f hf
    exact ⟨c, (hmem c).mpr (.inl hc), hid, hjoined⟩

/-- The invariant through a new flow. -/
theorem Inv.createFlow (hinv : Inv db) (h : db.createFlow flow checkedAt error = .ok db') :
    Inv db' := by
  obtain ⟨c, hc, htrigger, hwindow, hids, hnew, rfl⟩ := createFlow_eq_ok h
  obtain ⟨hstatus, hresolved, hjoined⟩ := joined_of_flowTrigger htrigger
  obtain ⟨hcandidate, hid⟩ := Table.find?_eq_some.mp hc
  have hmem : ∀ b, b ∈ db.flows.insert flow hnew ↔ b ∈ db.flows ∨ b = flow :=
    fun b => Table.mem_insert
  refine ⟨hinv.onePending, hinv.candidates, fun f hf => ?_, fun f hf => ?_,
    fun f hf f' hf' huser hsame => ?_⟩
  · rcases (hmem f).mp hf with hf | rfl
    · exact hinv.flows f hf
    · rw [hstatus, hresolved]
      exact .fresh hwindow
  · rcases (hmem f).mp hf with hf | rfl
    · exact hinv.joined f hf
    · exact ⟨c, hcandidate, hid, hjoined⟩
  · rcases (hmem f).mp hf with hold | rfl
    · rcases (hmem f').mp hf' with hold' | rfl
      · exact hinv.flowIds f hold f' hold' huser hsame
      · obtain ⟨hflow, htxn⟩ := hids f hold huser
        exact absurd hsame (by tauto)
    · rcases (hmem f').mp hf' with hold' | rfl
      · obtain ⟨hflow, htxn⟩ := hids f' hold' huser.symm
        exact absurd hsame (by tauto)
      · rfl

end Statements

end Quarantine

end SinoChat
