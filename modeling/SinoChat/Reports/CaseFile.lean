import SinoChat.Model.ReportClosure

/-!
# The file of one report

What the tables say about one report: its status, its evidence, its job and
how often its closure was recorded and announced. The protocol for a single
report is a small machine over such files (`CaseStep`), and every step of
the closure machine is, for each report, one of its steps or none
(`ClosureStep.caseStep`). What holds of a file along its steps therefore
holds of every report whatever the others do.
-/

namespace SinoChat

open Js

/-- What the tables hold of one report. -/
structure CaseFile where
  status : Option ReportStatus
  evidence : Option ReportEvidence
  job : Option ReportClosureJob
  closedEvents : ℕ
  notifications : ℕ

namespace ReportTables

/-- The entries of the audit that say the report was closed. -/
def closedEvents (db : ReportTables) (reportId : Uuid) : ℕ :=
  db.auditEvents.countP fun event => event.action = .reportClosed ∧ event.targetId = reportId

/-- The notifications about the report. -/
def reportNotifications (db : ReportTables) (reportId : Uuid) : ℕ :=
  db.notifications.countP fun notification => notification.relatedEntityId = reportId

/-- The status of a report. -/
def statusOf (db : ReportTables) (reportId : Uuid) : Option ReportStatus :=
  (db.reports.find? reportId).map Report.status

/-- The rows of one report. -/
def caseFile (db : ReportTables) (reportId : Uuid) : CaseFile where
  status := db.statusOf reportId
  evidence := db.evidence.find? reportId
  job := db.closureJobs.find? reportId
  closedEvents := db.closedEvents reportId
  notifications := db.reportNotifications reportId

end ReportTables

/-! ## The protocol of one report -/

/-- **The steps a file can make.** -/
inductive CaseStep : CaseFile → CaseFile → Prop
  | file {c : CaseFile} (evidence : ReportEvidence) : c.status = none →
      CaseStep c { c with status := some .opened, evidence := some evidence }
  | review {c : CaseFile} : c.status = some .opened →
      CaseStep c { c with status := some .inReview }
  | request {c : CaseFile} {evidence : ReportEvidence} {job : ReportClosureJob} :
      c.status = some .inReview → c.evidence = some evidence →
      job.evidenceObjectKey = evidence.objectKey →
      job.purgeNotBefore = evidence.uploadAuthorizedUntil → job.leaseToken = none →
      CaseStep c { c with status := some .closing, job := some job }
  /-- The lease changes hands or is given back; the rest of the job stays. -/
  | lease {c : CaseFile} {job job' : ReportClosureJob} : c.job = some job →
      job'.evidenceObjectKey = job.evidenceObjectKey → job'.purgeNotBefore = job.purgeNotBefore →
      CaseStep c { c with job := some job' }
  | finalize {c : CaseFile} {job : ReportClosureJob} : c.status = some .closing →
      c.job = some job →
      CaseStep c { status := some .closed, evidence := none, job := none
                   closedEvents := c.closedEvents + 1, notifications := c.notifications + 1 }

/-- **What every file says.** -/
structure CaseFile.Valid (c : CaseFile) : Prop where
  job : c.job.isSome ↔ c.status = some .closing
  evidence : c.evidence.isSome ↔ c.status ≠ none ∧ c.status ≠ some .closed
  agree : ∀ job evidence, c.job = some job → c.evidence = some evidence →
    job.evidenceObjectKey = evidence.objectKey ∧
      job.purgeNotBefore = evidence.uploadAuthorizedUntil
  closedEvents : c.closedEvents = if c.status = some .closed then 1 else 0
  notifications : c.notifications = if c.status = some .closed then 1 else 0

/-- A step keeps a file valid. -/
theorem CaseStep.valid {c c' : CaseFile} (h : CaseStep c c') (hc : c.Valid) : c'.Valid := by
  obtain ⟨hjob, hevidence, hagree, hevents, hnotes⟩ := hc
  cases h with
  | file evidence hs =>
    have hnojob : c.job = none := by
      rw [hs] at hjob
      simpa using hjob
    refine ⟨by simp [hnojob], by simp, fun job e hj => by simp [hnojob] at hj, ?_, ?_⟩
    · simpa [hs] using hevents
    · simpa [hs] using hnotes
  | review hs =>
    have hnojob : c.job = none := by
      rw [hs] at hjob
      simpa using hjob
    refine ⟨by simp [hnojob], ?_, fun job e hj => by simp [hnojob] at hj, ?_, ?_⟩
    · simpa [hs] using hevidence
    · simpa [hs] using hevents
    · simpa [hs] using hnotes
  | @request evidence job hs he hkey htime _ =>
    refine ⟨by simp, ?_, ?_, ?_, ?_⟩
    · simp [he]
    · intro j e hj hev
      obtain rfl : job = j := by simpa using hj
      obtain rfl : evidence = e := by simpa [he] using hev
      exact ⟨hkey, htime⟩
    · simpa [hs] using hevents
    · simpa [hs] using hnotes
  | @lease job job' hj hkey htime =>
    refine ⟨by simpa [hj] using hjob, hevidence, ?_, hevents, hnotes⟩
    intro j e hj' he
    obtain rfl : job' = j := by simpa using hj'
    obtain ⟨hk, ht⟩ := hagree job e hj he
    exact ⟨hkey.trans hk, htime.trans ht⟩
  | finalize hs _ =>
    refine ⟨by simp, by simp, fun job e hj => by simp at hj, ?_, ?_⟩
    · simpa [hs] using hevents
    · simpa [hs] using hnotes

/-- The order of the statuses. -/
def ReportStatus.next : ReportStatus → Option ReportStatus
  | opened => some .inReview
  | inReview => some .closing
  | closing => some .closed
  | closed => none

/-- A file keeps its status or moves to the next one, the first one being `OPEN`. -/
theorem CaseStep.status {c c' : CaseFile} (h : CaseStep c c') :
    c'.status = c.status ∨ c.status = none ∧ c'.status = some .opened ∨
      ∃ status, c.status = some status ∧ c'.status = status.next ∧ status ≠ .closed := by
  cases h with
  | file _ hs => exact .inr (.inl ⟨hs, rfl⟩)
  | review hs => exact .inr (.inr ⟨_, hs, rfl, by simp⟩)
  | request hs => exact .inr (.inr ⟨_, hs, rfl, by simp⟩)
  | lease => exact .inl rfl
  | finalize hs => exact .inr (.inr ⟨_, hs, rfl, by simp⟩)

/-- The evidence of a report stays on file until the report is closed. -/
theorem CaseStep.evidence {c c' : CaseFile} (h : CaseStep c c') (hc : c.status ≠ none)
    (hc' : c'.status ≠ some .closed) : c'.evidence = c.evidence := by
  cases h with
  | file _ hs => exact absurd hs hc
  | finalize => exact absurd rfl hc'
  | _ => rfl

/-! ## The tables as files -/

namespace ReportTables

variable {db db' : ReportTables} {reportId : Uuid}

theorem statusOf_eq_some {status : ReportStatus} :
    db.statusOf reportId = some status ↔
      ∃ report, db.reports.find? reportId = some report ∧ report.status = status := by
  simp [statusOf]

theorem find?_updateReport {f : Report → Report} {hf : ∀ r, (f r).id = r.id} {id : Uuid} :
    (db.updateReport reportId f hf).reports.find? id =
      if id = reportId then (db.reports.find? id).map f else db.reports.find? id := by
  rw [updateReport, Table.find?_modify]
  cases hr : db.reports.find? id with
  | none => simp
  | some r =>
    obtain rfl := (Table.find?_eq_some.mp hr).2
    by_cases hid : r.id = reportId <;> simp [hid]

theorem find?_updateJob {condition : ReportClosureJob → Bool}
    {f : ReportClosureJob → ReportClosureJob} {h : ∀ j, (f j).reportId = j.reportId} {id : Uuid} :
    (db.updateJob reportId condition f h).closureJobs.find? id =
      (db.closureJobs.find? id).map fun job =>
        if id = reportId ∧ condition job = true then f job else job := by
  rw [updateJob, Table.find?_modify]
  cases hr : db.closureJobs.find? id with
  | none => rfl
  | some job =>
    obtain rfl := (Table.find?_eq_some.mp hr).2
    rfl

theorem leasedJob_eq_some {leaseToken : Uuid} {job : ReportClosureJob} :
    db.leasedJob reportId leaseToken = some job ↔
      db.closureJobs.find? reportId = some job ∧ job.leaseToken = some leaseToken := by
  simp [leasedJob, Option.filter_eq_some_iff]

/-! ### What the transactions do -/

/-- `beginReview` answers about a review under way, or begins one. -/
theorem beginReview_eq_ok {adminUserId : Uuid} {now : ℕ} {answer : ReportReviewState}
    (h : db.beginReview adminUserId reportId now = .ok (db', answer)) :
    db' = db ∨ ∃ (f : Report → Report) (hf : ∀ r, (f r).id = r.id) (event : AdminAuditEvent),
      db.statusOf reportId = some .opened ∧ (∀ r, (f r).status = .inReview) ∧
        event.action ≠ .reportClosed ∧
        db' = { db.updateReport reportId f hf with auditEvents := db.auditEvents ++ [event] } := by
  unfold beginReview at h
  obtain ⟨report, hreport, h⟩ := bind_eq_ok.mp h
  rw [orThrow_eq_ok] at hreport
  split at h
  · cases h
    exact .inl rfl
  · obtain ⟨_, hopen, h⟩ := bind_eq_ok.mp h
    rw [require_eq_ok] at hopen
    cases h
    exact .inr ⟨_, _, _, statusOf_eq_some.mpr ⟨report, hreport, of_decide_eq_true hopen⟩,
      fun _ => rfl, by simp, rfl⟩

/-- `evidenceDownload` leaves an entry in the audit. -/
theorem evidenceDownload_eq_ok {adminUserId : Uuid} {reason : JsString} {passwordValid : Bool}
    {answer : ReportEvidence}
    (h : db.evidenceDownload adminUserId reportId reason passwordValid = .ok (db', answer)) :
    ∃ event : AdminAuditEvent, event.action ≠ .reportClosed ∧
      db' = { db with auditEvents := db.auditEvents ++ [event] } := by
  unfold evidenceDownload at h
  obtain ⟨_, _, h⟩ := bind_eq_ok.mp h
  obtain ⟨_, _, h⟩ := bind_eq_ok.mp h
  obtain ⟨_, _, h⟩ := bind_eq_ok.mp h
  obtain ⟨_, _, h⟩ := bind_eq_ok.mp h
  cases h
  exact ⟨_, by simp, rfl⟩

/-- `close` repeats an answer, or moves a report under review to `CLOSING`
and leaves a job that names its evidence. -/
theorem close_eq_ok {adminUserId : Uuid} {input : CloseReport} {now : ℕ}
    {answer : ReportClosureState}
    (h : db.close adminUserId reportId input now = .ok (db', answer)) :
    db' = db ∨ ∃ (f : Report → Report) (hf : ∀ r, (f r).id = r.id) (evidence : ReportEvidence)
        (job : ReportClosureJob)
        (hnew : (db.updateReport reportId f hf).closureJobs.find? job.reportId = none),
      db.statusOf reportId = some .inReview ∧ (∀ r, (f r).status = .closing) ∧
        db.evidence.find? reportId = some evidence ∧ job.reportId = reportId ∧
        job.evidenceObjectKey = evidence.objectKey ∧
        job.purgeNotBefore = evidence.uploadAuthorizedUntil ∧ job.leaseToken = none ∧
        db' = { db.updateReport reportId f hf with
          closureJobs := (db.updateReport reportId f hf).closureJobs.insert job hnew } := by
  unfold close at h
  obtain ⟨report, hreport, h⟩ := bind_eq_ok.mp h
  rw [orThrow_eq_ok] at hreport
  obtain ⟨_, hopen, h⟩ := bind_eq_ok.mp h
  rw [require_eq_ok] at hopen
  obtain ⟨_, _, h⟩ := bind_eq_ok.mp h
  obtain rfl : report.id = reportId := (Table.find?_eq_some.mp hreport).2
  cases hs : report.status with
  | closed =>
    simp only [hs] at h
    obtain ⟨_, _, h⟩ := bind_eq_ok.mp h
    cases h
    exact .inl rfl
  | closing =>
    simp only [hs] at h
    obtain ⟨_, _, h⟩ := bind_eq_ok.mp h
    obtain ⟨_, _, h⟩ := bind_eq_ok.mp h
    cases h
    exact .inl rfl
  | opened => simp [hs] at hopen
  | inReview =>
    simp only [hs] at h
    unfold requestClosure at h
    obtain ⟨evidence, hevidence, h⟩ := bind_eq_ok.mp h
    rw [orThrow_eq_ok] at hevidence
    obtain ⟨_, _, h⟩ := bind_eq_ok.mp h
    obtain ⟨_, _, h⟩ := bind_eq_ok.mp h
    dsimp only at h
    split at h
    · rename_i hnew
      cases h
      exact .inr ⟨_, _, evidence, _, hnew, statusOf_eq_some.mpr ⟨report, hreport, hs⟩,
        fun _ => rfl, hevidence, rfl, rfl, rfl, rfl, rfl⟩
    · cases h

/-- `finalize` does nothing without the lease; with it, it closes a report
that is `CLOSING`, at a time its evidence may be gone. -/
theorem finalize_eq_ok {key : JsString} {leaseToken : Uuid} {now : ℕ}
    (h : db.finalize reportId key leaseToken now = .ok db') :
    db.leasedJob reportId leaseToken = none ∧ db' = db ∨
      ∃ job report outcome, db.leasedJob reportId leaseToken = some job ∧
        job.evidenceObjectKey = key ∧ job.purgeNotBefore ≤ now ∧
        db.reports.find? reportId = some report ∧ report.status = .closing ∧
        db' = db.finalized job report outcome now := by
  unfold finalize at h
  cases hj : db.leasedJob reportId leaseToken with
  | none =>
    rw [hj] at h
    cases h
    exact .inl ⟨rfl, rfl⟩
  | some job =>
    rw [hj] at h
    obtain ⟨_, hkey, h⟩ := bind_eq_ok.mp h
    obtain ⟨_, htime, h⟩ := bind_eq_ok.mp h
    obtain ⟨report, hreport, h⟩ := bind_eq_ok.mp h
    obtain ⟨_, hstatus, h⟩ := bind_eq_ok.mp h
    obtain ⟨outcome, _, h⟩ := bind_eq_ok.mp h
    obtain ⟨_, _, h⟩ := bind_eq_ok.mp h
    obtain ⟨_, _, h⟩ := bind_eq_ok.mp h
    obtain ⟨_, _, h⟩ := bind_eq_ok.mp h
    cases h
    rw [require_eq_ok] at hkey htime hstatus
    rw [orThrow_eq_ok] at hreport
    exact .inr ⟨job, report, outcome, rfl, of_decide_eq_true hkey, of_decide_eq_true htime,
      hreport, (of_decide_eq_true hstatus).1, rfl⟩

/-! ### What becomes of a file -/

variable {id : Uuid}

/-- An entry that does not record a closure leaves every file as it is. -/
theorem caseFile_audited {event : AdminAuditEvent} (h : event.action ≠ .reportClosed) :
    ({ db with auditEvents := db.auditEvents ++ [event] } : ReportTables).caseFile id =
      db.caseFile id := by
  simp [caseFile, closedEvents, reportNotifications, statusOf, h]

/-- The files of the other reports stay. -/
theorem caseFile_updateReport_of_ne {f : Report → Report} {hf : ∀ r, (f r).id = r.id}
    (hid : id ≠ reportId) : (db.updateReport reportId f hf).caseFile id = db.caseFile id := by
  simp only [caseFile, statusOf, find?_updateReport, if_neg hid]
  rfl

/-- The file of the updated report takes the status of the update. -/
theorem caseFile_updateReport_self {f : Report → Report} {hf : ∀ r, (f r).id = r.id}
    {before after : ReportStatus} (h : db.statusOf reportId = some before)
    (hfs : ∀ r, (f r).status = after) :
    (db.updateReport reportId f hf).caseFile reportId =
      { db.caseFile reportId with status := some after } := by
  obtain ⟨report, hr, -⟩ := statusOf_eq_some.mp h
  simp only [caseFile, statusOf, find?_updateReport, hr]
  simp [updateReport, closedEvents, reportNotifications, hfs]

/-- A new job is seen in its report's file and nowhere else. -/
theorem caseFile_insertJob {job : ReportClosureJob}
    {hnew : db.closureJobs.find? job.reportId = none} :
    ({ db with closureJobs := db.closureJobs.insert job hnew } : ReportTables).caseFile id =
      if job.reportId = id then { db.caseFile id with job := some job } else db.caseFile id := by
  split <;> rename_i hid <;>
    simp [caseFile, statusOf, Table.find?_insert, closedEvents, reportNotifications, hid]

/-- A new report is seen in its own file and nowhere else. -/
theorem caseFile_filed {cashierUserId : Uuid} {evidence : ReportEvidence}
    {hreport : db.reports.find? (Report.filed evidence.reportId cashierUserId).id = none}
    {hevidence : db.evidence.find? evidence.reportId = none} :
    ({ db with
        reports := db.reports.insert (Report.filed evidence.reportId cashierUserId) hreport
        evidence := db.evidence.insert evidence hevidence } : ReportTables).caseFile id =
      if evidence.reportId = id then
        { db.caseFile id with status := some .opened, evidence := some evidence }
      else db.caseFile id := by
  split <;> rename_i hid <;>
    simp [caseFile, statusOf, Table.find?_insert, closedEvents, reportNotifications, Report.filed,
      hid]

/-- An update of a job changes its file at most, and there the job. -/
theorem caseFile_updateJob {condition : ReportClosureJob → Bool}
    {f : ReportClosureJob → ReportClosureJob} {hf : ∀ j, (f j).reportId = j.reportId}
    (hkey : ∀ j, (f j).evidenceObjectKey = j.evidenceObjectKey)
    (htime : ∀ j, (f j).purgeNotBefore = j.purgeNotBefore) :
    (db.updateJob reportId condition f hf).caseFile id = db.caseFile id ∨
      CaseStep (db.caseFile id) ((db.updateJob reportId condition f hf).caseFile id) := by
  have hfile : (db.updateJob reportId condition f hf).caseFile id =
      { db.caseFile id with job := (db.closureJobs.find? id).map fun job =>
        if id = reportId ∧ condition job = true then f job else job } := by
    simp only [caseFile, ← find?_updateJob (h := hf)]
    rfl
  rw [hfile]
  cases hj : db.closureJobs.find? id with
  | none =>
    left
    simp [caseFile, hj]
  | some job =>
    right
    refine CaseStep.lease hj ?_ ?_
    · dsimp only
      split
      · exact hkey job
      · rfl
    · dsimp only
      split
      · exact htime job
      · rfl

/-- The finalized report's file is closed. -/
theorem caseFile_finalized_self {job : ReportClosureJob} {report : Report}
    {outcome : ReportOutcome} {now : ℕ} (h : db.reports.find? report.id = some report) :
    (db.finalized job report outcome now).caseFile report.id =
      { status := some .closed, evidence := none, job := none
        closedEvents := db.closedEvents report.id + 1
        notifications := db.reportNotifications report.id + 1 } := by
  simp [caseFile, finalized, statusOf, updateReport, Table.find?_modify, Table.find?_remove,
    closedEvents, reportNotifications, h]

/-- The other files stay. -/
theorem caseFile_finalized_of_ne {job : ReportClosureJob} {report : Report}
    {outcome : ReportOutcome} {now : ℕ} (hid : id ≠ report.id) :
    (db.finalized job report outcome now).caseFile id = db.caseFile id := by
  have hreports : (db.finalized job report outcome now).reports.find? id = db.reports.find? id := by
    dsimp only [finalized]
    rw [find?_updateReport, if_neg hid]
  rw [caseFile, statusOf, hreports]
  simp [caseFile, statusOf, finalized, updateReport, Table.find?_remove, closedEvents,
    reportNotifications, hid, Ne.symm hid]

end ReportTables

/-! ## Every step is a step of each file -/

open ReportTables in
/-- The steps of an attempt. -/
theorem AttemptStep.caseStep {clock : ℕ} {db db' : ReportTables} {storage storage' : ObjectStorage}
    {a : ClosureAttempt} {event : AttemptEvent} {next : Option ClosureAttempt}
    (h : AttemptStep clock db storage a event db' storage' next) (id : Uuid) :
    db'.caseFile id = db.caseFile id ∨ CaseStep (db.caseFile id) (db'.caseFile id) := by
  have hfinal : ∀ {key : JsString} {now : ℕ},
      db.finalize a.reportId key a.leaseToken now = .ok db' →
      db'.caseFile id = db.caseFile id ∨ CaseStep (db.caseFile id) (db'.caseFile id) := by
    intro key now hf
    obtain ⟨-, rfl⟩ | ⟨job, report, outcome, hjob, -, -, hreport, hstatus, rfl⟩ := finalize_eq_ok hf
    · exact .inl rfl
    · have hid : report.id = a.reportId := (Table.find?_eq_some.mp hreport).2
      rw [← hid] at hreport hjob
      by_cases hne : id = report.id
      · right
        rw [hne, caseFile_finalized_self hreport]
        exact CaseStep.finalize (statusOf_eq_some.mpr ⟨report, hreport, hstatus⟩)
          (leasedJob_eq_some.mp hjob).1
      · exact .inl (caseFile_finalized_of_ne hne)
  cases h with
  | claim => exact caseFile_updateJob (fun _ => rfl) fun _ => rfl
  | release => exact caseFile_updateJob (fun _ => rfl) fun _ => rfl
  | finalize _ _ hf => exact hfinal hf
  | loseAnswer _ _ hf => exact hfinal hf
  | _ => exact .inl rfl

open ReportTables in
/-- **Every step is a step of each file, or none.** -/
theorem ClosureStep.caseStep {w w' : ClosureWorld} {action : ClosureAction}
    (h : ClosureStep w action w') (id : Uuid) :
    w'.db.caseFile id = w.db.caseFile id ∨ CaseStep (w.db.caseFile id) (w'.db.caseFile id) := by
  cases h with
  | file =>
    rename_i cashierUserId evidence hreport hevidence _ _ _
    rw [caseFile_filed]
    split
    · rename_i hid
      subst hid
      refine .inr (CaseStep.file evidence ?_)
      simpa [caseFile, statusOf, Report.filed] using hreport
    · exact .inl rfl
  | beginReview _ h =>
    rename_i adminUserId reportId now db' answer _
    obtain rfl | ⟨f, hf, event, hopen, hstatus, hevent, rfl⟩ := beginReview_eq_ok h
    · exact .inl rfl
    · have hfile := (caseFile_audited hevent :
        ({ w.db.updateReport reportId f hf with
          auditEvents := w.db.auditEvents ++ [event] } : ReportTables).caseFile id =
            (w.db.updateReport reportId f hf).caseFile id)
      by_cases hid : id = reportId
      · subst hid
        exact .inr ((hfile.trans (caseFile_updateReport_self hopen hstatus)) ▸ CaseStep.review hopen)
      · exact .inl (hfile.trans (caseFile_updateReport_of_ne hid))
  | evidenceDownload h =>
    obtain ⟨event, hevent, rfl⟩ := evidenceDownload_eq_ok h
    exact .inl (caseFile_audited hevent)
  | close _ h =>
    rename_i adminUserId reportId input now db' answer _
    obtain rfl | ⟨f, hf, evidence, job, hnew, hreview, hstatus, hevidence, hid, hkey, htime, hfree,
      rfl⟩ := close_eq_ok h
    · exact .inl rfl
    · rw [caseFile_insertJob]
      split
      · rename_i hjob
        obtain rfl : id = reportId := hjob.symm.trans hid
        rw [caseFile_updateReport_self hreview hstatus]
        exact .inr (CaseStep.request hreview hevidence hkey htime hfree)
      · rename_i hjob
        exact .inl (caseFile_updateReport_of_ne fun h => hjob (hid.trans h.symm))
  | attempt _ h => exact h.caseStep id
  | _ => exact .inl rfl

/-- **In every state every file is valid.** -/
theorem caseFile_valid {trace : List ClosureAction} {w : ClosureWorld}
    (h : reportClosure.Run trace w) (id : Uuid) : (w.db.caseFile id).Valid := by
  refine h.stateInvariant (I := fun w => (w.db.caseFile id).Valid) ?_ ?_
  · intro w hw
    obtain ⟨hreports, hevidence, hjobs, haudit, hnotes, -, -, -⟩ := hw
    have hfile : w.db.caseFile id = ⟨none, none, none, 0, 0⟩ := by
      simp [ReportTables.caseFile, ReportTables.statusOf, ReportTables.closedEvents,
        ReportTables.reportNotifications, hreports, hevidence, hjobs, haudit, hnotes,
        Table.find?]
    rw [hfile]
    exact ⟨by simp, by simp, by simp, by simp, by simp⟩
  · intro w action w' hvalid hstep
    rcases hstep.caseStep id with heq | hcase
    · rw [heq]
      exact hvalid
    · exact hcase.valid hvalid

end SinoChat
