import SinoChat.Reports.Lease
import SinoChat.ToDevice.Script

/-!
# The closure protocol

What the machine guarantees of every report, from any state a run reaches:
its status moves in one direction, its job and its evidence are there when
its status says so, it is closed by the attempt that deleted its object and
holds the lease, and an attempt that has lost its lease changes nothing any
more.
-/

namespace SinoChat

open Js

variable {trace : List ClosureAction} {w w' : ClosureWorld} {action : ClosureAction}

/-! ## The step that closes -/

open ReportTables in
/-- **Only a leaseholder closes.** A report that becomes `CLOSED` is finalized
by an attempt that has deleted the object of its evidence. -/
theorem ClosureStep.closes (h : ClosureStep w action w') (hfile : ∀ id, (w.db.caseFile id).Valid)
    {id : Uuid} (hbefore : w.db.statusOf id ≠ some .closed)
    (hafter : w'.db.statusOf id = some .closed) :
    ∃ n a job evidence t k,
      (action = .attempt n .finalized ∨ action = .attempt n .finalizeAnswerLost) ∧
      w.attempts n = some a ∧ a.reportId = id ∧ a.phase = .purged t k evidence.objectKey ∧
      w.db.leasedJob id a.leaseToken = some job ∧ w.db.evidence.find? id = some evidence ∧
      job.evidenceObjectKey = evidence.objectKey ∧ job.purgeNotBefore ≤ w.clock := by
  -- No other update of a report closes it.
  have hupdate : ∀ reportId (f : Report → Report) (hf : ∀ r, (f r).id = r.id) status,
      (∀ r, (f r).status = status) → status ≠ .closed →
      (w.db.updateReport reportId f hf).statusOf id ≠ some .closed := by
    intro reportId f hf status hfs hne hclosed
    rw [statusOf, find?_updateReport] at hclosed
    split at hclosed
    · obtain ⟨report, hr, hs⟩ := Option.map_eq_some_iff.mp hclosed
      obtain ⟨r, -, rfl⟩ := Option.map_eq_some_iff.mp hr
      exact hne ((hfs r).symm.trans hs)
    · exact hbefore hclosed
  cases h with
  | file =>
    rename_i cashierUserId evidence hreport hevidence _ _ _
    exfalso
    simp only [statusOf, Table.find?_insert] at hafter
    split at hafter
    · simp [Report.filed] at hafter
    · exact hbefore hafter
  | beginReview _ h =>
    exfalso
    obtain rfl | ⟨f, hf, event, -, hstatus, -, rfl⟩ := beginReview_eq_ok h
    · exact hbefore hafter
    · exact hupdate _ f hf _ hstatus (by simp) hafter
  | evidenceDownload h =>
    obtain ⟨event, -, rfl⟩ := evidenceDownload_eq_ok h
    exact absurd hafter hbefore
  | close _ h =>
    exfalso
    obtain rfl | ⟨f, hf, evidence, job, hnew, -, hstatus, -, -, -, -, -, rfl⟩ := close_eq_ok h
    · exact hbefore hafter
    · exact hupdate _ f hf _ hstatus (by simp) hafter
  -- Only a finalisation closes a report, of the attempt's own job.
  | attempt hn h =>
    rename_i n a event db' storage' next
    have hfinal : ∀ {t k now : ℕ} {key : JsString}, a.phase = .purged t k key → now ≤ w.clock →
        w.db.finalize a.reportId key a.leaseToken now = .ok db' →
        ∃ job evidence, a.reportId = id ∧ key = evidence.objectKey ∧
          w.db.leasedJob id a.leaseToken = some job ∧ w.db.evidence.find? id = some evidence ∧
          job.evidenceObjectKey = evidence.objectKey ∧ job.purgeNotBefore ≤ w.clock := by
      intro t k now key hp hnow hf
      obtain ⟨-, rfl⟩ | ⟨job, report, outcome, hjob, hkey, htime, hreport, hstatus, rfl⟩ :=
        finalize_eq_ok hf
      · exact absurd hafter hbefore
      · have hid : report.id = a.reportId := (Table.find?_eq_some.mp hreport).2
        -- The report that changed is the one of the attempt.
        have heq : id = report.id := by
          by_contra hne
          have hsame : (w.db.finalized job report outcome now).caseFile id = w.db.caseFile id :=
            caseFile_finalized_of_ne hne
          exact hbefore ((congrArg CaseFile.status hsame).symm.trans hafter)
        subst heq
        rw [← hid] at hreport hjob
        -- What is closed was closing, so its evidence was on file and agrees with the job.
        have hclosing : w.db.statusOf report.id = some .closing :=
          statusOf_eq_some.mpr ⟨report, hreport, hstatus⟩
        obtain ⟨evidence, he⟩ := Option.isSome_iff_exists.mp
          ((hfile report.id).evidence.mpr (by simp [caseFile, hclosing]))
        have hagree := (hfile report.id).agree job evidence (leasedJob_eq_some.mp hjob).1 he
        exact ⟨job, evidence, hid.symm, hkey.symm.trans hagree.1, hjob, he, hagree.1,
          htime.trans hnow⟩
    cases h with
    | finalize hp hnow hf =>
      obtain ⟨job, evidence, hid, rfl, hjob, he, hagree, htime⟩ := hfinal hp hnow hf
      exact ⟨n, a, job, evidence, _, _, .inl rfl, hn, hid, hp, hjob, he, hagree, htime⟩
    | loseAnswer hp hnow hf =>
      obtain ⟨job, evidence, hid, rfl, hjob, he, hagree, htime⟩ := hfinal hp hnow hf
      exact ⟨n, a, job, evidence, _, _, .inr rfl, hn, hid, hp, hjob, he, hagree, htime⟩
    | claim => exact absurd hafter hbefore
    | release => exact absurd hafter hbefore
    | _ => exact absurd hafter hbefore
  | _ => exact absurd hafter hbefore

/-! ## Objects of closed reports -/

open ReportTables in
/-- The evidence a report was filed with is on file, or the report is closed
and the object gone. -/
theorem filed_evidence (h : reportClosure.Run trace w) {id : Uuid} {key : JsString}
    (hfiled : .filed id key ∈ trace) :
    (∃ e, w.db.evidence.find? id = some e ∧ e.objectKey = key) ∨
      w.db.statusOf id = some .closed ∧ w.Gone key := by
  induction h with
  | init hw => cases hfiled
  | @step trace w w' action hrun hstep ih =>
    have hfile := caseFile_valid hrun
    have hold : .filed id key ∈ trace →
        (∃ e, w'.db.evidence.find? id = some e ∧ e.objectKey = key) ∨
          w'.db.statusOf id = some .closed ∧ w'.Gone key := by
      intro hmem
      rcases ih hmem with ⟨e, he, rfl⟩ | ⟨hclosed, hgone⟩
      · have hopen : w.db.statusOf id ≠ some .closed :=
          ((hfile id).evidence.mp (Option.isSome_iff_exists.mpr ⟨e, he⟩)).2
        by_cases hclosed : w'.db.statusOf id = some .closed
        · right
          obtain ⟨n, a, job, e', t, k, -, hn, -, hp, -, he', -, -⟩ :=
            hstep.closes hfile hopen hclosed
          obtain rfl : e = e' := by simpa using he.symm.trans he'
          have hphase := (closureInv hrun).phase n a hn
          simp only [PhaseInv, hp] at hphase
          exact ⟨hclosed, hstep.storage.gone hphase.2.1⟩
        · left
          have hsome := ((hfile id).evidence.mp (Option.isSome_iff_exists.mpr ⟨e, he⟩)).1
          rcases hstep.caseStep id with heq | hcase
          · exact ⟨e, (congrArg CaseFile.evidence heq).trans he, rfl⟩
          · exact ⟨e, (hcase.evidence hsome hclosed).trans he, rfl⟩
      · right
        refine ⟨?_, hstep.storage.gone hgone⟩
        rcases hstep.caseStep id with heq | hcase
        · exact (congrArg CaseFile.status heq).trans hclosed
        · rcases hcase.status with hsame | ⟨hnone, -⟩ | ⟨status, hs, -, hne⟩
          · exact hsame.trans hclosed
          · rw [show (w.db.caseFile id).status = some .closed from hclosed] at hnone
            cases hnone
          · rw [show (w.db.caseFile id).status = some .closed from hclosed] at hs
            exact absurd (Option.some.inj hs).symm hne
    rcases List.mem_cons.mp hfiled with rfl | hmem
    · left
      cases hstep with
      | file => exact ⟨_, by simp [Table.find?_insert], rfl⟩
    · exact hold hmem

/-! ## Lost leases -/

/-- The attempt does not hold the lease it claimed, or has ended. -/
def ClosureWorld.Lost (w : ClosureWorld) (n : ℕ) : Prop :=
  n < w.started ∧ ∀ a, w.attempts n = some a →
    a.Claimed ∧ w.db.leasedJob a.reportId a.leaseToken = none

/-- Another worker has the lease the attempt claimed. -/
def ClosureWorld.TakenOver (w : ClosureWorld) (n : ℕ) : Prop :=
  ∃ a job token, w.attempts n = some a ∧ a.Claimed ∧
    w.db.closureJobs.find? a.reportId = some job ∧ job.leaseToken = some token ∧
    token ≠ a.leaseToken

theorem ClosureWorld.TakenOver.lost {n : ℕ} (hinv : ClosureInv trace w) (h : w.TakenOver n) :
    w.Lost n := by
  obtain ⟨a, job, token, hn, hclaimed, hjob, htoken, hne⟩ := h
  refine ⟨hinv.numbers n a hn, fun b hb => ?_⟩
  obtain rfl : a = b := by simpa using hn.symm.trans hb
  refine ⟨hclaimed, ?_⟩
  simp [ReportTables.leasedJob, hjob, htoken, hne]

/-- A lost lease does not come back. -/
theorem ClosureStep.lost (h : ClosureStep w action w') (hinv : ClosureInv trace w) {n : ℕ}
    (hlost : w.Lost n) : w'.Lost n := by
  obtain ⟨hlt, hlost⟩ := hlost
  have hkept : ∀ a, w.attempts n = some a → w'.db.leasedJob a.reportId a.leaseToken = none := by
    intro a hn
    obtain ⟨hclaimed, hnone⟩ := hlost a hn
    refine Option.eq_none_iff_forall_ne_some.mpr fun job' hjob => ?_
    rcases h.leased hjob with ⟨job, hjob, -⟩ | ⟨m, b, t, -, hm, hp, -, htoken, -⟩
    · simp [hnone] at hjob
    · -- the claim that takes the lease would be the attempt's own
      obtain rfl := hinv.distinct m n b a hm hn htoken
      obtain rfl : a = b := by simpa using hn.symm.trans hm
      simp [ClosureAttempt.Claimed, hp] at hclaimed
  cases h with
  | startAttempt =>
    refine ⟨hlt.trans (Nat.lt_succ_self _), fun a hn => ?_⟩
    have hn' : w.attempts n = some a := by simpa [hlt.ne] using hn
    exact ⟨(hlost a hn').1, hkept a hn'⟩
  | @attempt m a event db' storage' next hm h =>
    refine ⟨hlt, fun b hn => ?_⟩
    by_cases hne : n = m
    · subst hne
      obtain rfl : next = some b := by simpa using hn
      have hclaimed := (hlost a hm).1
      have hnone := hkept a hm
      cases h with
      | readClock hp => simp [ClosureAttempt.Claimed, hp] at hclaimed
      | claim hp => simp [ClosureAttempt.Claimed, hp] at hclaimed
      | _ => exact ⟨trivial, hnone⟩
    · have hn' : w.attempts n = some b := by simpa [hne] using hn
      exact ⟨(hlost b hn').1, hkept b hn'⟩
  | _ => exact ⟨hlt, fun a hn => ⟨(hlost a hn).1, hkept a hn⟩⟩

/-- An attempt without its lease leaves the tables as they are. -/
theorem ClosureStep.of_lost {n : ℕ} {event : AttemptEvent} (hlost : w.Lost n)
    (h : ClosureStep w (.attempt n event) w') : w'.db = w.db := by
  cases h with
  | @attempt _ a _ db' storage' next hn h =>
    obtain ⟨hclaimed, hnone⟩ := hlost.2 a hn
    have hfinal : ∀ {key : JsString} {now : ℕ},
        w.db.finalize a.reportId key a.leaseToken now = .ok db' → db' = w.db := by
      intro key now hf
      obtain ⟨-, rfl⟩ | ⟨job, report, outcome, hjob, -⟩ := ReportTables.finalize_eq_ok hf
      · rfl
      · simp [hnone] at hjob
    cases h with
    | claim hp => simp [ClosureAttempt.Claimed, hp] at hclaimed
    | finalize _ _ hf => exact hfinal hf
    | loseAnswer _ _ hf => exact hfinal hf
    | release =>
      dsimp only [ReportTables.scheduleRetry, ReportTables.updateJob]
      rw [Table.modify_eq_self]
      intro job hjob
      refine if_neg fun hc => ?_
      have hfind := Table.find?_eq_some.mpr ⟨hjob, hc.1⟩
      have hleased := ReportTables.leasedJob_eq_some.mpr ⟨hfind, of_decide_eq_true hc.2⟩
      simp [hnone] at hleased
    | _ => rfl

/-- From where the lease is lost on, the attempt changes nothing. -/
theorem lost_of_steps {later : List ClosureAction} {t : ClosureWorld} {n : ℕ}
    (hrun : reportClosure.Run trace w) (hlost : w.Lost n)
    (hsteps : reportClosure.Steps w later t) : t.Lost n := by
  induction hsteps with
  | refl => exact hlost
  | step hsteps hstep ih => exact ClosureStep.lost hstep (closureInv (hrun.append hsteps)) ih

/-! ## The protocol -/

/-- What a report's status may become in one step. -/
def Advances (before after : Option ReportStatus) : Prop :=
  after = before ∨ before = none ∧ after = some .opened ∨
    ∃ status, before = some status ∧ status ≠ .closed ∧ after = status.next

/-- **The protocol**, in a state and along the steps from it. -/
structure ClosureProtocol (trace : List ClosureAction) (w : ClosureWorld) : Prop where
  /-- `OPEN`, `IN_REVIEW`, `CLOSING`, `CLOSED`, in this order. -/
  advances : ∀ action w', ClosureStep w action w' →
    ∀ id, Advances (w.db.statusOf id) (w'.db.statusOf id)
  job : ∀ id, (w.db.closureJobs.find? id).isSome ↔ w.db.statusOf id = some .closing
  /-- The closing attempt deleted the object, and not before the job allowed it. -/
  closes : ∀ action w' id, ClosureStep w action w' → w.db.statusOf id ≠ some .closed →
    w'.db.statusOf id = some .closed →
    ∃ n job evidence deletedAt, w.db.closureJobs.find? id = some job ∧
      w.db.evidence.find? id = some evidence ∧
      job.evidenceObjectKey = evidence.objectKey ∧
      .attempt n (.objectDeleted evidence.objectKey deletedAt) ∈ trace ∧
      job.purgeNotBefore ≤ deletedAt ∧ job.purgeNotBefore ≤ w.clock ∧
      evidence.objectKey ∉ w.storage.objects
  purged : ∀ id key, .filed id key ∈ trace → w.db.statusOf id = some .closed →
    key ∉ w.storage.objects
  recorded : ∀ id, w.db.statusOf id = some .closed →
    w.db.closedEvents id = 1 ∧ w.db.reportNotifications id = 1
  unrecorded : ∀ id, w.db.statusOf id ≠ some .closed →
    w.db.closedEvents id = 0 ∧ w.db.reportNotifications id = 0
  takenOver : ∀ n, w.TakenOver n → ∀ later t event t', reportClosure.Steps w later t →
    ClosureStep t (.attempt n event) t' → t'.db = t.db

/-- **Report closure keeps its protocol** in every state a run reaches. -/
theorem report_closure_protocol {trace : List ClosureAction} {w : ClosureWorld}
    (h : reportClosure.Run trace w) : ClosureProtocol trace w where
  advances action w' hstep id := by
    rcases hstep.caseStep id with heq | hcase
    · exact .inl (congrArg CaseFile.status heq)
    · rcases hcase.status with hsame | hnew | ⟨status, hs, hnext, hne⟩
      · exact .inl hsame
      · exact .inr (.inl hnew)
      · exact .inr (.inr ⟨status, hs, hne, hnext⟩)
  job id := (caseFile_valid h id).job
  closes action w' id hstep hbefore hafter := by
    obtain ⟨n, a, job, evidence, t, k, -, hn, hid, hp, hjob, he, hkey, htime⟩ :=
      hstep.closes (caseFile_valid h) hbefore hafter
    have hphase := (closureInv h).phase n a hn
    simp only [PhaseInv, hp] at hphase
    obtain ⟨⟨-, hheld⟩, hgone, deletedAt, hle, hmem⟩ := hphase
    exact ⟨n, job, evidence, deletedAt, (ReportTables.leasedJob_eq_some.mp hjob).1, he, hkey, hmem,
      (hheld job (hid ▸ hjob)).trans hle, htime, hgone.absent⟩
  purged id key hfiled hclosed := by
    rcases filed_evidence h hfiled with ⟨e, he, -⟩ | ⟨-, hgone⟩
    · exact absurd hclosed ((caseFile_valid h id).evidence.mp
        (Option.isSome_iff_exists.mpr ⟨e, he⟩)).2
    · exact hgone.absent
  recorded id hclosed :=
    ⟨(caseFile_valid h id).closedEvents.trans (if_pos hclosed),
      (caseFile_valid h id).notifications.trans (if_pos hclosed)⟩
  unrecorded id hopen :=
    ⟨(caseFile_valid h id).closedEvents.trans (if_neg hopen),
      (caseFile_valid h id).notifications.trans (if_neg hopen)⟩
  takenOver n htaken later t event t' hsteps hstep :=
    hstep.of_lost (lost_of_steps h (htaken.lost (closureInv h)) hsteps)

/-! ## A run -/

/-- One step of a case that goes through: the clock is read where a step reads it. -/
inductive ClosureCommand where
  | signUpload (key : JsString)
  | upload (key : JsString)
  | file (reportId cashierUserId : Uuid) (key : JsString) (uploadAuthorizedUntil : ℕ)
  | beginReview (adminUserId reportId : Uuid)
  | evidenceDownload (adminUserId reportId : Uuid)
  | close (adminUserId reportId : Uuid) (input : CloseReport)
  | startAttempt (reportId leaseToken : Uuid)
  /-- The next call of an attempt, which succeeds. -/
  | advance (n : ℕ)
  | tick (clock : ℕ)

/-- The next step of an attempt where nothing fails. -/
def ClosureAttempt.next (a : ClosureAttempt) (w : ClosureWorld) :
    Option (AttemptEvent × ReportTables × ObjectStorage × Option ClosureAttempt) :=
  match a.phase with
  | .started => some (.clockRead, w.db, w.storage, some { a with phase := .clockRead w.clock })
  | .clockRead t =>
    if w.db.claims a.reportId t then
      some (.claimed, w.db.claimJob a.reportId a.leaseToken t, w.storage,
        some { a with phase := .claimed t })
    else some (.claimMissed, w.db, w.storage, none)
  | .claimed t =>
    match w.db.leasedJob a.reportId a.leaseToken with
    | some job => some (.jobRead, w.db, w.storage,
        some { a with phase := .leased t job.attempts job.evidenceObjectKey })
    | none => some (.leaseLost, w.db, w.storage, none)
  | .leased t n key => some (.objectDeleted key w.clock, w.db, w.storage.delete key,
      some { a with phase := .purged t n key })
  | .purged _ _ key =>
    match w.db.finalize a.reportId key a.leaseToken w.clock with
    | .ok db' => some (.finalized, db', w.storage, none)
    | .error _ => none
  | _ => none

/-- The command as a step, where the machine can make it. -/
def ClosureCommand.exec (command : ClosureCommand) (w : ClosureWorld) :
    Option (ClosureAction × ClosureWorld) :=
  match command with
  | signUpload key =>
    if ∀ url ∈ w.storage.urls, url.key ≠ key then
      some (.uploadSigned key, { w with storage := w.storage.presignUpload key w.clock })
    else none
  | upload key =>
    if (∃ url ∈ w.storage.urls, url.key = key ∧ w.clock < url.expiresAt) ∧
        key ∉ w.storage.objects then
      some (.uploaded key, { w with storage := w.storage.putObject key })
    else none
  | file reportId cashierUserId key uploadAuthorizedUntil =>
    if hreport : w.db.reports.find? (Report.filed reportId cashierUserId).id = none then
      if hevidence : w.db.evidence.find? reportId = none then
        if (∀ row ∈ w.db.evidence.rows, row.objectKey ≠ key) ∧
            (∃ url ∈ w.storage.urls, url.key = key) ∧
            ∀ url ∈ w.storage.urls, url.key = key → url.expiresAt ≤ uploadAuthorizedUntil then
          some (.filed reportId key, { w with db := { w.db with
            reports := w.db.reports.insert (Report.filed reportId cashierUserId) hreport
            evidence := w.db.evidence.insert ⟨reportId, key, uploadAuthorizedUntil⟩ hevidence } })
        else none
      else none
    else none
  | beginReview adminUserId reportId =>
    match w.db.beginReview adminUserId reportId w.clock with
    | .ok (db', _) => some (.reviewBegan adminUserId reportId, { w with db := db' })
    | .error _ => none
  | evidenceDownload adminUserId reportId =>
    match w.db.evidenceDownload adminUserId reportId [] true with
    | .ok (db', _) => some (.evidenceDownloaded adminUserId reportId, { w with db := db' })
    | .error _ => none
  | close adminUserId reportId input =>
    match w.db.close adminUserId reportId input w.clock with
    | .ok (db', _) => some (.closeRequested adminUserId reportId input, { w with db := db' })
    | .error _ => none
  | startAttempt reportId leaseToken =>
    if leaseToken ∉ w.tokens then
      some (.attemptStarted w.started reportId, { w with
        attempts := Function.update w.attempts w.started (some ⟨reportId, leaseToken, .started⟩)
        started := w.started + 1
        tokens := leaseToken :: w.tokens })
    else none
  | advance n =>
    match w.attempts n with
    | none => none
    | some a =>
      match a.next w with
      | none => none
      | some (event, db', storage', next) => some (.attempt n event, { w with
          db := db', storage := storage', attempts := Function.update w.attempts n next })
  | tick clock => if w.clock ≤ clock then some (.ticked, { w with clock }) else none

theorem ClosureAttempt.next_step {a : ClosureAttempt} {event : AttemptEvent} {db' : ReportTables}
    {storage' : ObjectStorage} {next : Option ClosureAttempt}
    (h : a.next w = some (event, db', storage', next)) :
    AttemptStep w.clock w.db w.storage a event db' storage' next := by
  unfold ClosureAttempt.next at h
  split at h
  · rename_i hp
    cases h
    exact .readClock hp
  · rename_i t hp
    split_ifs at h with hclaims <;> cases h
    · exact .claim hp hclaims
    · exact .miss hp (by simpa using hclaims)
  · rename_i t hp
    split at h <;> cases h
    · exact .readJob hp ‹_›
    · exact .loseLease hp ‹_›
  · rename_i t n key hp
    cases h
    exact .deleteObject hp
  · rename_i t n key hp
    split at h <;> cases h
    exact .finalize hp le_rfl ‹_›
  · cases h

theorem ClosureCommand.exec_step (command : ClosureCommand) (w : ClosureWorld)
    (action : ClosureAction) (w' : ClosureWorld) (h : command.exec w = some (action, w')) :
    ClosureStep w action w' := by
  cases command with
  | signUpload key =>
    simp only [exec] at h
    split_ifs at h with hnew
    cases h
    exact .signUpload le_rfl hnew
  | upload key =>
    simp only [exec] at h
    split_ifs at h with haccepts
    cases h
    exact .upload haccepts
  | file reportId cashierUserId key uploadAuthorizedUntil =>
    simp only [exec] at h
    split_ifs at h with hreport hevidence hcond
    cases h
    exact @ClosureStep.file w cashierUserId ⟨reportId, key, uploadAuthorizedUntil⟩ hreport hevidence
      hcond.1 hcond.2.1 hcond.2.2
  | beginReview adminUserId reportId =>
    simp only [exec] at h
    split at h <;> cases h
    exact .beginReview le_rfl ‹_›
  | evidenceDownload adminUserId reportId =>
    simp only [exec] at h
    split at h <;> cases h
    exact .evidenceDownload ‹_›
  | close adminUserId reportId input =>
    simp only [exec] at h
    split at h <;> cases h
    exact .close le_rfl ‹_›
  | startAttempt reportId leaseToken =>
    simp only [exec] at h
    split_ifs at h with hfresh
    cases h
    exact .startAttempt hfresh
  | advance n =>
    simp only [exec] at h
    split at h
    · cases h
    · rename_i a hn
      split at h <;> cases h
      exact .attempt hn (ClosureAttempt.next_step ‹_›)
  | tick clock =>
    simp only [exec] at h
    split_ifs at h with hle
    cases h
    exact .tick hle

namespace Sample

/-- The ids of the case. -/
def adminId : Uuid := uuidOf 0x0f000000000040008000000000000001
def reportId : Uuid := uuidOf 0x0f000000000040008000000000000002
def leaseToken : Uuid := uuidOf 0x0f000000000040008000000000000003
def otherToken : Uuid := uuidOf 0x0f000000000040008000000000000004

/-- The reports before the first one. -/
def reportDesk : ClosureWorld where
  clock := 1000
  db := ⟨fun _ => .active, Table.empty, Table.empty, Table.empty, [], []⟩
  storage := ⟨[], []⟩
  attempts := fun _ => none
  started := 0
  tokens := []

/-- A report is reviewed and its closure asked for. The first attempt claims the job and stops;
when its lease has run out, another one takes it. -/
def takenOverCase : List ClosureCommand :=
  [.signUpload [0x6B], .upload [0x6B], .file reportId cashierId [0x6B] 601000,
    .beginReview adminId reportId, .evidenceDownload adminId reportId,
    .close adminId reportId ⟨.warning, [0x6F]⟩, .tick 700000,
    .startAttempt reportId leaseToken, .advance 0, .advance 0, .advance 0, .tick 820000,
    .startAttempt reportId otherToken, .advance 1, .advance 1]

/-- The second attempt closes the report. -/
def closedByOther : List ClosureCommand := [.advance 1, .advance 1, .advance 1]

end Sample

/-- Another worker has the lease of an attempt that has read its job. -/
def ClosureWorld.takenOver (w : ClosureWorld) (n : ℕ) : Bool :=
  (w.attempts n).any fun a =>
    (match a.phase with
      | .leased .. => true
      | _ => false) &&
      (w.db.closureJobs.find? a.reportId).any fun job => job.leaseToken.any (· ≠ a.leaseToken)

theorem ClosureWorld.takenOver_of_eq {n : ℕ} (h : w.takenOver n = true) : w.TakenOver n := by
  obtain ⟨a, hn, h⟩ := (Option.any_eq_true _ _).mp h
  obtain ⟨hphase, h⟩ := Bool.and_eq_true_iff.mp h
  obtain ⟨job, hjob, h⟩ := (Option.any_eq_true _ _).mp h
  obtain ⟨token, htoken, hne⟩ := (Option.any_eq_true _ _).mp h
  refine ⟨a, job, token, hn, ?_, hjob, htoken, of_decide_eq_true hne⟩
  unfold ClosureAttempt.Claimed
  split at hphase
  · rename_i hleased
    rw [hleased]
    trivial
  · cases hphase

/-- The first attempt's call to finalize. -/
def ClosureAction.finalizesFirst : ClosureAction → Bool
  | .attempt 0 .finalized => true
  | _ => false

theorem ClosureAction.eq_of_finalizesFirst {action : ClosureAction}
    (h : action.finalizesFirst = true) : action = .attempt 0 .finalized := by
  unfold finalizesFirst at h
  split at h
  · rfl
  · cases h

/-- An attempt that has lost its lease deletes the object and finalizes nothing; the one that took
it over closes the report. -/
theorem report_closure_protocol_closed : ∃ trace w t t' trace' w', ClosureProtocol trace w ∧
    w.TakenOver 0 ∧ ClosureStep t (.attempt 0 .finalized) t' ∧ t'.db = t.db ∧
      ClosureProtocol trace' w' ∧ w'.db.statusOf Sample.reportId = some .closed := by
  obtain ⟨trace, w, hrun, hcheck⟩ := Machine.exists_run_of_perform (M := reportClosure)
    ClosureCommand.exec_step (s := Sample.reportDesk) ⟨rfl, rfl, rfl, rfl, rfl, rfl, rfl, rfl⟩
    Sample.takenOverCase (fun trace w => w.takenOver 0 &&
      ((ClosureCommand.advance 0).exec w).any fun deleted =>
        ((ClosureCommand.advance 0).exec deleted.2).any fun final =>
          final.1.finalizesFirst && (Machine.perform ClosureCommand.exec Sample.closedByOther
            (final.1 :: deleted.1 :: trace) final.2).any fun outcome =>
              outcome.2.db.statusOf Sample.reportId = some .closed)
    (by decide +kernel)
  obtain ⟨htaken, hcheck⟩ := Bool.and_eq_true_iff.mp hcheck
  obtain ⟨⟨deleted, t⟩, hdeleted, hcheck⟩ := (Option.any_eq_true _ _).mp hcheck
  obtain ⟨⟨final, t'⟩, hfinal, hcheck⟩ := (Option.any_eq_true _ _).mp hcheck
  obtain ⟨hfirst, hcheck⟩ := Bool.and_eq_true_iff.mp hcheck
  obtain ⟨⟨trace', w'⟩, houtcome, hclosed⟩ := (Option.any_eq_true _ _).mp hcheck
  have hdelete := ClosureCommand.exec_step _ _ _ _ hdeleted
  have hfinalize := ClosureCommand.exec_step _ _ _ _ hfinal
  have hrun' := ((hrun.step hdelete).step hfinalize).perform ClosureCommand.exec_step houtcome
  obtain rfl := ClosureAction.eq_of_finalizesFirst hfirst
  have hprotocol := report_closure_protocol hrun
  have htaken := ClosureWorld.takenOver_of_eq htaken
  exact ⟨trace, w, t, t', trace', w', hprotocol, htaken, hfinalize,
    hprotocol.takenOver 0 htaken _ _ _ _ (.step .refl hdelete) hfinalize,
    report_closure_protocol hrun', of_decide_eq_true hclosed⟩

end SinoChat
