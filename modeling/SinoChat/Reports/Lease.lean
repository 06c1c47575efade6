import SinoChat.Reports.CaseFile

/-!
# Leases and deleted objects

An attempt is tied to its lease by a token no other attempt has. Three
things follow a run: the evidence on file cannot be uploaded again once its
authorization is over, an attempt that holds a lease holds it on a job that
was purgeable when the attempt began, and one that has deleted the object
knows the object gone for good (`ClosureInv`).
-/

namespace SinoChat

open Js

/-! ## Objects -/

/-- An upload to the key has been signed. -/
def ObjectStorage.Issued (storage : ObjectStorage) (key : JsString) : Prop :=
  ∃ url ∈ storage.urls, url.key = key

/-- The key has no object and will not have one again. -/
structure ClosureWorld.Gone (w : ClosureWorld) (key : JsString) : Prop where
  issued : w.storage.Issued key
  sealed_ : w.storage.Sealed key w.clock
  absent : key ∉ w.storage.objects

/-- The clock goes on, and an upload to a key is signed once. -/
structure StorageStep (w w' : ClosureWorld) : Prop where
  clock : w.clock ≤ w'.clock
  issued : ∀ key, w.storage.Issued key → w'.storage.Issued key
  sealed_ : ∀ key t, w.storage.Issued key → w.storage.Sealed key t → w'.storage.Sealed key t
  objects : ∀ key ∈ w'.storage.objects, key ∈ w.storage.objects ∨ w.storage.accepts key w.clock

theorem ClosureStep.storage {w w' : ClosureWorld} {action : ClosureAction}
    (h : ClosureStep w action w') : StorageStep w w' := by
  have hsame : ∀ {v : ClosureWorld}, v.clock = w.clock → v.storage.urls = w.storage.urls →
      (∀ key ∈ v.storage.objects, key ∈ w.storage.objects) → StorageStep w v := by
    intro v hclock hurls hobjects
    refine ⟨hclock.ge, ?_, ?_, fun key hk => .inl (hobjects key hk)⟩
    · intro key hissued
      rwa [ObjectStorage.Issued, hurls]
    · intro key t _ hsealed
      rwa [ObjectStorage.Sealed, hurls]
  cases h with
  | attempt _ h =>
    cases h with
    | deleteObject =>
      exact hsame rfl rfl fun key hk => (ObjectStorage.mem_objects_delete.mp hk).1
    | storageFails _ hs =>
      obtain rfl | rfl := hs
      · exact hsame rfl rfl fun key hk => hk
      · exact hsame rfl rfl fun key hk => (ObjectStorage.mem_objects_delete.mp hk).1
    | _ => exact hsame rfl rfl fun key hk => hk
  | signUpload _ hnew =>
    refine ⟨le_rfl, ?_, ?_, fun key hk => .inl hk⟩
    · rintro key ⟨url, hurl, hk⟩
      exact ⟨url, List.mem_cons_of_mem _ hurl, hk⟩
    · rintro key t ⟨url, hurl, hk⟩ hsealed url' hurl' hk'
      obtain rfl | hurl' := List.mem_cons.mp hurl'
      · exact absurd (hk.trans hk'.symm) (hnew url hurl)
      · exact hsealed url' hurl' hk'
  | upload haccepts =>
    refine ⟨le_rfl, fun key h => h, fun key t _ h => h, ?_⟩
    intro k hk
    obtain rfl | hk := ObjectStorage.mem_objects_putObject.mp hk
    · exact .inr haccepts
    · exact .inl hk
  | removeObject =>
    exact hsame rfl rfl fun key hk => (ObjectStorage.mem_objects_delete.mp hk).1
  | tick hle => exact ⟨hle, fun key h => h, fun key t _ h => h, fun key hk => .inl hk⟩
  | _ => exact hsame rfl rfl fun key hk => hk

/-- What is gone stays gone. -/
theorem StorageStep.gone {w w' : ClosureWorld} {key : JsString} (h : StorageStep w w')
    (hgone : w.Gone key) : w'.Gone key where
  issued := h.issued key hgone.issued
  sealed_ := (h.sealed_ key _ hgone.issued hgone.sealed_).mono h.clock
  absent hk := by
    rcases h.objects key hk with hold | haccepts
    · exact hgone.absent hold
    · exact hgone.sealed_.not_accepts haccepts

/-! ## Tokens -/

open ReportTables in
/-- **Who gets a lease.** A lease on a job was there before the step, on the
same job, or the step is the claim of the attempt the token belongs to. -/
theorem ClosureStep.leased {w w' : ClosureWorld} {action : ClosureAction}
    (h : ClosureStep w action w') {id token : Uuid} {job' : ReportClosureJob}
    (hjob : w'.db.leasedJob id token = some job') :
    (∃ job, w.db.leasedJob id token = some job ∧ job'.purgeNotBefore = job.purgeNotBefore) ∨
      ∃ n a t, action = .attempt n .claimed ∧ w.attempts n = some a ∧ a.phase = .clockRead t ∧
        a.reportId = id ∧ a.leaseToken = token ∧ job'.purgeNotBefore ≤ t := by
  obtain ⟨hfind, htoken⟩ := leasedJob_eq_some.mp hjob
  -- A step that keeps the jobs keeps their leases.
  have hsame : w'.db.closureJobs.find? id = w.db.closureJobs.find? id →
      (∃ job, w.db.leasedJob id token = some job ∧ job'.purgeNotBefore = job.purgeNotBefore) :=
    fun heq => ⟨job', leasedJob_eq_some.mpr ⟨heq ▸ hfind, htoken⟩, rfl⟩
  cases h with
  | beginReview _ h =>
    obtain rfl | ⟨f, hf, event, -, -, -, rfl⟩ := beginReview_eq_ok h
    · exact .inl (hsame rfl)
    · exact .inl (hsame rfl)
  | evidenceDownload h =>
    obtain ⟨event, -, rfl⟩ := evidenceDownload_eq_ok h
    exact .inl (hsame rfl)
  -- A new job has no lease.
  | close _ h =>
    obtain rfl | ⟨f, hf, evidence, job, hnew, -, -, -, -, -, -, hfree, rfl⟩ := close_eq_ok h
    · exact .inl (hsame rfl)
    · dsimp only at hfind
      rw [Table.find?_insert] at hfind
      split at hfind
      · cases hfind
        rw [hfree] at htoken
        cases htoken
      · exact .inl ⟨job', leasedJob_eq_some.mpr ⟨hfind, htoken⟩, rfl⟩
  -- A finalisation removes its own job and leaves the others.
  | attempt hn h =>
    have hfinal : ∀ {a : ClosureAttempt} {key : JsString} {now : ℕ} {db' : ReportTables},
        w.db.finalize a.reportId key a.leaseToken now = .ok db' →
        db'.closureJobs.find? id = some job' →
        ∃ job, w.db.leasedJob id token = some job ∧ job'.purgeNotBefore = job.purgeNotBefore := by
      intro a key now db' hf hfind
      obtain ⟨-, rfl⟩ | ⟨job, report, outcome, -, -, -, -, -, rfl⟩ := finalize_eq_ok hf
      · exact ⟨job', leasedJob_eq_some.mpr ⟨hfind, htoken⟩, rfl⟩
      · dsimp only [finalized] at hfind
        rw [Table.find?_remove] at hfind
        split at hfind
        · cases hfind
        · exact ⟨job', leasedJob_eq_some.mpr ⟨hfind, htoken⟩, rfl⟩
    cases h with
    -- A claim gives a lease to its own token, and only where the object may be purged.
    | @claim t hphase hclaims =>
      rename_i n a
      dsimp only [claimJob] at hfind
      rw [find?_updateJob] at hfind
      obtain ⟨job, hold, rfl⟩ := Option.map_eq_some_iff.mp hfind
      by_cases hc : id = a.reportId ∧ claimable t job = true
      · right
        simp only [if_pos hc, Option.some.injEq] at htoken
        refine ⟨n, a, t, rfl, hn, hphase, hc.1.symm, htoken, ?_⟩
        rw [if_pos hc]
        simp only [claimable, Bool.and_eq_true, decide_eq_true_eq] at hc
        exact hc.2.1.2
      · left
        rw [if_neg hc] at htoken ⊢
        exact ⟨job, leasedJob_eq_some.mpr ⟨hold, htoken⟩, rfl⟩
    -- A job that is released has no lease.
    | release hphase =>
      left
      dsimp only [scheduleRetry] at hfind
      rw [find?_updateJob] at hfind
      obtain ⟨job, hold, rfl⟩ := Option.map_eq_some_iff.mp hfind
      split at htoken
      · cases htoken
      · rename_i hc
        rw [if_neg hc]
        exact ⟨job, leasedJob_eq_some.mpr ⟨hold, htoken⟩, rfl⟩
    | finalize _ _ hf => exact .inl (hfinal hf hfind)
    | loseAnswer _ _ hf => exact .inl (hfinal hf hfind)
    | _ => exact .inl (hsame rfl)
  | _ => exact .inl (hsame rfl)

/-- The attempt has made its claim. -/
def ClosureAttempt.Claimed (a : ClosureAttempt) : Prop :=
  match a.phase with
  | .started => False
  | .clockRead _ => False
  | _ => True

/-- What is known of an attempt where it is. -/
def PhaseInv (trace : List ClosureAction) (w : ClosureWorld) (n : ℕ) (a : ClosureAttempt) : Prop :=
  let unclaimed := ∀ id, w.db.leasedJob id a.leaseToken = none
  let held := fun t => t ≤ w.clock ∧ ∀ job, w.db.leasedJob a.reportId a.leaseToken = some job →
    job.purgeNotBefore ≤ t
  match a.phase with
  | .started => unclaimed
  | .clockRead t => unclaimed ∧ t ≤ w.clock
  | .claimed t => held t
  | .leased t _ key => held t ∧ w.storage.Issued key ∧ w.storage.Sealed key t
  | .purged t _ key => held t ∧ w.Gone key ∧
      ∃ deletedAt, t ≤ deletedAt ∧ .attempt n (.objectDeleted key deletedAt) ∈ trace
  | _ => True

/-- **What every run keeps**, of evidence, tokens and attempts. -/
structure ClosureInv (trace : List ClosureAction) (w : ClosureWorld) : Prop where
  evidence : ∀ id e, w.db.evidence.find? id = some e →
    w.storage.Issued e.objectKey ∧ w.storage.Sealed e.objectKey e.uploadAuthorizedUntil
  leases : ∀ id token job, w.db.leasedJob id token = some job → token ∈ w.tokens
  numbers : ∀ n a, w.attempts n = some a → n < w.started
  tokens : ∀ n a, w.attempts n = some a → a.leaseToken ∈ w.tokens
  distinct : ∀ n m a b, w.attempts n = some a → w.attempts m = some b →
    a.leaseToken = b.leaseToken → n = m
  phase : ∀ n a, w.attempts n = some a → PhaseInv trace w n a

open ReportTables in
/-- Evidence on file was there before the step or is filed by it. -/
theorem ClosureStep.evidence {w w' : ClosureWorld} {action : ClosureAction}
    (h : ClosureStep w action w') {id : Uuid} {e : ReportEvidence}
    (he : w'.db.evidence.find? id = some e) :
    w.db.evidence.find? id = some e ∨
      w.storage.Issued e.objectKey ∧ w.storage.Sealed e.objectKey e.uploadAuthorizedUntil := by
  cases h with
  | file _ hissued hsealed =>
    dsimp only at he
    rw [Table.find?_insert] at he
    split at he
    · cases he
      exact .inr ⟨hissued, hsealed⟩
    · exact .inl he
  | beginReview _ h =>
    obtain rfl | ⟨f, hf, event, -, -, -, rfl⟩ := beginReview_eq_ok h <;> exact .inl he
  | evidenceDownload h =>
    obtain ⟨event, -, rfl⟩ := evidenceDownload_eq_ok h
    exact .inl he
  | close _ h =>
    obtain rfl | ⟨f, hf, evidence, job, hnew, -, -, -, -, -, -, -, rfl⟩ := close_eq_ok h <;>
      exact .inl he
  | attempt _ h =>
    have hfinal : ∀ {a : ClosureAttempt} {key : JsString} {now : ℕ} {db' : ReportTables},
        w.db.finalize a.reportId key a.leaseToken now = .ok db' →
        db'.evidence.find? id = some e → w.db.evidence.find? id = some e := by
      intro a key now db' hf he
      obtain ⟨-, rfl⟩ | ⟨job, report, outcome, -, -, -, -, -, rfl⟩ := finalize_eq_ok hf
      · exact he
      · dsimp only [finalized, updateReport] at he
        rw [Table.find?_remove] at he
        split at he
        · cases he
        · exact he
    cases h with
    | finalize _ _ hf => exact .inl (hfinal hf he)
    | loseAnswer _ _ hf => exact .inl (hfinal hf he)
    | _ => exact .inl he
  | _ => exact .inl he

variable {trace : List ClosureAction} {w w' : ClosureWorld} {action : ClosureAction}

/-- A lease that only another step than the attempt's own could give is not given. -/
theorem ClosureInv.leased (hinv : ClosureInv trace w) (h : ClosureStep w action w') {n : ℕ}
    {a : ClosureAttempt} (hn : w.attempts n = some a) (hown : action ≠ .attempt n .claimed)
    {id : Uuid} {job' : ReportClosureJob} (hjob : w'.db.leasedJob id a.leaseToken = some job') :
    ∃ job, w.db.leasedJob id a.leaseToken = some job ∧
      job'.purgeNotBefore = job.purgeNotBefore := by
  rcases h.leased hjob with hold | ⟨m, b, t, rfl, hm, -, -, htoken, -⟩
  · exact hold
  · obtain rfl := hinv.distinct m n b a hm hn htoken
    exact absurd rfl hown

/-- What is known of an attempt stays known while others make steps. -/
theorem ClosureInv.phase_other (hinv : ClosureInv trace w) (h : ClosureStep w action w') {n : ℕ}
    {a : ClosureAttempt} (hn : w.attempts n = some a) (hown : ∀ event, action ≠ .attempt n event) :
    PhaseInv (action :: trace) w' n a := by
  have hstorage := h.storage
  have hunclaimed : (∀ id, w.db.leasedJob id a.leaseToken = none) →
      ∀ id, w'.db.leasedJob id a.leaseToken = none := by
    intro hnone id
    refine Option.eq_none_iff_forall_ne_some.mpr fun job' hjob => ?_
    obtain ⟨job, hjob, -⟩ := hinv.leased h hn (hown _) hjob
    simp [hnone id] at hjob
  have hheld : ∀ {t : ℕ}, (t ≤ w.clock ∧ ∀ job,
        w.db.leasedJob a.reportId a.leaseToken = some job → job.purgeNotBefore ≤ t) →
      t ≤ w'.clock ∧ ∀ job,
        w'.db.leasedJob a.reportId a.leaseToken = some job → job.purgeNotBefore ≤ t := by
    rintro t ⟨ht, hold⟩
    refine ⟨ht.trans hstorage.clock, fun job' hjob => ?_⟩
    obtain ⟨job, hjob, htime⟩ := hinv.leased h hn (hown _) hjob
    exact htime ▸ hold job hjob
  have hphase := hinv.phase n a hn
  unfold PhaseInv at hphase ⊢
  split
  · rename_i hp
    simp only [hp] at hphase
    exact hunclaimed hphase
  · rename_i t hp
    simp only [hp] at hphase
    exact ⟨hunclaimed hphase.1, hphase.2.trans hstorage.clock⟩
  · rename_i t hp
    simp only [hp] at hphase
    exact hheld hphase
  · rename_i t k key hp
    simp only [hp] at hphase
    obtain ⟨hold, hissued, hsealed⟩ := hphase
    exact ⟨hheld hold, hstorage.issued key hissued, hstorage.sealed_ key t hissued hsealed⟩
  · rename_i t k key hp
    simp only [hp] at hphase
    obtain ⟨hold, hgone, deletedAt, hle, hmem⟩ := hphase
    exact ⟨hheld hold, hstorage.gone hgone, deletedAt, hle, List.mem_cons_of_mem _ hmem⟩
  · trivial

/-- What is known of an attempt after its own step. -/
theorem ClosureInv.phase_own (hinv : ClosureInv trace w) {n : ℕ} {a a' : ClosureAttempt}
    {event : AttemptEvent} {db' : ReportTables} {storage' : ObjectStorage}
    (hfile : ∀ id, (w.db.caseFile id).Valid) (hn : w.attempts n = some a)
    (h : AttemptStep w.clock w.db w.storage a event db' storage' (some a'))
    (hw : ClosureStep w (.attempt n event) w') (hdb : w'.db = db')
    (hstorage : w'.storage = storage') (hclock : w'.clock = w.clock) :
    PhaseInv (.attempt n event :: trace) w' n a' := by
  have hphase := hinv.phase n a hn
  -- Only the claim of an attempt moves its own lease.
  have hkept : event ≠ .claimed → ∀ id job', w'.db.leasedJob id a.leaseToken = some job' →
      ∃ job, w.db.leasedJob id a.leaseToken = some job ∧
        job'.purgeNotBefore = job.purgeNotBefore := by
    intro hne id job' hjob
    exact hinv.leased hw hn (fun heq => hne (by simpa using heq)) hjob
  cases h with
  -- The attempt has no lease yet.
  | readClock hp =>
    simp only [PhaseInv, hp] at hphase
    refine ⟨fun id => ?_, hclock.ge⟩
    rw [hdb]
    exact hphase id
  -- A job leased to the attempt now is leased by this very claim, for none was before.
  | @claim t hp _ =>
    simp only [PhaseInv, hp] at hphase
    refine ⟨hphase.2.trans hclock.ge, fun job' hjob => ?_⟩
    rcases hw.leased hjob with ⟨job, hjob, -⟩ | ⟨m, b, t', hm, hb, hbp, -, htoken, hle⟩
    · simp [hphase.1] at hjob
    · obtain rfl : n = m := by simpa using hm
      obtain rfl : a = b := by simpa using hn.symm.trans hb
      obtain rfl : t = t' := by simpa using hp.symm.trans hbp
      exact hle
  -- The job that was read is due, so the evidence's authorisation is over.
  | @readJob t job hp hjob =>
    simp only [PhaseInv, hp] at hphase
    obtain ⟨ht, hold⟩ := hphase
    obtain ⟨hfind, -⟩ := ReportTables.leasedJob_eq_some.mp hjob
    have hvalid := hfile a.reportId
    have hclosing : (w.db.caseFile a.reportId).status = some .closing := hvalid.job.mp (by
      simp [ReportTables.caseFile, hfind])
    obtain ⟨e, he⟩ := Option.isSome_iff_exists.mp (hvalid.evidence.mpr (by simp [hclosing]))
    obtain ⟨hkey, htime⟩ := hvalid.agree job e hfind he
    obtain ⟨hissued, hsealed⟩ := hinv.evidence a.reportId e he
    have hle : e.uploadAuthorizedUntil ≤ t := htime ▸ hold job hjob
    refine ⟨⟨ht.trans hclock.ge, fun job' hjob' => ?_⟩, ?_, ?_⟩
    · rw [hdb] at hjob'
      exact hold job' hjob'
    · rw [hstorage, hkey]
      exact hissued
    · rw [hstorage, hkey]
      exact hsealed.mono hle
  -- The deletion is now recorded, at a time not before the one that was read.
  | @deleteObject t k key hp =>
    simp only [PhaseInv, hp] at hphase
    obtain ⟨⟨ht, hold⟩, hissued, hsealed⟩ := hphase
    refine ⟨⟨ht.trans hclock.ge, fun job' hjob' => ?_⟩, ⟨?_, ?_, ?_⟩, w.clock, ht,
      List.mem_cons_self⟩
    · rw [hdb] at hjob'
      exact hold job' hjob'
    · rw [hstorage]
      exact hissued
    · rw [hstorage, hclock]
      exact hsealed.mono ht
    · rw [hstorage]
      simp
  | _ => trivial

/-- Evidence on file was issued and stays sealed. -/
theorem ClosureInv.evidence_step (hinv : ClosureInv trace w) (h : ClosureStep w action w') :
    ∀ id e, w'.db.evidence.find? id = some e → w'.storage.Issued e.objectKey ∧
      w'.storage.Sealed e.objectKey e.uploadAuthorizedUntil := by
  intro id e he
  obtain ⟨hissued, hsealed⟩ : w.storage.Issued e.objectKey ∧
      w.storage.Sealed e.objectKey e.uploadAuthorizedUntil :=
    (h.evidence he).elim (hinv.evidence id e) fun h => h
  exact ⟨h.storage.issued _ hissued, h.storage.sealed_ _ _ hissued hsealed⟩

/-- Every lease is given under a token that was drawn before. -/
theorem ClosureInv.leases_step (hinv : ClosureInv trace w) (h : ClosureStep w action w') :
    ∀ id token job, w'.db.leasedJob id token = some job → token ∈ w.tokens := by
  intro id token job' hjob
  rcases h.leased hjob with ⟨job, hjob, -⟩ | ⟨n, a, t, -, hn, -, -, rfl, -⟩
  · exact hinv.leases id token job hjob
  · exact hinv.tokens n a hn

/-- A step that is no attempt's leaves the attempts as they are. -/
theorem ClosureInv.aside (hinv : ClosureInv trace w) (h : ClosureStep w action w')
    (hattempts : w'.attempts = w.attempts) (hstarted : w'.started = w.started)
    (htokens : w'.tokens = w.tokens) (hown : ∀ n event, action ≠ .attempt n event) :
    ClosureInv (action :: trace) w' where
  evidence := hinv.evidence_step h
  leases := htokens ▸ hinv.leases_step h
  numbers := by
    rw [hattempts, hstarted]
    exact hinv.numbers
  tokens := by
    rw [hattempts, htokens]
    exact hinv.tokens
  distinct := by
    rw [hattempts]
    exact hinv.distinct
  phase := by
    rw [hattempts]
    exact fun n a hn => hinv.phase_other h hn (hown n)

/-- **An attempt starts** under a token that nobody has. -/
theorem ClosureInv.start (hinv : ClosureInv trace w) {reportId leaseToken : Uuid}
    (hfresh : leaseToken ∉ w.tokens) (h : ClosureStep w action w')
    (hattempts : w'.attempts = Function.update w.attempts w.started
      (some ⟨reportId, leaseToken, .started⟩)) (hstarted : w'.started = w.started + 1)
    (htokens : w'.tokens = leaseToken :: w.tokens) (hdb : w'.db = w.db)
    (hown : ∀ n event, action ≠ .attempt n event) : ClosureInv (action :: trace) w' := by
  have hcases : ∀ n a, w'.attempts n = some a →
      n = w.started ∧ a = ⟨reportId, leaseToken, .started⟩ ∨ w.attempts n = some a := by
    intro n a hn
    rw [hattempts] at hn
    by_cases hne : n = w.started
    · subst hne
      exact .inl ⟨rfl, by simpa using hn.symm⟩
    · exact .inr (by simpa [hne] using hn)
  refine ⟨hinv.evidence_step h, fun id token job hjob => ?_, fun n a hn => ?_, fun n a hn => ?_,
    fun n m a b hn hm htoken => ?_, fun n a hn => ?_⟩
  · rw [htokens]
    exact List.mem_cons_of_mem _ (hinv.leases_step h id token job hjob)
  · rw [hstarted]
    rcases hcases n a hn with ⟨rfl, -⟩ | hn
    · exact Nat.lt_succ_self _
    · exact (hinv.numbers n a hn).trans (Nat.lt_succ_self _)
  · rw [htokens]
    rcases hcases n a hn with ⟨-, rfl⟩ | hn
    · exact List.mem_cons_self
    · exact List.mem_cons_of_mem _ (hinv.tokens n a hn)
  · rcases hcases n a hn with ⟨rfl, rfl⟩ | hn <;> rcases hcases m b hm with ⟨rfl, rfl⟩ | hm
    · rfl
    · have heq : leaseToken = b.leaseToken := htoken
      exact absurd (heq ▸ hinv.tokens m b hm) hfresh
    · have heq : a.leaseToken = leaseToken := htoken
      exact absurd (heq ▸ hinv.tokens n a hn) hfresh
    · exact hinv.distinct n m a b hn hm htoken
  · rcases hcases n a hn with ⟨rfl, rfl⟩ | hn
    · intro id
      refine Option.eq_none_iff_forall_ne_some.mpr fun job hjob => ?_
      rw [hdb] at hjob
      exact hfresh (hinv.leases id leaseToken job hjob)
    · exact hinv.phase_other h hn (hown n)

/-- **An attempt goes on** under its token, or stops. -/
theorem ClosureInv.attempt (hinv : ClosureInv trace w) (hfile : ∀ id, (w.db.caseFile id).Valid)
    {n : ℕ} {a : ClosureAttempt} {event : AttemptEvent} {db' : ReportTables}
    {storage' : ObjectStorage} {next : Option ClosureAttempt} (hn : w.attempts n = some a)
    (hnext : AttemptStep w.clock w.db w.storage a event db' storage' next)
    (h : ClosureStep w (.attempt n event)
      { w with db := db', storage := storage', attempts := Function.update w.attempts n next }) :
    ClosureInv (.attempt n event :: trace)
      { w with db := db', storage := storage', attempts := Function.update w.attempts n next } := by
  have hcases : ∀ m b, Function.update w.attempts n next m = some b →
      m = n ∧ next = some b ∨ m ≠ n ∧ w.attempts m = some b := by
    intro m b hm
    by_cases hne : m = n
    · subst hne
      exact .inl ⟨rfl, by simpa using hm⟩
    · exact .inr ⟨hne, by simpa [hne] using hm⟩
  have htoken : ∀ b, next = some b → b.leaseToken = a.leaseToken := by
    rintro b rfl
    cases hnext <;> rfl
  refine ⟨hinv.evidence_step h, hinv.leases_step h, fun m b hm => ?_, fun m b hm => ?_,
    fun m k b c hm hk hbc => ?_, fun m b hm => ?_⟩
  · rcases hcases m b hm with ⟨rfl, -⟩ | ⟨-, hm⟩
    · exact hinv.numbers m a hn
    · exact hinv.numbers m b hm
  · rcases hcases m b hm with ⟨rfl, hb⟩ | ⟨-, hm⟩
    · exact htoken b hb ▸ hinv.tokens m a hn
    · exact hinv.tokens m b hm
  · rcases hcases m b hm with ⟨rfl, hb⟩ | ⟨-, hm'⟩ <;>
      rcases hcases k c hk with ⟨rfl, hc⟩ | ⟨-, hk'⟩
    · rfl
    · exact hinv.distinct m k a c hn hk' ((htoken b hb).symm.trans hbc)
    · exact hinv.distinct m k b a hm' hn (hbc.trans (htoken c hc))
    · exact hinv.distinct m k b c hm' hk' hbc
  · rcases hcases m b hm with ⟨rfl, rfl⟩ | ⟨hne, hm⟩
    · exact hinv.phase_own hfile hn hnext h rfl rfl rfl
    · refine hinv.phase_other h hm fun event' heq => hne ?_
      simp only [ClosureAction.attempt.injEq] at heq
      exact heq.1.symm

/-- **The step.** -/
theorem ClosureInv.step (hinv : ClosureInv trace w) (hfile : ∀ id, (w.db.caseFile id).Valid)
    (h : ClosureStep w action w') : ClosureInv (action :: trace) w' := by
  have hw := h
  cases h with
  | startAttempt hfresh => exact hinv.start hfresh hw rfl rfl rfl rfl (by simp)
  | attempt hn hnext => exact hinv.attempt hfile hn hnext hw
  | _ => exact hinv.aside hw rfl rfl rfl (by simp)

/-- **The invariant.** -/
theorem closureInv (h : reportClosure.Run trace w) : ClosureInv trace w := by
  refine h.invariant (I := fun trace w => ClosureInv trace w) ?_ ?_
  · intro w hw
    obtain ⟨-, hevidence, hjobs, -, -, -, hattempts, -⟩ := hw
    refine ⟨?_, ?_, ?_, ?_, ?_, ?_⟩
    · intro id e he
      simp [hevidence, Table.find?] at he
    · intro id token job hjob
      simp [ReportTables.leasedJob, hjobs, Table.find?] at hjob
    · simp [hattempts]
    · simp [hattempts]
    · simp [hattempts]
    · simp [hattempts]
  · intro trace w action w' hrun hinv hstep
    exact hinv.step (caseFile_valid hrun) hstep

end SinoChat
