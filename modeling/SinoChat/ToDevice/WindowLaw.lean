import SinoChat.Common.Intervals
import SinoChat.Model.SyncBatchTriggers
import SinoChat.ToDevice.Lineage
import SinoChat.ToDevice.Script
import Mathlib.Data.List.Perm.Subperm

/-!
# The law of the windows

Along a chain of sync batches the ranges adjoin: they are disjoint, and
together they cover every sequence up to where the last one ends exactly
once. A batch covers at most a page of live events, none of them queued
after it was made; the rows the service writes pass the database's triggers;
and the retention job, which deletes batches that have expired, decides
about no token of a batch that has not.
-/

namespace SinoChat

open Js

variable {env : Deployment}

/-! ## Chains -/

/-- Batches that were handed out, each linked to the next by its id. -/
structure Linked (H : List SyncBatchRecord) (chain : List SyncBatchRecord) : Prop where
  mem : ∀ batch ∈ chain, batch ∈ H
  links : chain.IsChain fun parent child => child.previousBatchId = some parent.id

/-- A chain stays linked in a longer history. -/
theorem Linked.mono {H H' chain : List SyncBatchRecord} (h : Linked H chain) (hsub : H ⊆ H') :
    Linked H' chain :=
  ⟨fun batch hbatch => hsub (h.mem batch hbatch), h.links⟩

/-- A batch and the one linked to it are parent and successor. -/
theorem BatchInv.successor {crypto : Crypto} {H : List SyncBatchRecord} {w : World}
    (hinv : BatchInv crypto H w) {parent child : SyncBatchRecord} (hparent : parent ∈ H)
    (hchild : child ∈ H) (hlink : child.previousBatchId = some parent.id) :
    Successor parent child := by
  obtain ⟨other, hother, hid, hsucc⟩ := hinv.parent child hchild parent.id hlink
  rw [← hinv.agree other hother parent hparent hid]
  exact hsucc

/-- The links of a chain are successors. -/
theorem Linked.successors {crypto : Crypto} {H chain : List SyncBatchRecord} {w : World}
    (h : Linked H chain) (hinv : BatchInv crypto H w) : chain.IsChain Successor :=
  h.links.imp_of_mem_imp fun _ _ hparent hchild hlink =>
    hinv.successor (h.mem _ hparent) (h.mem _ hchild) hlink

/-- **The ranges of a chain adjoin.** -/
theorem Linked.contiguous {crypto : Crypto} {H chain : List SyncBatchRecord} {w : World}
    (h : Linked H chain) (hinv : BatchInv crypto H w) :
    Intervals.Contiguous (fun batch => batch.fromSequence)
      (fun batch : SyncBatchRecord => batch.upToSequence) chain where
  le := fun batch hbatch => (hinv.sound batch (h.mem batch hbatch)).le.1
  adjoin := (h.successors hinv).imp fun _ _ hsucc => hsucc.sequence

/-- A chain from a root to a batch. -/
structure RootChain (H : List SyncBatchRecord) (batch : SyncBatchRecord)
    (chain : List SyncBatchRecord) : Prop where
  linked : Linked H chain
  root : ∃ root, chain.head? = some root ∧ root.previousBatchId = none
  last : chain.getLast? = some batch

/-- The batch a sync answers with was handed out before, or is a root, or
hangs off one that was. -/
theorem Selected.handed_out {crypto : Crypto} {H : List SyncBatchRecord} {w : World}
    {call : SyncCall} {latest : ℕ} {id : Uuid} {selected : SelectedBatch}
    (h : Selected crypto w.db call latest id selected) (hinv : BatchInv crypto H w) :
    selected.batch.issued ∈ H ∨ selected.batch.previousBatchId = none ∨
      ∃ parent ∈ H, selected.batch.previousBatchId = some parent.id := by
  cases h with
  | replay hposition haccepted hchild hlive =>
    exact .inl (hinv.stored _ (List.mem_of_find?_eq_some hchild))
  | reopen hposition hopen => exact .inl (hinv.stored _ (openInitial_eq_some hopen).1)
  | initial hposition hopen hcreated => exact .inr (.inl hcreated.columns.2.2.1)
  | @advance since parent batch hposition haccepted hchild hopen hcreated =>
    exact .inr (.inr ⟨parent.issued, hinv.stored parent haccepted.mem, hcreated.columns.2.2.1⟩)

/-- **Every batch ever handed out ends a chain from a root.** -/
theorem exists_rootChain {trace : List Action} {w : World} (h : (service env).Run trace w) :
    ∀ batch ∈ history trace, ∃ chain, RootChain (history trace) batch chain := by
  refine h.invariant (I := fun trace _ => ∀ batch ∈ history trace,
    ∃ chain, RootChain (history trace) batch chain) (by simp) ?_
  intro trace w a w' hrun ih hstep batch hbatch
  have hmono : ∀ {b chain}, RootChain (history trace) b chain →
      RootChain (history (a :: trace)) b chain := fun hchain =>
    ⟨hchain.linked.mono (history_append_subset [a] trace), hchain.root, hchain.last⟩
  rcases List.mem_append.mp hbatch with hold | hnew
  · obtain ⟨chain, hchain⟩ := ih batch hold
    exact ⟨chain, hmono hchain⟩
  · cases hstep with
    | @sync call id result hcall hid hnames hsync =>
      obtain ⟨latest, selected, hsynced⟩ := sync_eq_ok hsync
      obtain rfl : batch = result.batch.issued := by simpa [answeredBy] using hnew
      have hcases := hsynced.kind.handed_out (batchInv hrun)
      rw [← hsynced.batch] at hcases
      rcases hcases with hold | hroot | ⟨parent, hparent, hlink⟩
      · obtain ⟨chain, hchain⟩ := ih _ hold
        exact ⟨chain, hmono hchain⟩
      · exact ⟨[result.batch.issued], ⟨by simpa using hbatch, .singleton _⟩,
          ⟨_, rfl, hroot⟩, rfl⟩
      · obtain ⟨chain, hchain⟩ := ih parent hparent
        obtain ⟨root, hhead, hroot⟩ := hchain.root
        refine ⟨chain ++ [result.batch.issued], ⟨?_, ?_⟩, ⟨root, ?_, hroot⟩, by simp⟩
        · intro b hb
          rcases List.mem_append.mp hb with hmem | hlast
          · exact (hmono hchain).linked.mem b hmem
          · rw [List.mem_singleton.mp hlast]
            exact hbatch
        · refine hchain.linked.links.append (.singleton _) ?_
          intro x hx y hy
          rw [hchain.last] at hx
          cases hx
          cases hy
          exact hlink
        · rw [List.head?_append, hhead]
          rfl
    | _ => simp [answeredBy] at hnew

/-! ## The window at its creation -/

/-- A batch nobody was handed before was made by this very sync. -/
theorem Selected.created_of_new {crypto : Crypto} {H : List SyncBatchRecord} {w : World}
    {call : SyncCall} {latest : ℕ} {id : Uuid} {selected : SelectedBatch}
    (h : Selected crypto w.db call latest id selected) (hinv : BatchInv crypto H w)
    (hnew : ∀ old ∈ H, old.id ≠ selected.batch.id) :
    ∃ previous fromSequence fromPosition,
      Created crypto w.db call latest id previous fromSequence fromPosition selected.batch := by
  cases h with
  | @replay since parent child hposition haccepted hchild hlive =>
    have hold : child.issued ∈ H := hinv.stored _ (List.mem_of_find?_eq_some hchild)
    exact absurd rfl (hnew child.issued hold)
  | @reopen batch hposition hopen =>
    have hold : batch.issued ∈ H := hinv.stored _ (openInitial_eq_some hopen).1
    exact absurd rfl (hnew batch.issued hold)
  | initial hposition hopen hcreated => exact ⟨_, _, _, hcreated⟩
  | advance hposition haccepted hchild hopen hcreated => exact ⟨_, _, _, hcreated⟩

/-- A live event of a batch is within its bounds. -/
theorem Queue.mem_liveIn {queue : Queue} {row : SyncBatchRecord} {event : MatrixToDeviceEvent} :
    event ∈ queue.liveIn row ↔
      event ∈ queue.events ∧ event.recipientDeviceId = row.deviceId ∧
        row.fromSequence < event.recipientSequence ∧
        event.recipientSequence ≤ row.upToSequence ∧ row.createdAt < event.expiresAt := by
  simp [Queue.liveIn, and_assoc]

/-- The live events of a new batch's range are those of the page it was cut from. -/
theorem Created.liveIn_subset {crypto : Crypto} {db : Db} {call : SyncCall}
    {latest fromSequence fromPosition : ℕ} {id : Uuid} {previous : Option Uuid}
    {batch : SyncBatchRecord}
    (h : Created crypto db call latest id previous fromSequence fromPosition batch)
    (hordered : Ordered db.queue call.deviceId) :
    db.queue.liveIn batch ⊆ eventWindow db.queue call.deviceId fromSequence latest call.now := by
  intro event hevent
  obtain ⟨-, hdevice, -, hfrom, -, hcreatedAt, -⟩ := h.columns
  obtain ⟨hmem, hrecipient, hlow, hup, hlive⟩ := Queue.mem_liveIn.mp hevent
  rw [hdevice] at hrecipient
  rw [hfrom] at hlow
  rw [hcreatedAt] at hlive
  have hbound : batch.upToSequence = upToSequence
      (eventWindow db.queue call.deviceId fromSequence latest call.now) latest := by
    rw [h.eq]
    rfl
  rw [hbound] at hup
  exact mem_eventWindow_of_range hordered hmem hrecipient hlow hlive hup

/-- **A batch covers at most a page of live events when it is made.** -/
theorem Created.length_liveIn_le {crypto : Crypto} {db : Db} {call : SyncCall}
    {latest fromSequence fromPosition : ℕ} {id : Uuid} {previous : Option Uuid}
    {batch : SyncBatchRecord}
    (h : Created crypto db call latest id previous fromSequence fromPosition batch)
    (hordered : Ordered db.queue call.deviceId) :
    (db.queue.liveIn batch).length ≤ maxSyncEvents := by
  have hdevice := h.columns.2.1
  have hnodup : (db.queue.liveIn batch).Nodup := by
    have hsub : (db.queue.liveIn batch).Sublist (eventsFor call.deviceId db.queue.events) := by
      refine List.monotone_filter_right _ fun event hevent => ?_
      simp only [Bool.and_eq_true, hdevice] at hevent
      exact hevent.1.1.1
    refine (hordered.sublist hsub).imp fun {a b} hlt => ?_
    rintro rfl
    exact lt_irrefl _ hlt
  have hsubperm := List.subperm_of_subset hnodup (h.liveIn_subset hordered)
  exact hsubperm.length_le.trans length_eventWindow_le

/-! ## Pages -/

/-- The first answer with a batch. -/
theorem exists_first_answer {trace : List Action} {batch : SyncBatchRecord}
    (h : batch ∈ history trace) :
    ∃ later earlier call result, trace = later ++ Action.synced call result :: earlier ∧
      result.batch.issued = batch ∧ batch ∉ history earlier := by
  induction trace with
  | nil => simp at h
  | cons a trace ih =>
    by_cases hold : batch ∈ history trace
    · obtain ⟨later, earlier, call, result, rfl, hbatch, hnot⟩ := ih hold
      exact ⟨a :: later, earlier, call, result, rfl, hbatch, hnot⟩
    · have hnew : batch ∈ answeredBy a := (List.mem_append.mp h).resolve_left hold
      cases a with
      | synced call result =>
        exact ⟨[], trace, call, result, rfl, by simpa [answeredBy, eq_comm] using hnew, hold⟩
      | _ => simp [answeredBy] at hnew

/-- A batch that ends at or below a device's cursor covers only sequences the
device had been given by then. -/
theorem mem_enqueued_of_le_cursor {later earlier : List Action} {t w : World} {n : ℕ}
    (hrun : (service env).Run (later ++ earlier) w) (hearlier : (service env).Run earlier t)
    {event : MatrixToDeviceEvent} (hevent : event ∈ enqueued (later ++ earlier))
    (hcursor : t.db.queue.latestSequence event.recipientDeviceId = some n)
    (hle : event.recipientSequence ≤ n) : event ∈ enqueued earlier := by
  obtain ⟨new, hnew⟩ := enqueued_append later earlier
  have hbounds := (logInv hrun).sequence_bounds hevent
  have hrange : event.recipientSequence ∈
      (eventsFor event.recipientDeviceId (enqueued earlier)).map
        MatrixToDeviceEvent.recipientSequence := by
    rw [(logInv hearlier).counted, hcursor, Option.getD_some, List.mem_range'_1]
    omega
  obtain ⟨old, hold, hsequence⟩ := List.mem_map.mp hrange
  obtain ⟨holdMem, holdDevice⟩ := mem_eventsFor.mp hold
  -- one sequence of one device is one event
  have heq : old = event := by
    refine (logInv hrun).eq_of_sequence_eq ?_ hevent holdDevice hsequence
    rw [hnew]
    exact List.mem_append_left _ holdMem
  exact heq ▸ holdMem

/-- **What a page contains**: events of the batch's window that were queued
before the batch was made. -/
theorem page_law {trace : List Action} {w : World} (h : (service env).Run trace w)
    {call : SyncCall} {result : SyncResult} (hmem : Action.synced call result ∈ trace)
    {event : MatrixToDeviceEvent} (hevent : event ∈ result.page) :
    event.recipientDeviceId = result.batch.deviceId ∧
      result.batch.fromSequence < event.recipientSequence ∧
      event.recipientSequence ≤ result.batch.upToSequence ∧
      ∃ later earlier first made, trace = later ++ Action.synced first made :: earlier ∧
        made.batch.issued = result.batch.issued ∧ result.batch.issued ∉ history earlier ∧
        event ∈ enqueued earlier := by
  obtain ⟨after, before, t, t', rfl, hbefore, hstep, -⟩ := h.of_mem hmem
  have hhere : (service env).Run (Action.synced call result :: before) t' := hbefore.step hstep
  cases hstep with
  | @sync call id result hcall hid hnames hsync =>
    obtain ⟨latest, selected, hsynced⟩ := sync_eq_ok hsync
    rw [hsynced.page] at hevent
    obtain ⟨hqueued, hdevice, hlow, hup, -⟩ := mem_pageOf.mp hevent
    refine ⟨hdevice, hlow, hup, ?_⟩
    have hlogged : event ∈ enqueued (Action.synced call result :: before) :=
      (logInv hhere).mem_enqueued hqueued
    have hhanded : result.batch.issued ∈ history (Action.synced call result :: before) := by
      simp [answeredBy]
    obtain ⟨later, earlier, first, made, hsplit, hbatch, hnot⟩ := exists_first_answer hhanded
    refine ⟨after ++ later, earlier, first, made, ?_, hbatch, hnot, ?_⟩
    · rw [hsplit, List.append_assoc]
    · -- the batch ended at or below the cursor when it was made
      rw [hsplit] at hhere hlogged
      obtain ⟨u', hu', -⟩ := hhere.split
      cases hu' with
      | @step _ u _ _ hu hmade =>
        have hinv := batchInv (hu.step hmade)
        have hmade' : result.batch.issued ∈ history (Action.synced first made :: earlier) := by
          rw [← hbatch]
          simp [answeredBy]
        obtain ⟨n, hcursor, hle⟩ := (hinv.sound _ hmade').cursor
        have hqueuedThen : event ∈ enqueued (Action.synced first made :: earlier) := by
          refine mem_enqueued_of_le_cursor hhere (hu.step hmade) hlogged ?_ (hup.trans hle)
          rw [hdevice]
          exact hcursor
        simpa [queuedBy] using hqueuedThen

/-! ## The database's own rules -/

/-- A row a sync tries to write, with the row it would acknowledge. -/
inductive Attempt (crypto : Crypto) (db : Db) (call : SyncCall) (id : Uuid) :
    SyncBatchRecord → Option SyncBatchRecord → Prop
  | successor {latest : ℕ} {since : JsString} {parent batch : SyncBatchRecord} :
      lockSyncContext db call = .ok latest → call.position = some since →
      requireSyncBatch crypto db.queue call.deviceId since call.now = .ok parent →
      db.queue.batches.find? (fun row => row.previousBatchId = some parent.id) = none →
      parent.acknowledgedAt = none →
      createSyncBatch crypto db call latest id (some parent.id) parent.upToSequence
        parent.deviceListPosition = .ok batch →
      Attempt crypto db call id batch (some parent)
  | initial {latest : ℕ} {batch : SyncBatchRecord} :
      lockSyncContext db call = .ok latest → call.position = none →
      openInitial db.queue call.deviceId call.now = none →
      createSyncBatch crypto db call latest id none 0 0 = .ok batch →
      Attempt crypto db call id batch none

/-- The context that is locked is the device's counter. -/
theorem lockSyncContext_eq_ok {db : Db} {call : SyncCall} {latest : ℕ}
    (h : lockSyncContext db call = .ok latest) :
    db.queue.latestSequence call.deviceId = some latest := by
  unfold lockSyncContext at h
  obtain ⟨_, -, hcursor⟩ := bind_eq_ok.mp h
  exact orThrow_eq_ok.mp hcursor

/-- A stored batch is found by its id. -/
theorem BatchInv.find?_id {crypto : Crypto} {H : List SyncBatchRecord} {w : World}
    (hinv : BatchInv crypto H w) {row : SyncBatchRecord} (hrow : row ∈ w.db.queue.batches) :
    w.db.queue.batches.find? (fun batch => batch.id = row.id) = some row :=
  Table.find?_eq_some (t := ⟨w.db.queue.batches, hinv.nodup⟩) |>.mpr ⟨hrow, rfl⟩

/-- What an attempt comes down to. -/
theorem Attempt.created {crypto : Crypto} {db : Db} {call : SyncCall} {id : Uuid}
    {batch : SyncBatchRecord} {parent : Option SyncBatchRecord}
    (h : Attempt crypto db call id batch parent) :
    ∃ latest previous fromSequence fromPosition,
      db.queue.latestSequence call.deviceId = some latest ∧
        Created crypto db call latest id previous fromSequence fromPosition batch := by
  cases h with
  | successor hlock _ _ _ _ hcreate =>
    exact ⟨_, _, _, _, lockSyncContext_eq_ok hlock, createSyncBatch_eq_ok hcreate⟩
  | initial hlock _ _ hcreate =>
    exact ⟨_, _, _, _, lockSyncContext_eq_ok hlock, createSyncBatch_eq_ok hcreate⟩

section Attempt

variable {trace : List Action} {w : World} {call : SyncCall} {id : Uuid} {batch : SyncBatchRecord}
  {parent : Option SyncBatchRecord}

/-- An attempt makes a sound batch. -/
theorem Attempt.sound (h : Attempt env.crypto w.db call id batch parent)
    (hrun : (service env).Run trace w) (hcall : call ∈ w.calls) : Sound env.crypto w batch := by
  obtain ⟨latest, previous, fromSequence, fromPosition, hcursor, hcreated⟩ := h.created
  exact hcreated.sound ((batchInv hrun).calls call hcall) hcursor

/-- The row passes the check constraints. -/
theorem Attempt.constraints (h : Attempt env.crypto w.db call id batch parent)
    (hrun : (service env).Run trace w) (hcall : call ∈ w.calls) : batch.constraints = true := by
  have hsound := h.sound hrun hcall
  obtain ⟨latest, previous, fromSequence, fromPosition, -, hcreated⟩ := h.created
  have hissued := hcreated.columns.2.2.2.2.2.2
  have hvalid := hsound.valid
  have hhash : fixed hashPattern batch.tokenHash = true := by
    rw [hsound.hash]
    exact env.crypto.sha256_format _
  simp only [assertTokenData, Bool.and_eq_true, decide_eq_true_eq] at hvalid
  simp only [SyncBatchRecord.constraints, Bool.and_eq_true, decide_eq_true_eq, hissued,
    Option.all_none]
  exact ⟨⟨⟨⟨hvalid.1, hhash⟩, hsound.live⟩, trivial⟩, hvalid.2⟩

/-- The row passes the lineage trigger. -/
theorem Attempt.lineage (h : Attempt env.crypto w.db call id batch parent)
    (hrun : (service env).Run trace w) (hcall : call ∈ w.calls) :
    validateMatrixSyncBatch w.db batch = true := by
  have hinv := batchInv hrun
  have hsound := h.sound hrun hcall
  obtain ⟨n, hcursor, hle⟩ := hsound.cursor
  have hretention := hsound.retention
  have hpredecessor : validatePredecessor w.db batch = true := by
    cases h with
    | @successor latest since parent batch hlock hposition haccept hchild hopen hcreate =>
      have haccepted := requireSyncBatch_eq_ok haccept
      have hcreated := createSyncBatch_eq_ok hcreate
      have hsucc := haccepted.successor hposition hinv (hinv.calls call hcall) hcreated
      have hprevious := hcreated.columns.2.2.1
      simp only [validatePredecessor, hprevious, hinv.find?_id haccepted.mem, Bool.and_eq_true,
        beq_iff_eq, decide_eq_true_eq]
      exact ⟨⟨⟨⟨⟨hsucc.device, hsucc.sequence⟩, hsucc.position⟩, hsucc.clock⟩, hsucc.live⟩, hopen⟩
    | initial hlock hposition hopen hcreate =>
      obtain ⟨-, -, hprevious, hfrom, hfromPosition, -⟩ :=
        (createSyncBatch_eq_ok hcreate).columns
      simp [validatePredecessor, hprevious, hfrom, hfromPosition]
  have hdays : batch.expiresAt ≤ batch.createdAt + thirtyDaysMs :=
    hretention.trans (Nat.add_le_add_left (by decide) _)
  simp only [validateMatrixSyncBatch, hpredecessor, hcursor, Option.any_some, Bool.and_eq_true,
    decide_eq_true_eq]
  exact ⟨⟨⟨⟨⟨trivial, hle⟩, hsound.position⟩, hsound.le.1⟩, hsound.le.2⟩, hdays⟩

/-- The row passes the replay-window trigger. -/
theorem Attempt.replayWindow (h : Attempt env.crypto w.db call id batch parent)
    (hrun : (service env).Run trace w) (hcall : call ∈ w.calls) :
    validateMatrixSyncReplayWindow w.db batch = true := by
  have hsound := h.sound hrun hcall
  obtain ⟨latest, previous, fromSequence, fromPosition, -, hcreated⟩ := h.created
  have hsubset := hcreated.liveIn_subset ((logInv hrun).pairwise_events call.deviceId)
  have hearliest : ∀ earliest ∈ earliestEventExpiry w.db batch, batch.expiresAt ≤ earliest := by
    intro earliest hmin
    have hmem : earliest ∈ (w.db.queue.liveIn batch).map MatrixToDeviceEvent.expiresAt :=
      List.min?_mem hmin
    obtain ⟨event, hevent, rfl⟩ := List.mem_map.mp hmem
    rw [hcreated.eq]
    exact batchExpiry_le_of_mem (hsubset hevent)
  have hretention : batch.expiresAt ≤ batch.createdAt + fortyEightHoursMs := hsound.retention
  simp only [validateMatrixSyncReplayWindow, Bool.and_eq_true, decide_eq_true_eq]
  refine ⟨hretention, ?_⟩
  cases hmin : earliestEventExpiry w.db batch with
  | none => rfl
  | some earliest => simpa using hearliest earliest hmin

/-- The acknowledgement of the parent passes the trigger on updates and the
check constraints. -/
theorem Attempt.acknowledgement {old : SyncBatchRecord}
    (h : Attempt env.crypto w.db call id batch (some old))
    (hrun : (service env).Run trace w) (hcall : call ∈ w.calls) :
    validateMatrixSyncBatchUpdate w.db.clock old (acknowledge old.id call.now old) = true ∧
      (acknowledge old.id call.now old).constraints = true := by
  have hinv := batchInv hrun
  have hwaiting := hinv.calls call hcall
  cases h with
  | successor hlock hposition haccept hchild hopen hcreate =>
    have haccepted := requireSyncBatch_eq_ok haccept
    have hsound := hinv.sound _ (hinv.stored old haccepted.mem)
    have hnamed := haccepted.named hposition hinv hwaiting
    have hacknowledged : acknowledge old.id call.now old =
        { old with acknowledgedAt := some call.now } := by
      simp [acknowledge, hopen]
    have hvalid := hsound.valid
    have hhash : fixed hashPattern old.tokenHash = true := by
      have hstored : old.tokenHash = old.issued.tokenHash := rfl
      rw [hstored, hsound.hash]
      exact env.crypto.sha256_format _
    have hlive : old.createdAt < old.expiresAt := hsound.live
    rw [issued_data] at hvalid
    simp only [assertTokenData, Bool.and_eq_true, decide_eq_true_eq] at hvalid
    rw [hacknowledged]
    constructor
    · simp [validateMatrixSyncBatchUpdate, hopen, hwaiting.clock]
    · simp only [SyncBatchRecord.constraints, Bool.and_eq_true, decide_eq_true_eq, Option.all_some]
      exact ⟨⟨⟨⟨hvalid.1, hhash⟩, hlive⟩, hnamed.1⟩, hvalid.2⟩

end Attempt

/-! ## Retention -/

section Retention

variable {trace : List Action} {w : World} {batch : SyncBatchRecord} {T : ℕ}

/-- A batch that has not expired survives the retention job. -/
theorem mem_purgeBatches {queue : Queue} {row : SyncBatchRecord} :
    row ∈ (queue.purgeBatches T).batches ↔ row ∈ queue.batches ∧ T < row.expiresAt := by
  simp [Queue.purgeBatches]

/-- The row a condition finds is the one that alone satisfies it. -/
theorem find?_eq_some_of_unique {rows : List SyncBatchRecord} {p : SyncBatchRecord → Bool}
    {row : SyncBatchRecord} (hrow : row ∈ rows) (hp : p row = true)
    (hunique : ∀ other ∈ rows, p other = true → other = row) : rows.find? p = some row := by
  obtain ⟨found, hfound⟩ : ∃ found, rows.find? p = some found :=
    Option.isSome_iff_exists.mp (List.find?_isSome.mpr ⟨row, hrow, hp⟩)
  rw [hfound, hunique found (List.mem_of_find?_eq_some hfound) (List.find?_some hfound)]

/-- A batch has its id alone. -/
theorem BatchInv.eq_of_id {crypto : Crypto} {H : List SyncBatchRecord} (hinv : BatchInv crypto H w)
    {a b : SyncBatchRecord} (ha : a ∈ w.db.queue.batches) (hb : b ∈ w.db.queue.batches)
    (hid : a.id = b.id) : a = b :=
  List.inj_on_of_nodup_map hinv.nodup ha hb hid

/-- Two stored successors of one batch are one. -/
theorem BatchInv.eq_of_previous {crypto : Crypto} {H : List SyncBatchRecord}
    (hinv : BatchInv crypto H w) {a b : SyncBatchRecord} {id : Uuid}
    (ha : a ∈ w.db.queue.batches) (hb : b ∈ w.db.queue.batches)
    (haid : a.previousBatchId = some id) (hbid : b.previousBatchId = some id) : a = b := by
  have hissued := hinv.unique a.issued (hinv.stored a ha) b.issued (hinv.stored b hb) id haid hbid
  exact hinv.eq_of_id ha hb (congrArg (fun batch => batch.id) hissued)

/-- **The retention job decides about no token of a batch that lives on.** -/
theorem requireSyncBatch_purge (hrun : (service env).Run trace w)
    (hbatch : batch ∈ w.db.queue.batches) (hlive : T < batch.expiresAt) (deviceId : Uuid)
    (now : ℕ) :
    requireSyncBatch env.crypto (w.db.queue.purgeBatches T) deviceId
        (tokenText env.crypto batch.toMatrixSyncTokenData) now =
      requireSyncBatch env.crypto w.db.queue deviceId
        (tokenText env.crypto batch.toMatrixSyncTokenData) now := by
  have hinv := batchInv hrun
  have hunique : ∀ other ∈ w.db.queue.batches,
      decide (other.id.text = batch.id.text) = true → other = batch := fun other hother hid =>
    hinv.eq_of_id hother hbatch (Uuid.text_injective (of_decide_eq_true hid))
  have hbefore : w.db.queue.batches.find? (fun row => row.id.text = batch.id.text) = some batch :=
    find?_eq_some_of_unique hbatch (by simp) hunique
  have hafter : (w.db.queue.purgeBatches T).batches.find?
      (fun row => row.id.text = batch.id.text) = some batch :=
    find?_eq_some_of_unique (mem_purgeBatches.mpr ⟨hbatch, hlive⟩) (by simp)
      fun other hother hid => hunique other (mem_purgeBatches.mp hother).1 hid
  simp only [requireSyncBatch, parse_tokenText, hbefore, hafter]

/-- The open row of an unacknowledged parent is counted once. -/
theorem countP_parent {rows : List SyncBatchRecord} {parent child : SyncBatchRecord}
    (hnodup : (rows.map fun row => row.id).Nodup) (hparent : parent ∈ rows)
    (hopen : parent.acknowledgedAt = none) (hchild : child.id ≠ parent.id) :
    (rows ++ [child]).countP (fun row => row.id = parent.id ∧ row.acknowledgedAt = none) = 1 := by
  have hrows : rows.countP (fun row => row.id = parent.id ∧ row.acknowledgedAt = none) =
      (rows.map fun row => row.id).count parent.id := by
    rw [List.count, List.countP_map]
    refine List.countP_congr fun row hrow => ?_
    simp only [decide_eq_true_eq, Function.comp_apply, beq_iff_eq]
    constructor
    · exact fun h => h.1
    · intro hid
      rw [List.inj_on_of_nodup_map hnodup hrow hparent hid]
      exact ⟨rfl, hopen⟩
  rw [List.countP_append, hrows, List.count_eq_one_of_mem hnodup
    (List.mem_map_of_mem hparent)]
  simp [hchild]

/-- When a sync with a position finds its batch. -/
def Answers (crypto : Crypto) (db : Db) (call : SyncCall) (latest : ℕ) (id : Uuid)
    (since : JsString) : Prop :=
  ∃ parent, requireSyncBatch crypto db.queue call.deviceId since call.now = .ok parent ∧
    ((∃ child, db.queue.batches.find? (fun row => row.previousBatchId = some parent.id) =
        some child ∧ call.now < child.expiresAt) ∨
      (db.queue.batches.find? (fun row => row.previousBatchId = some parent.id) = none ∧
        parent.acknowledgedAt = none ∧
        ∃ child, createSyncBatch crypto db call latest id (some parent.id) parent.upToSequence
            parent.deviceListPosition = .ok child ∧
          (db.queue.batches ++ [child]).countP (fun row =>
            row.id = parent.id ∧ row.acknowledgedAt = none) = 1))

/-- **When a token is answered.** -/
theorem selectSuccessor_eq_ok_iff {crypto : Crypto} {db : Db} {call : SyncCall} {latest : ℕ}
    {id : Uuid} {since : JsString} :
    (∃ selected, selectSuccessor crypto db call latest id since = .ok selected) ↔
      Answers crypto db call latest id since := by
  unfold selectSuccessor
  constructor
  · rintro ⟨selected, h⟩
    obtain ⟨parent, hparent, h⟩ := bind_eq_ok.mp h
    refine ⟨parent, hparent, ?_⟩
    cases hchild : db.queue.batches.find? fun row => row.previousBatchId = some parent.id with
    | some child =>
      rw [hchild] at h
      dsimp only at h
      split_ifs at h with hexpired
      exact .inl ⟨child, rfl, by omega⟩
    | none =>
      rw [hchild] at h
      obtain ⟨_, hopen, h⟩ := bind_eq_ok.mp h
      obtain ⟨child, hcreate, h⟩ := bind_eq_ok.mp h
      obtain ⟨_, hcount, -⟩ := bind_eq_ok.mp h
      rw [require_eq_ok, Option.isNone_iff_eq_none] at hopen
      rw [require_eq_ok, beq_iff_eq] at hcount
      exact .inr ⟨rfl, hopen, child, hcreate, hcount⟩
  · rintro ⟨parent, haccept, ⟨child, hchild, hlive⟩ | ⟨hchild, hopen, child, hcreate, hcount⟩⟩
    · refine ⟨⟨db.queue, child, true⟩, bind_eq_ok.mpr ⟨parent, haccept, ?_⟩⟩
      rw [hchild]
      exact if_neg (by omega)
    · refine ⟨⟨db.queue.advance call.deviceId parent child call.now, child, true⟩,
        bind_eq_ok.mpr ⟨parent, haccept, ?_⟩⟩
      rw [hchild]
      have hcounted : (((db.queue.batches ++ [child]).countP fun row =>
          row.id = parent.id ∧ row.acknowledgedAt = none) == 1) = true := beq_iff_eq.mpr hcount
      exact bind_eq_ok.mpr ⟨(), by simp [hopen], bind_eq_ok.mpr ⟨child, hcreate,
        bind_eq_ok.mpr ⟨(), require_eq_ok.mpr hcounted, rfl⟩⟩⟩

/-- The database after the retention job deleted the batches expired by `T`. -/
def Db.purgeBatches (db : Db) (T : ℕ) : Db := { db with queue := db.queue.purgeBatches T }

/-- **A sync that starts after the job finds the batch of its position
exactly when it would have found it before.** -/
theorem answers_purge (hrun : (service env).Run trace w) (hbatch : batch ∈ w.db.queue.batches)
    (hlive : T < batch.expiresAt) {call : SyncCall} (hnow : T ≤ call.now) {latest : ℕ} {id : Uuid}
    (hid : id ∉ w.drawn) :
    Answers env.crypto (w.db.purgeBatches T) call latest id
        (tokenText env.crypto batch.toMatrixSyncTokenData) ↔
      Answers env.crypto w.db call latest id
        (tokenText env.crypto batch.toMatrixSyncTokenData) := by
  have hinv := batchInv hrun
  have hsame := requireSyncBatch_purge hrun hbatch hlive call.deviceId call.now
  have hparentEq : ∀ parent, requireSyncBatch env.crypto w.db.queue call.deviceId
      (tokenText env.crypto batch.toMatrixSyncTokenData) call.now = .ok parent →
      parent = batch := by
    intro parent haccept
    have haccepted := requireSyncBatch_eq_ok haccept
    exact hinv.eq_of_id haccepted.mem hbatch (id_eq_of_tokenText_eq haccepted.token).symm
  have hfind : ∀ child ∈ w.db.queue.batches, child.previousBatchId = some batch.id →
      ∀ rows : List SyncBatchRecord, rows ⊆ w.db.queue.batches → child ∈ rows →
        rows.find? (fun row => row.previousBatchId = some batch.id) = some child :=
    fun child hchild hlink rows hrows hmem =>
      find?_eq_some_of_unique hmem (by simpa using hlink) fun other hother hp =>
        hinv.eq_of_previous (hrows hother) hchild (of_decide_eq_true hp) hlink
  have hsub : (w.db.queue.purgeBatches T).batches ⊆ w.db.queue.batches := fun row hrow =>
    (mem_purgeBatches.mp hrow).1
  have hkept : batch ∈ (w.db.queue.purgeBatches T).batches := mem_purgeBatches.mpr ⟨hbatch, hlive⟩
  have hnodup : ((w.db.queue.purgeBatches T).batches.map fun row => row.id).Nodup :=
    hinv.nodup.sublist (List.filter_sublist.map _)
  have hfresh : ∀ child, createSyncBatch env.crypto w.db call latest id (some batch.id)
      batch.upToSequence batch.deviceListPosition = .ok child → child.id ≠ batch.id := by
    intro child hcreate heq
    refine hid ?_
    rw [← (createSyncBatch_eq_ok hcreate).columns.1, heq]
    exact hinv.drawn batch.issued (hinv.stored batch hbatch)
  constructor
  · rintro ⟨parent, haccept, hcase⟩
    rw [Db.purgeBatches, hsame] at haccept
    obtain rfl := hparentEq parent haccept
    refine ⟨parent, haccept, ?_⟩
    rcases hcase with ⟨child, hchild, hchildLive⟩ | ⟨hchild, hopen, child, hcreate, hcount⟩
    · have hmem := hsub (List.mem_of_find?_eq_some hchild)
      have hlink := List.find?_some hchild
      exact .inl ⟨child, hfind child hmem (of_decide_eq_true hlink) _ (List.Subset.refl _) hmem,
        hchildLive⟩
    · have hnone : w.db.queue.batches.find? (fun row => row.previousBatchId = some parent.id) =
          none := by
        -- a batch that has a successor is acknowledged
        rw [List.find?_eq_none]
        intro child hmem hlink
        have hacknowledged := (hinv.acknowledged parent hbatch).mpr
          ⟨child.issued, hinv.stored child hmem, of_decide_eq_true hlink⟩
        simp [hopen] at hacknowledged
      exact .inr ⟨hnone, hopen, child, hcreate,
        countP_parent hinv.nodup hbatch hopen (hfresh child hcreate)⟩
  · rintro ⟨parent, haccept, hcase⟩
    obtain rfl := hparentEq parent haccept
    refine ⟨parent, by rw [Db.purgeBatches, hsame, haccept], ?_⟩
    rcases hcase with ⟨child, hchild, hchildLive⟩ | ⟨hchild, hopen, child, hcreate, -⟩
    · have hmem := List.mem_of_find?_eq_some hchild
      have hlink := List.find?_some hchild
      have hkeptChild : child ∈ (w.db.queue.purgeBatches T).batches :=
        mem_purgeBatches.mpr ⟨hmem, by omega⟩
      exact .inl ⟨child, hfind child hmem (of_decide_eq_true hlink) _ hsub hkeptChild, hchildLive⟩
    · refine .inr ⟨?_, hopen, child, hcreate,
        countP_parent hnodup hkept hopen (hfresh child hcreate)⟩
      rw [List.find?_eq_none] at hchild ⊢
      exact fun row hrow => hchild row (hsub hrow)

end Retention

/-! ## The result -/

/-- **The law of the windows.** -/
structure WindowLaw (env : Deployment) (trace : List Action) (w : World) : Prop where
  /-- Every batch ever handed out ends a chain from a root. -/
  rooted : ∀ batch ∈ history trace, ∃ chain, RootChain (history trace) batch chain
  /-- Along a chain every batch starts where its parent, of the same device, ended. -/
  adjoin : ∀ chain, Linked (history trace) chain → chain.IsChain fun parent child =>
    parent.deviceId = child.deviceId ∧ parent.upToSequence = child.fromSequence
  /-- The windows of a chain are disjoint. -/
  disjoint : ∀ chain, Linked (history trace) chain → chain.Pairwise fun a b =>
    ∀ n, ¬ ((a.fromSequence < n ∧ n ≤ a.upToSequence) ∧
      (b.fromSequence < n ∧ n ≤ b.upToSequence))
  /-- A chain from a root covers what it covers exactly once, and leaves out nothing. -/
  covers : ∀ batch chain, RootChain (history trace) batch chain → ∀ n,
    chain.countP (fun b => b.fromSequence < n && n ≤ b.upToSequence) =
      if 0 < n ∧ n ≤ batch.upToSequence then 1 else 0
  /-- A window ends at or below its device's cursor. -/
  latest : ∀ batch ∈ history trace, ∃ n,
    w.db.queue.latestSequence batch.deviceId = some n ∧ batch.upToSequence ≤ n
  /-- A batch covers at most a page of live events when it is made. -/
  atMostAPage : ∀ call result w', ServiceStep env w (.synced call result) w' →
    (∀ old ∈ history trace, old.id ≠ result.batch.id) →
    (w.db.queue.liveIn result.batch).length ≤ 100
  /-- A page shows events of the batch's window, queued before the batch was made. -/
  pages : ∀ call result, Action.synced call result ∈ trace → ∀ event ∈ result.page,
    event.recipientDeviceId = result.batch.deviceId ∧
      result.batch.fromSequence < event.recipientSequence ∧
      event.recipientSequence ≤ result.batch.upToSequence ∧
      ∃ later earlier first made, trace = later ++ Action.synced first made :: earlier ∧
        made.batch.issued = result.batch.issued ∧ result.batch.issued ∉ history earlier ∧
        event ∈ enqueued earlier
  /-- Every row a sync tries to write, and every acknowledgement, passes the
  constraints and triggers of the table. -/
  triggers : ∀ call ∈ w.calls, ∀ id batch parent, Attempt env.crypto w.db call id batch parent →
    batch.constraints = true ∧ validateMatrixSyncBatch w.db batch = true ∧
      validateMatrixSyncReplayWindow w.db batch = true ∧
      ∀ old ∈ parent, validateMatrixSyncBatchUpdate w.db.clock old
          (acknowledge old.id call.now old) = true ∧
        (acknowledge old.id call.now old).constraints = true
  /-- Deleting the batches that have expired does not change which batch a
  token of another batch is accepted for, -/
  tokens : ∀ batch ∈ w.db.queue.batches, ∀ T, T < batch.expiresAt → ∀ deviceId now,
    requireSyncBatch env.crypto (w.db.queue.purgeBatches T) deviceId
        (tokenText env.crypto batch.toMatrixSyncTokenData) now =
      requireSyncBatch env.crypto w.db.queue deviceId
        (tokenText env.crypto batch.toMatrixSyncTokenData) now
  /-- nor whether a sync that starts afterwards gets its batch for it. -/
  retention : ∀ batch ∈ w.db.queue.batches, ∀ T, T < batch.expiresAt → ∀ call latest id,
    T ≤ call.now → id ∉ w.drawn →
    ((∃ selected, selectSuccessor env.crypto (w.db.purgeBatches T) call latest id
        (tokenText env.crypto batch.toMatrixSyncTokenData) = .ok selected) ↔
      ∃ selected, selectSuccessor env.crypto w.db call latest id
        (tokenText env.crypto batch.toMatrixSyncTokenData) = .ok selected)

/-- A chain from a root covers every sequence up to its end exactly once. -/
theorem RootChain.countP {crypto : Crypto} {H chain : List SyncBatchRecord} {w : World}
    {batch : SyncBatchRecord} (h : RootChain H batch chain) (hinv : BatchInv crypto H w) (n : ℕ) :
    chain.countP (fun b => b.fromSequence < n && n ≤ b.upToSequence) =
      if 0 < n ∧ n ≤ batch.upToSequence then 1 else 0 := by
  obtain ⟨root, hhead, hroot⟩ := h.root
  have hcontiguous := h.linked.contiguous hinv
  have hlast := h.last
  have hmem := h.linked.mem
  cases chain with
  | nil => simp at hhead
  | cons first rest =>
    cases hhead
    have hfrom := (hinv.root root (hmem root (by simp)) hroot).1
    have hcount := hcontiguous.countP_covers n
    rw [List.getLast?_eq_some_getLast (List.cons_ne_nil root rest)] at hlast
    rw [Option.some.inj hlast] at hcount
    rw [hfrom] at hcount
    exact hcount

/-- **Every run of the service obeys it.** -/
theorem windows_of_chains {trace : List Action} {w : World} (h : (service env).Run trace w) :
    WindowLaw env trace w where
  rooted := exists_rootChain h
  adjoin := fun chain hchain => (hchain.successors (batchInv h)).imp fun _ _ hsucc =>
    ⟨hsucc.device, hsucc.sequence⟩
  disjoint := by
    intro chain hchain
    refine (hchain.contiguous (batchInv h)).pairwise_disjoint.imp fun hab n hn => ?_
    exact hab n ⟨Intervals.covers_eq_true.mpr hn.1, Intervals.covers_eq_true.mpr hn.2⟩
  covers := fun batch chain hchain n => hchain.countP (batchInv h) n
  latest := fun batch hbatch => ((batchInv h).sound batch hbatch).cursor
  atMostAPage := by
    intro call result w' hstep hnew
    cases hstep with
    | sync hcall hid hnames hsync =>
      obtain ⟨latest, selected, hsynced⟩ := sync_eq_ok hsync
      rw [hsynced.batch] at hnew ⊢
      obtain ⟨previous, fromSequence, fromPosition, hcreated⟩ :=
        hsynced.kind.created_of_new (batchInv h) hnew
      exact hcreated.length_liveIn_le ((logInv h).pairwise_events call.deviceId)
  pages := fun call result hmem event hevent => page_law h hmem hevent
  triggers := by
    intro call hcall id batch parent hattempt
    refine ⟨hattempt.constraints h hcall, hattempt.lineage h hcall,
      hattempt.replayWindow h hcall, ?_⟩
    rintro old hold
    cases hold
    exact hattempt.acknowledgement h hcall
  tokens := fun batch hbatch T hlive deviceId now =>
    requireSyncBatch_purge h hbatch hlive deviceId now
  retention := by
    intro batch hbatch T hlive call latest id hnow hid
    rw [selectSuccessor_eq_ok_iff, selectSuccessor_eq_ok_iff]
    exact answers_purge h hbatch hlive hnow hid

/-- The law of a run with an initial batch and its successor. -/
theorem windows_of_chains_successor :
    ∃ trace w, (history trace).length = 2 ∧ WindowLaw Sample.deployment trace w := by
  obtain ⟨trace, w, hrun, hlength⟩ := Sample.exists_run Sample.syncScript
    (fun trace _ => (history trace).length = 2) (by decide +kernel)
  exact ⟨trace, w, of_decide_eq_true hlength, windows_of_chains hrun⟩

end SinoChat
