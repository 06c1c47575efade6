import SinoChat.ToDevice.Window

/-!
# The lineage of the sync batches

Every batch a run handed out, with the batches it hangs off: the invariant
`BatchInv` over the batches ever handed out (`history`), those still stored
and the syncs that wait. It says that a batch is fixed once and for all when
it is made, that a successor starts where its parent ended, that a parent
has one successor and is acknowledged from then on, and that an
acknowledgement leaves no event at or below the range it covers.

A step changes the stored batches in one of three ways only; the rest of
what the invariant reads grows (`Grows`), so each clause is proved once for
all steps that add no batch and once for the step that adds one.
-/

namespace SinoChat

open Js

variable {env : Deployment}

/-! ## The batches of a run -/

/-- A batch as it was made, before its acknowledgement. -/
def SyncBatchRecord.issued (batch : SyncBatchRecord) : SyncBatchRecord :=
  { batch with acknowledgedAt := none }

@[simp] theorem issued_issued (batch : SyncBatchRecord) : batch.issued.issued = batch.issued := rfl

@[simp] theorem issued_data (batch : SyncBatchRecord) :
    batch.issued.toMatrixSyncTokenData = batch.toMatrixSyncTokenData := rfl

@[simp] theorem issued_createdAt (batch : SyncBatchRecord) :
    batch.issued.createdAt = batch.createdAt := rfl

@[simp] theorem issued_expiresAt (batch : SyncBatchRecord) :
    batch.issued.expiresAt = batch.expiresAt := rfl

/-- An acknowledgement leaves what was issued. -/
@[simp] theorem issued_acknowledge (id : Uuid) (now : ℕ) (batch : SyncBatchRecord) :
    (acknowledge id now batch).issued = batch.issued := by
  unfold acknowledge
  split_ifs <;> rfl

/-- The batch a step answered with. -/
def answeredBy : Action → List SyncBatchRecord
  | .synced _ result => [result.batch.issued]
  | _ => []

/-- The batches a run answered with, as they were made, the oldest answer first. -/
def history : List Action → List SyncBatchRecord
  | [] => []
  | a :: trace => history trace ++ answeredBy a

@[simp] theorem history_nil : history [] = [] := rfl

@[simp] theorem history_cons (a : Action) (trace : List Action) :
    history (a :: trace) = history trace ++ answeredBy a := rfl

/-- What was answered stays answered. -/
theorem history_append_subset (later earlier : List Action) :
    history earlier ⊆ history (later ++ earlier) := by
  induction later with
  | nil => simp
  | cons a later ih =>
    intro batch hbatch
    exact List.mem_append_left _ (ih hbatch)

/-- A batch of the history was answered to a call. -/
theorem mem_history {trace : List Action} {batch : SyncBatchRecord} :
    batch ∈ history trace ↔
      ∃ call result, Action.synced call result ∈ trace ∧ result.batch.issued = batch := by
  induction trace with
  | nil => simp
  | cons a trace ih =>
    rw [history_cons, List.mem_append, ih]
    constructor
    · rintro (⟨call, result, hmem, rfl⟩ | hanswered)
      · exact ⟨call, result, List.mem_cons_of_mem _ hmem, rfl⟩
      · cases a <;> simp [answeredBy] at hanswered
        exact ⟨_, _, List.mem_cons_self, hanswered.symm⟩
    · rintro ⟨call, result, hmem, rfl⟩
      rcases List.mem_cons.mp hmem with heq | htail
      · exact .inr (by simp [← heq, answeredBy])
      · exact .inl ⟨call, result, htail, rfl⟩

/-! ## Growth -/

/-- What every step lets grow: the clock, the stream position, the cursors,
the UUIDs drawn; and a new event lies above its device's cursor. -/
structure Grows (w w' : World) : Prop where
  clock : w.db.clock ≤ w'.db.clock
  position : w.db.lists.position ≤ w'.db.lists.position
  cursors : ∀ deviceId n, w.db.queue.latestSequence deviceId = some n →
    ∃ n', w'.db.queue.latestSequence deviceId = some n' ∧ n ≤ n'
  drawn : w.drawn ⊆ w'.drawn
  events : ∀ event ∈ w'.db.queue.events, event ∈ w.db.queue.events ∨
    ∀ n, w.db.queue.latestSequence event.recipientDeviceId = some n → n < event.recipientSequence

theorem Grows.refl (w : World) : Grows w w where
  clock := le_rfl
  position := le_rfl
  cursors := fun _ n h => ⟨n, h, le_rfl⟩
  drawn := fun _ h => h
  events := fun _ h => .inl h

/-- A publication moves the position forward. -/
theorem publish_position (lists : DeviceLists) (subjectUserId : Uuid) (recipients : List Uuid)
    (changeType : ChangeType) (bump : Bool) :
    lists.position ≤ (lists.publish subjectUserId recipients changeType bump).position := by
  obtain ⟨rows, hrows⟩ := DeviceLists.publish_published lists subjectUserId recipients changeType
    bump
  rcases hrows.position with ⟨-, h⟩ | h <;> omega

/-- A send leaves the batches alone. -/
theorem afterSend_batches (queue : Queue) (call : SendCall) (deviceId : Uuid)
    (request : MatrixToDeviceRequest) (hash : JsString) (targets : List ResolvedTarget) :
    (queue.afterSend call deviceId request hash targets).batches = queue.batches := by
  unfold Queue.afterSend
  generalize hstart : queue.record ⟨call.rowId, deviceId, request.transactionId,
    request.eventType, hash, call.now⟩ = start
  have hbatches : start.batches = queue.batches := by rw [← hstart]; rfl
  rw [← hbatches]
  clear hstart hbatches
  induction targets generalizing start with
  | nil => rfl
  | cons target rest ih => exact ih (start.enqueueTarget call.rowId call.now target)

/-- The counters of the devices only grow, by induction on the targets. -/
theorem foldl_enqueueTarget_grows (rowId : Uuid) (now : ℕ) (targets : List ResolvedTarget)
    (queue : Queue) :
    (∀ deviceId n, queue.latestSequence deviceId = some n →
      ∃ n', (targets.foldl (Queue.enqueueTarget rowId now) queue).latestSequence deviceId =
        some n' ∧ n ≤ n') ∧
    ∀ event ∈ (targets.foldl (Queue.enqueueTarget rowId now) queue).events,
      event ∈ queue.events ∨
        ∀ n, queue.latestSequence event.recipientDeviceId = some n → n < event.recipientSequence := by
  induction targets generalizing queue with
  | nil => exact ⟨fun _ n h => ⟨n, h, le_rfl⟩, fun _ h => .inl h⟩
  | cons target rest ih =>
    obtain ⟨hcursors, hevents⟩ := ih (queue.enqueueTarget rowId now target)
    have hone : ∀ deviceId n, queue.latestSequence deviceId = some n →
        ∃ n', (queue.enqueueTarget rowId now target).latestSequence deviceId = some n' ∧
          n ≤ n' := by
      intro deviceId n hn
      by_cases hd : deviceId = target.deviceId
      · subst hd
        exact ⟨n + 1, by simp [Queue.enqueueTarget, hn], by omega⟩
      · exact ⟨n, by simp [Queue.enqueueTarget, Function.update_of_ne hd, hn], le_rfl⟩
    refine ⟨?_, ?_⟩
    · intro deviceId n hn
      obtain ⟨m, hm, hle⟩ := hone deviceId n hn
      obtain ⟨n', hn', hle'⟩ := hcursors deviceId m hm
      exact ⟨n', hn', hle.trans hle'⟩
    · intro event hevent
      rcases hevents event hevent with hmem | hnew
      · simp only [Queue.enqueueTarget, List.mem_append, List.mem_singleton] at hmem
        rcases hmem with hmem | rfl
        · exact .inl hmem
        · refine .inr fun n hn => ?_
          dsimp only at hn ⊢
          simp [hn]
      · refine .inr fun n hn => ?_
        obtain ⟨m, hm, hle⟩ := hone _ n hn
        exact lt_of_le_of_lt hle (hnew m hm)

/-- A selection leaves the events and their counters alone. -/
theorem Selected.queue_eq {crypto : Crypto} {db : Db} {call : SyncCall} {latest : ℕ} {id : Uuid}
    {selected : SelectedBatch} (h : Selected crypto db call latest id selected) :
    selected.queue.latestSequence = db.queue.latestSequence ∧
      selected.queue.events.Sublist db.queue.events := by
  cases h with
  | advance => exact ⟨rfl, List.filter_sublist⟩
  | replay | reopen | initial => exact ⟨rfl, List.Sublist.refl _⟩

/-- **Every step of the service grows the tables.** -/
theorem ServiceStep.grows {w w' : World} {a : Action} (h : ServiceStep env w a w') :
    Grows w w' := by
  cases h with
  | @send call db' new hnow helig hfresh hsend hnew =>
    obtain ⟨deviceId, request, hash, -, ⟨-, rfl⟩ | ⟨targets, -, rfl⟩⟩ := send_cases hsend
    · exact { Grows.refl w with drawn := List.subset_cons_self _ _ }
    · obtain ⟨hcursors, hevents⟩ := foldl_enqueueTarget_grows call.rowId call.now targets
        (w.db.queue.record ⟨call.rowId, deviceId, request.transactionId, request.eventType, hash,
          call.now⟩)
      exact { clock := le_rfl, position := le_rfl, cursors := hcursors
              drawn := List.subset_cons_self _ _, events := hevents }
  | @sync call id result hcall hid hnames hsync =>
    obtain ⟨latest, selected, hsynced⟩ := sync_eq_ok hsync
    obtain ⟨hlatest, hevents⟩ := hsynced.kind.queue_eq
    rw [hsynced.after]
    exact { clock := le_rfl, position := le_rfl
            cursors := fun deviceId n hn => ⟨n, by rw [← hn, ← hlatest], le_rfl⟩
            drawn := List.subset_cons_self _ _
            events := fun event hevent => .inl (hevents.subset hevent) }
  | upload hnodup hfresh hupload =>
    obtain ⟨keys, rfl⟩ := uploadKeys_queue hupload
    exact { Grows.refl w with drawn := List.subset_append_right _ _ }
  | claim hnow helig hfresh hclaim =>
    obtain ⟨keys, rfl⟩ := KeyClaim.run_queue hclaim
    exact { Grows.refl w with drawn := List.subset_cons_self _ _ }
  | @openCursor deviceId hnone =>
    refine { Grows.refl w with cursors := fun d n hn => ⟨n, ?_, le_rfl⟩ }
    have hne : d ≠ deviceId := by
      rintro rfl
      rw [hnone] at hn
      cases hn
    simpa [Function.update_of_ne hne] using hn
  | @registerList userId matrixUserId =>
    refine { Grows.refl w with position := ?_ }
    simp only [DeviceLists.register]
    split <;> exact le_rfl
  | publish => exact { Grows.refl w with position := publish_position .. }
  | purgeEvents hnow =>
    exact { Grows.refl w with events := fun event h => .inl (List.mem_of_mem_filter h) }
  | tick hclock => exact { Grows.refl w with clock := hclock }
  | sendFailed | syncBegin | syncFailed | uploadFailed | claimFailed | changeAccounts
  | purgeBatches => exact { Grows.refl w with }

/-! ## The invariant -/

/-- What is known of a batch by itself: its data is valid and hashed, it
lived when it was made and does not outlive the retention time, and it ends
at or below its device's cursor and the stream position. -/
structure Sound (crypto : Crypto) (w : World) (batch : SyncBatchRecord) : Prop where
  valid : assertTokenData batch.toMatrixSyncTokenData = true
  hash : batch.tokenHash = crypto.sha256Hex (tokenText crypto batch.toMatrixSyncTokenData)
  live : batch.createdAt < batch.expiresAt
  retention : batch.expiresAt ≤ batch.createdAt + toDeviceTtlMs
  clock : batch.createdAt ≤ w.db.clock
  cursor : ∃ n, w.db.queue.latestSequence batch.deviceId = some n ∧ batch.upToSequence ≤ n
  position : batch.deviceListPosition ≤ w.db.lists.position

/-- The bounds of a batch are in order. -/
theorem Sound.le {crypto : Crypto} {w : World} {batch : SyncBatchRecord}
    (h : Sound crypto w batch) :
    batch.fromSequence ≤ batch.upToSequence ∧
      batch.fromDeviceListPosition ≤ batch.deviceListPosition := by
  have hvalid := h.valid
  simp only [assertTokenData, Bool.and_eq_true, decide_eq_true_eq] at hvalid
  exact ⟨hvalid.1.1, hvalid.1.2⟩

/-- A sound batch stays sound. -/
theorem Sound.mono {crypto : Crypto} {w w' : World} {batch : SyncBatchRecord}
    (h : Sound crypto w batch) (hgrows : Grows w w') : Sound crypto w' batch where
  valid := h.valid
  hash := h.hash
  live := h.live
  retention := h.retention
  clock := h.clock.trans hgrows.clock
  cursor := by
    obtain ⟨n, hn, hle⟩ := h.cursor
    obtain ⟨n', hn', hle'⟩ := hgrows.cursors _ n hn
    exact ⟨n', hn', hle.trans hle'⟩
  position := h.position.trans hgrows.position

/-- A batch and its successor: the same device, the ranges adjoining, and the
successor made while the parent lived. -/
structure Successor (parent child : SyncBatchRecord) : Prop where
  device : parent.deviceId = child.deviceId
  sequence : parent.upToSequence = child.fromSequence
  position : parent.deviceListPosition = child.fromDeviceListPosition
  clock : parent.createdAt ≤ child.createdAt
  live : child.createdAt < parent.expiresAt

/-- What is known of a waiting sync: its readings are in the past, and of the
batch its position names they are not older than the batch. -/
structure Waiting (H : List SyncBatchRecord) (w : World) (call : SyncCall) : Prop where
  clock : call.now ≤ w.db.clock
  position : call.deviceListPosition ≤ w.db.lists.position
  named : ∀ batch ∈ H, call.names batch.id →
    batch.createdAt ≤ call.now ∧ batch.deviceListPosition ≤ call.deviceListPosition

/-- **The batch invariant**, for the batches `H` ever handed out. -/
structure BatchInv (crypto : Crypto) (H : List SyncBatchRecord) (w : World) : Prop where
  nodup : (w.db.queue.batches.map fun batch => batch.id).Nodup
  stored : ∀ row ∈ w.db.queue.batches, row.issued ∈ H
  drawn : ∀ batch ∈ H, batch.id ∈ w.drawn
  agree : ∀ a ∈ H, ∀ b ∈ H, a.id = b.id → a = b
  sound : ∀ batch ∈ H, Sound crypto w batch
  root : ∀ batch ∈ H, batch.previousBatchId = none →
    batch.fromSequence = 0 ∧ batch.fromDeviceListPosition = 0
  parent : ∀ batch ∈ H, ∀ id, batch.previousBatchId = some id →
    ∃ parent ∈ H, parent.id = id ∧ Successor parent batch
  unique : ∀ a ∈ H, ∀ b ∈ H, ∀ id, a.previousBatchId = some id → b.previousBatchId = some id → a = b
  acknowledged : ∀ row ∈ w.db.queue.batches,
    row.acknowledgedAt.isSome ↔ ∃ batch ∈ H, batch.previousBatchId = some row.id
  covered : ∀ batch ∈ H, ∀ event ∈ w.db.queue.events, event.recipientDeviceId = batch.deviceId →
    batch.previousBatchId ≠ none → batch.fromSequence < event.recipientSequence
  calls : ∀ call ∈ w.calls, Waiting H w call

namespace BatchInv

variable {crypto : Crypto} {H : List SyncBatchRecord} {w w' : World}

/-- The invariant before the first call. -/
theorem init (h : Initial w) : BatchInv crypto [] w where
  nodup := by simp [h.queue]
  stored := by simp [h.queue]
  drawn := by simp
  agree := by simp
  sound := by simp
  root := by simp
  parent := by simp
  unique := by simp
  acknowledged := by simp [h.queue]
  covered := by simp
  calls := by simp [h.calls]

/-- Only which batches were handed out matters. -/
theorem congr {H' : List SyncBatchRecord} (hmem : ∀ batch, batch ∈ H' ↔ batch ∈ H)
    (h : BatchInv crypto H w) : BatchInv crypto H' w where
  nodup := h.nodup
  stored := fun row hrow => (hmem _).mpr (h.stored row hrow)
  drawn := fun batch hbatch => h.drawn batch ((hmem _).mp hbatch)
  agree := fun a ha b hb => h.agree a ((hmem _).mp ha) b ((hmem _).mp hb)
  sound := fun batch hbatch => h.sound batch ((hmem _).mp hbatch)
  root := fun batch hbatch => h.root batch ((hmem _).mp hbatch)
  parent := fun batch hbatch id hid => by
    obtain ⟨parent, hparent, hsucc⟩ := h.parent batch ((hmem _).mp hbatch) id hid
    exact ⟨parent, (hmem _).mpr hparent, hsucc⟩
  unique := fun a ha b hb => h.unique a ((hmem _).mp ha) b ((hmem _).mp hb)
  acknowledged := fun row hrow => by
    rw [h.acknowledged row hrow]
    exact exists_congr fun batch => and_congr_left fun _ => (hmem batch).symm
  covered := fun batch hbatch => h.covered batch ((hmem _).mp hbatch)
  calls := fun call hcall => by
    have hwaiting := h.calls call hcall
    exact ⟨hwaiting.clock, hwaiting.position,
      fun batch hbatch => hwaiting.named batch ((hmem _).mp hbatch)⟩

/-- What a batch covers stays covered. -/
theorem covered_of_grows (h : BatchInv crypto H w) (hgrows : Grows w w')
    {batch : SyncBatchRecord} (hbatch : batch ∈ H) (hnone : batch.previousBatchId ≠ none)
    {event : MatrixToDeviceEvent} (hevent : event ∈ w'.db.queue.events)
    (hdevice : event.recipientDeviceId = batch.deviceId) :
    batch.fromSequence < event.recipientSequence := by
  rcases hgrows.events event hevent with hold | hnew
  · exact h.covered batch hbatch event hold hdevice hnone
  · -- a new event lies above the cursor, which no batch exceeds
    obtain ⟨n, hn, hle⟩ := (h.sound batch hbatch).cursor
    have hlt := hnew n (by rw [hdevice]; exact hn)
    have := (h.sound batch hbatch).le.1
    omega

/-! ## One step -/

/-- What keeps the invariant without a new batch: the batches are those
before or some of them, and no sync begins. -/
theorem of_grows (h : BatchInv crypto H w) (hgrows : Grows w w')
    (hbatches : w'.db.queue.batches.Sublist w.db.queue.batches)
    (hcalls : w'.calls ⊆ w.calls) : BatchInv crypto H w' where
  nodup := h.nodup.sublist (hbatches.map _)
  stored := fun row hrow => h.stored row (hbatches.subset hrow)
  drawn := fun batch hbatch => hgrows.drawn (h.drawn batch hbatch)
  agree := h.agree
  sound := fun batch hbatch => (h.sound batch hbatch).mono hgrows
  root := h.root
  parent := h.parent
  unique := h.unique
  acknowledged := fun row hrow => h.acknowledged row (hbatches.subset hrow)
  covered := fun _ hbatch _ hevent hdevice hnone =>
    h.covered_of_grows hgrows hbatch hnone hevent hdevice
  calls := fun call hcall => by
    have hwaiting := h.calls call (hcalls hcall)
    exact ⟨hwaiting.clock.trans hgrows.clock, hwaiting.position.trans hgrows.position,
      hwaiting.named⟩

/-- A sync that begins reads the clock and the position as they are. -/
theorem begin (h : BatchInv crypto H w) {call : SyncCall} (hnow : call.now = w.db.clock)
    (hposition : call.deviceListPosition = w.db.lists.position) :
    BatchInv crypto H { w with calls := call :: w.calls } where
  nodup := h.nodup
  stored := h.stored
  drawn := h.drawn
  agree := h.agree
  sound := fun batch hbatch => (h.sound batch hbatch).mono { Grows.refl w with }
  root := h.root
  parent := h.parent
  unique := h.unique
  acknowledged := h.acknowledged
  covered := h.covered
  calls := by
    intro waiting hwaiting
    rcases List.mem_cons.mp hwaiting with rfl | hold
    · refine ⟨hnow.le, hposition.le, fun batch hbatch _ => ?_⟩
      rw [hnow, hposition]
      exact ⟨(h.sound batch hbatch).clock, (h.sound batch hbatch).position⟩
    · have hcall := h.calls waiting hold
      exact ⟨hcall.clock, hcall.position, hcall.named⟩

/-- A batch answered before is answered again. -/
theorem again (h : BatchInv crypto H w) {row : SyncBatchRecord}
    (hrow : row ∈ w.db.queue.batches) : BatchInv crypto (H ++ [row.issued]) w := by
  refine h.congr fun batch => ?_
  rw [List.mem_append, List.mem_singleton]
  constructor
  · rintro (hbatch | rfl)
    · exact hbatch
    · exact h.stored row hrow
  · exact .inl

/-- What makes a batch a new leaf: it is a root, or its parent has no
successor and the queue holds nothing the parent covers. -/
structure Leaf (H : List SyncBatchRecord) (w' : World) (batch : SyncBatchRecord) : Prop where
  root : batch.previousBatchId = none →
    batch.fromSequence = 0 ∧ batch.fromDeviceListPosition = 0
  parent : ∀ id, batch.previousBatchId = some id →
    ∃ parent ∈ H, parent.id = id ∧ Successor parent batch
  first : ∀ id, batch.previousBatchId = some id → ∀ other ∈ H, other.previousBatchId ≠ some id
  covered : batch.previousBatchId ≠ none → ∀ event ∈ w'.db.queue.events,
    event.recipientDeviceId = batch.deviceId → batch.fromSequence < event.recipientSequence

/-- A fresh id is no batch's. -/
theorem id_ne_of_fresh (h : BatchInv crypto H w) {id : Uuid} (hfresh : id ∉ w.drawn) :
    ∀ old ∈ H, old.id ≠ id :=
  fun old hold heq => hfresh (heq ▸ h.drawn old hold)

/-- Nor is it a stored row's. -/
theorem row_id_ne_of_fresh (h : BatchInv crypto H w) {id : Uuid} (hfresh : id ∉ w.drawn) :
    ∀ row ∈ w.db.queue.batches, row.id ≠ id :=
  fun row hrow => h.id_ne_of_fresh hfresh row.issued (h.stored row hrow)

/-- A new batch has no successor yet. -/
theorem not_previous_of_fresh (h : BatchInv crypto H w) {batch : SyncBatchRecord}
    (hfresh : batch.id ∉ w.drawn) (hleaf : Leaf H w' batch) :
    ∀ other ∈ H ++ [batch], other.previousBatchId ≠ some batch.id := by
  refine List.forall_mem_append.mpr ⟨fun other hother hprevious => ?_,
    List.forall_mem_singleton.mpr fun hprevious => ?_⟩
  · obtain ⟨parent, hparent, hid, -⟩ := h.parent other hother _ hprevious
    exact h.id_ne_of_fresh hfresh parent hparent hid
  · obtain ⟨parent, hparent, hid, -⟩ := hleaf.parent _ hprevious
    exact h.id_ne_of_fresh hfresh parent hparent hid

/-- A row is acknowledged, or by the new batch, if it has a successor. -/
theorem acknowledged_append (h : BatchInv crypto H w) {batch : SyncBatchRecord}
    (hfresh : batch.id ∉ w.drawn) (hissued : batch.acknowledgedAt = none)
    (hleaf : Leaf H w' batch) : ∀ row ∈ w.db.queue.batches ++ [batch],
      (row.acknowledgedAt.isSome ∨ batch.previousBatchId = some row.id ↔
        ∃ other ∈ H ++ [batch], other.previousBatchId = some row.id) := by
  have hnone := h.not_previous_of_fresh hfresh hleaf
  refine List.forall_mem_append.mpr ⟨fun row hrow => ?_, List.forall_mem_singleton.mpr ?_⟩
  · rw [h.acknowledged row hrow]
    simp [or_and_right, exists_or]
  · rw [hissued]
    simp only [Option.isSome_none, Bool.false_eq_true, false_or]
    refine iff_of_false (hnone batch (List.mem_append_right _ (List.mem_singleton_self _))) ?_
    rintro ⟨other, hother, hprevious⟩
    exact hnone other hother hprevious

/-- A symmetric relation of a list and a new item. -/
theorem forall_pair_append {α : Type*} {l : List α} {x : α} {P : α → α → Prop}
    (hsymm : ∀ a b, P a b → P b a) (hold : ∀ a ∈ l, ∀ b ∈ l, P a b) (hnew : ∀ a ∈ l, P a x)
    (hself : P x x) : ∀ a ∈ l ++ [x], ∀ b ∈ l ++ [x], P a b := by
  refine List.forall_mem_append.mpr ⟨fun a ha => ?_, List.forall_mem_singleton.mpr ?_⟩
  · exact List.forall_mem_append.mpr ⟨hold a ha, List.forall_mem_singleton.mpr (hnew a ha)⟩
  · exact List.forall_mem_append.mpr ⟨fun b hb => hsymm b x (hnew b hb),
      List.forall_mem_singleton.mpr hself⟩

/-- **A step that adds a batch**, marking the rows it must. -/
theorem add (h : BatchInv crypto H w) (hgrows : Grows w w') {batch : SyncBatchRecord}
    (mark : SyncBatchRecord → SyncBatchRecord)
    (hbatches : w'.db.queue.batches = (w.db.queue.batches ++ [batch]).map mark)
    (hmark : ∀ row, (mark row).issued = row.issued)
    (hacknowledged : ∀ row, (mark row).acknowledgedAt.isSome ↔
      row.acknowledgedAt.isSome ∨ batch.previousBatchId = some row.id)
    (hcalls : w'.calls ⊆ w.calls) (hnames : ∀ call ∈ w.calls, ¬ call.names batch.id)
    (hfresh : batch.id ∉ w.drawn) (hdrawn : batch.id ∈ w'.drawn)
    (hissued : batch.acknowledgedAt = none) (hsound : Sound crypto w' batch)
    (hleaf : Leaf H w' batch) : BatchInv crypto (H ++ [batch]) w' := by
  have hmarkId : ∀ row, (mark row).id = row.id := fun row =>
    congrArg (fun batch => batch.id) (hmark row)
  -- A batch that nobody has acknowledged is as it was issued.
  have hself : batch.issued = batch := by
    cases batch
    cases hissued
    rfl
  -- Every row is an old one or the new one, with its mark.
  have hrows : ∀ row' ∈ w'.db.queue.batches, ∃ row ∈ w.db.queue.batches ++ [batch],
      mark row = row' := by
    rw [hbatches]
    exact fun row' hrow' => List.mem_map.mp hrow'
  constructor
  case nodup =>
    have hids : w'.db.queue.batches.map (fun row => row.id) =
        (w.db.queue.batches ++ [batch]).map fun row => row.id := by
      rw [hbatches, List.map_map]
      exact List.map_congr_left fun row _ => hmarkId row
    rw [hids, List.map_append]
    refine h.nodup.append (List.nodup_singleton _) ?_
    intro id hold hlast
    obtain ⟨row, hrow, rfl⟩ := List.mem_map.mp hold
    exact h.row_id_ne_of_fresh hfresh row hrow (by simpa using hlast)
  case stored =>
    intro row' hrow'
    obtain ⟨row, hrow, rfl⟩ := hrows row' hrow'
    rw [hmark]
    rcases List.mem_append.mp hrow with hold | hlast
    · exact List.mem_append_left _ (h.stored row hold)
    · rw [List.mem_singleton.mp hlast, hself]
      exact List.mem_append_right _ (List.mem_singleton_self _)
  case drawn =>
    exact List.forall_mem_append.mpr ⟨fun b hb => hgrows.drawn (h.drawn b hb),
      List.forall_mem_singleton.mpr hdrawn⟩
  case agree =>
    exact forall_pair_append (fun _ _ hab hid => (hab hid.symm).symm) h.agree
      (fun a ha hid => absurd hid (h.id_ne_of_fresh hfresh a ha)) fun _ => rfl
  case sound =>
    exact List.forall_mem_append.mpr ⟨fun b hb => (h.sound b hb).mono hgrows,
      List.forall_mem_singleton.mpr hsound⟩
  case root =>
    exact List.forall_mem_append.mpr ⟨h.root, List.forall_mem_singleton.mpr hleaf.root⟩
  -- The parent of an old batch is among the old ones, and so is the new one's.
  case parent =>
    intro b hb id hprevious
    obtain ⟨parent, hparent, hsucc⟩ : ∃ parent ∈ H, parent.id = id ∧ Successor parent b :=
      (List.forall_mem_append.mpr ⟨h.parent, List.forall_mem_singleton.mpr hleaf.parent⟩ :
        ∀ b ∈ H ++ [batch], _) b hb id hprevious
    exact ⟨parent, List.mem_append_left _ hparent, hsucc⟩
  case unique =>
    exact forall_pair_append (fun _ _ hab id ha hb => (hab id hb ha).symm) h.unique
      (fun a ha id hprevA hprevB => absurd hprevA (hleaf.first id hprevB a ha)) fun _ _ _ => rfl
  -- The marked row is the one that got its successor.
  case acknowledged =>
    intro row' hrow'
    obtain ⟨row, hrow, rfl⟩ := hrows row' hrow'
    rw [hmarkId, hacknowledged]
    exact h.acknowledged_append hfresh hissued hleaf row hrow
  case covered =>
    intro b hb event hevent hdevice hnone
    rcases List.mem_append.mp hb with hold | hlast
    · exact h.covered_of_grows hgrows hold hnone hevent hdevice
    · rw [List.mem_singleton.mp hlast] at hdevice hnone ⊢
      exact hleaf.covered hnone event hevent hdevice
  case calls =>
    intro call hcall
    have hwaiting := h.calls call (hcalls hcall)
    refine ⟨hwaiting.clock.trans hgrows.clock, hwaiting.position.trans hgrows.position, ?_⟩
    exact List.forall_mem_append.mpr ⟨hwaiting.named, List.forall_mem_singleton.mpr fun hnamed =>
      absurd hnamed (hnames call (hcalls hcall))⟩

end BatchInv

/-! ## The batch a sync makes -/

section Created

variable {crypto : Crypto} {H : List SyncBatchRecord} {w : World} {call : SyncCall}
  {latestSequence fromSequence fromDeviceListPosition : ℕ} {id : Uuid}
  {previousBatchId : Option Uuid} {batch : SyncBatchRecord}

/-- The columns of a new batch. -/
theorem Created.columns {db : Db}
    (h : Created crypto db call latestSequence id previousBatchId fromSequence
      fromDeviceListPosition batch) :
    batch.id = id ∧ batch.deviceId = call.deviceId ∧ batch.previousBatchId = previousBatchId ∧
      batch.fromSequence = fromSequence ∧
      batch.fromDeviceListPosition = fromDeviceListPosition ∧ batch.createdAt = call.now ∧
      batch.acknowledgedAt = none := by
  rw [h.eq]
  exact ⟨rfl, rfl, rfl, rfl, rfl, rfl, rfl⟩

/-- A new batch is sound where its sync waited. -/
theorem Created.sound (h : Created crypto w.db call latestSequence id previousBatchId
      fromSequence fromDeviceListPosition batch)
    (hwaiting : Waiting H w call)
    (hcursor : w.db.queue.latestSequence call.deviceId = some latestSequence) :
    Sound crypto w batch where
  valid := h.valid
  hash := by rw [h.eq]; rfl
  live := by
    have hlive := h.live
    rwa [← h.columns.2.2.2.2.2.1] at hlive
  retention := by
    rw [h.eq]
    exact batchExpiry_le _ _
  clock := by
    rw [h.columns.2.2.2.2.2.1]
    exact hwaiting.clock
  cursor := by
    refine ⟨latestSequence, by rw [h.columns.2.1, hcursor], ?_⟩
    rw [h.eq]
    exact upToSequence_le
  position := by
    refine le_trans ?_ hwaiting.position
    rw [h.eq]
    exact upToDeviceListPosition_le

end Created

/-- A position is the token that was sent. -/
theorem SyncCall.since_of_position {call : SyncCall} {since : JsString}
    (h : call.position = some since) : call.since = some since := by
  simp only [SyncCall.position, Option.filter_eq_some_iff] at h
  exact h.1

/-- The position of a waiting sync is not older than the batch it is accepted for. -/
theorem Accepted.named {crypto : Crypto} {H : List SyncBatchRecord} {w : World} {call : SyncCall}
    {since : JsString} {parent : SyncBatchRecord}
    (h : Accepted crypto w.db.queue call.deviceId since call.now parent)
    (hposition : call.position = some since) (hinv : BatchInv crypto H w)
    (hwaiting : Waiting H w call) :
    parent.createdAt ≤ call.now ∧ parent.deviceListPosition ≤ call.deviceListPosition :=
  hwaiting.named parent.issued (hinv.stored parent h.mem)
    ⟨since, SyncCall.since_of_position hposition, h.names⟩

/-- A batch made after an accepted one is its successor. -/
theorem Accepted.successor {crypto : Crypto} {H : List SyncBatchRecord} {w : World}
    {call : SyncCall} {since : JsString} {parent batch : SyncBatchRecord} {latestSequence : ℕ}
    {id : Uuid} (h : Accepted crypto w.db.queue call.deviceId since call.now parent)
    (hposition : call.position = some since) (hinv : BatchInv crypto H w)
    (hwaiting : Waiting H w call)
    (hcreated : Created crypto w.db call latestSequence id (some parent.id) parent.upToSequence
      parent.deviceListPosition batch) : Successor parent.issued batch := by
  obtain ⟨-, hdevice, -, hfrom, hfromList, hcreatedAt, -⟩ := hcreated.columns
  exact {
    device := by rw [hdevice]; exact h.device
    sequence := hfrom.symm
    position := hfromList.symm
    clock := by rw [hcreatedAt]; exact (h.named hposition hinv hwaiting).1
    live := by rw [hcreatedAt]; exact h.live }

/-- The first batch that is open is one without a parent. -/
theorem openInitial_eq_some {queue : Queue} {deviceId : Uuid} {now : ℕ} {batch : SyncBatchRecord}
    (h : openInitial queue deviceId now = some batch) :
    batch ∈ queue.batches ∧ batch.deviceId = deviceId ∧ batch.previousBatchId = none ∧
      batch.acknowledgedAt = none ∧ now < batch.expiresAt := by
  have hmem := List.mem_of_getLast? h
  simpa [and_assoc] using hmem

/-! ## Every step -/

/-- The sync step keeps the invariant, whichever batch it answers with. -/
theorem BatchInv.sync {H : List SyncBatchRecord} {w : World} {call : SyncCall} {id : Uuid}
    {result : SyncResult} {latestSequence : ℕ} {selected : SelectedBatch}
    (hinv : BatchInv env.crypto H w) (hcall : call ∈ w.calls) (hfresh : id ∉ w.drawn)
    (hnames : ∀ waiting ∈ w.calls, ¬ waiting.names id)
    (hsynced : Synced env.crypto call id w.db result latestSequence selected)
    (hgrows : Grows w { db := result.db, calls := w.calls.erase call, drawn := id :: w.drawn }) :
    BatchInv env.crypto (H ++ [result.batch.issued])
      { db := result.db, calls := w.calls.erase call, drawn := id :: w.drawn } := by
  have hwaiting := hinv.calls call hcall
  have hcalls : w.calls.erase call ⊆ w.calls := List.erase_subset
  rw [hsynced.batch]
  have hafter := hsynced.after
  have hkind := hsynced.kind
  generalize result.db = db' at hafter hgrows
  subst hafter
  cases hkind with
  | replay hposition haccepted hchild hlive =>
    exact (hinv.of_grows hgrows (List.Sublist.refl _) hcalls).again
      (List.mem_of_find?_eq_some hchild)
  | reopen hposition hopen =>
    exact (hinv.of_grows hgrows (List.Sublist.refl _) hcalls).again (openInitial_eq_some hopen).1
  | @initial batch hposition hopen hcreated =>
    obtain ⟨hid, -, hprevious, hfrom, hfromList, -, hissued⟩ := hcreated.columns
    have hself : batch.issued = batch := by rw [hcreated.eq]; rfl
    simp only [hself]
    refine hinv.add hgrows (fun row => row) ?_ (fun _ => rfl) (by simp [hprevious]) hcalls
      (by rw [hid]; exact hnames) (by rw [hid]; exact hfresh) (by simp [hid]) hissued
      ((hcreated.sound hwaiting hsynced.cursor).mono hgrows) ?_
    · simp
    · exact ⟨fun _ => ⟨hfrom, hfromList⟩, by simp [hprevious], by simp [hprevious],
        by simp [hprevious]⟩
  | @advance since parent batch hposition haccepted hchild hopen hcreated =>
    obtain ⟨hid, hdevice, hprevious, hfrom, -, -, hissued⟩ := hcreated.columns
    have hself : batch.issued = batch := by rw [hcreated.eq]; rfl
    have hparent := hinv.stored parent haccepted.mem
    simp only [hself]
    refine hinv.add hgrows (acknowledge parent.id call.now) rfl
      (issued_acknowledge _ _) ?_ hcalls (by rw [hid]; exact hnames) (by rw [hid]; exact hfresh)
      (by simp [hid]) hissued ((hcreated.sound hwaiting hsynced.cursor).mono hgrows) ?_
    · intro row
      rw [hprevious]
      unfold acknowledge
      split_ifs with hrow
      · simp [hrow.1]
      · by_cases hsame : row.id = parent.id
        · have : row.acknowledgedAt.isSome := by
            rw [Option.isSome_iff_ne_none]
            exact fun hnone => hrow ⟨hsame, hnone⟩
          simp [this]
        · simp [Ne.symm hsame]
    · refine ⟨by simp [hprevious], ?_, ?_, ?_⟩
      · intro parentId heq
        rw [hprevious] at heq
        cases heq
        exact ⟨parent.issued, hparent, rfl,
          haccepted.successor hposition hinv hwaiting hcreated⟩
      · -- a parent that is not acknowledged never had a successor
        intro parentId heq other hother hotherPrevious
        rw [hprevious] at heq
        cases heq
        have := (hinv.acknowledged parent haccepted.mem).mpr ⟨other, hother, hotherPrevious⟩
        simp [hopen] at this
      · intro _ event hevent heventDevice
        simp only [Queue.advance, List.mem_filter, Bool.not_eq_true', Bool.and_eq_false_iff,
          beq_eq_false_iff_ne, decide_eq_false_iff_not, not_le] at hevent
        rw [hfrom]
        exact hevent.2.resolve_left (by rw [heventDevice, hdevice]; exact fun h => h rfl)

/-- **Every step keeps the batch invariant.** -/
theorem BatchInv.step {H : List SyncBatchRecord} {w w' : World} {a : Action}
    (hinv : BatchInv env.crypto H w) (h : ServiceStep env w a w') :
    BatchInv env.crypto (H ++ answeredBy a) w' := by
  have hgrows := h.grows
  cases h with
  | sync hcall hid hnames hsync =>
    obtain ⟨latest, selected, hsynced⟩ := sync_eq_ok hsync
    exact hinv.sync hcall hid hnames hsynced hgrows
  | syncBegin hbegin =>
    obtain ⟨hnow, hposition, -, -⟩ := beginSync_eq_ok hbegin
    simp only [answeredBy, List.append_nil]
    exact hinv.begin hnow hposition
  | @send call db' new hnow helig hfresh hsend hnew =>
    simp only [answeredBy, List.append_nil]
    refine hinv.of_grows hgrows ?_ fun _ h => h
    obtain ⟨deviceId, request, hash, -, ⟨-, rfl⟩ | ⟨targets, -, rfl⟩⟩ := send_cases hsend
    · exact List.Sublist.refl _
    · simp [afterSend_batches]
  | upload hnodup hfresh hupload =>
    obtain ⟨keys, rfl⟩ := uploadKeys_queue hupload
    simp only [answeredBy, List.append_nil]
    exact hinv.of_grows hgrows (List.Sublist.refl _) fun _ h => h
  | claim hnow helig hfresh hclaim =>
    obtain ⟨keys, rfl⟩ := KeyClaim.run_queue hclaim
    simp only [answeredBy, List.append_nil]
    exact hinv.of_grows hgrows (List.Sublist.refl _) fun _ h => h
  | purgeBatches hnow =>
    simp only [answeredBy, List.append_nil]
    exact hinv.of_grows hgrows List.filter_sublist fun _ h => h
  | syncFailed hcall hsync =>
    simp only [answeredBy, List.append_nil]
    exact hinv.of_grows hgrows (List.Sublist.refl _) List.erase_subset
  | sendFailed | uploadFailed | claimFailed | openCursor | registerList | publish
  | changeAccounts | purgeEvents | tick =>
    simp only [answeredBy, List.append_nil]
    exact hinv.of_grows hgrows (List.Sublist.refl _) fun _ h => h

/-- **The batch invariant holds in every run.** -/
theorem batchInv {trace : List Action} {w : World} (h : (service env).Run trace w) :
    BatchInv env.crypto (history trace) w :=
  h.invariant (I := fun trace w => BatchInv env.crypto (history trace) w)
    (fun _ => BatchInv.init) fun _ _ _ _ _ hinv hstep => hinv.step hstep

end SinoChat
