import SinoChat.ToDevice.Lineage

/-!
# The device-list stream over a run

The log of device-list rows only grows, each publication at a position no
row was at before (`StreamInv`, `StreamGrows`). What a batch reports is
read from a range of positions that had been reached when the batch was
made, so the report of a batch never changes (`deltas_stable`).
-/

namespace SinoChat

open Js

variable {env : Deployment}

/-! ## The invariant of the log -/

/-- **The log of rows**: up to the position, in the order of positions, one
row a recipient at each, every row about a user with a list. -/
structure StreamInv (lists : DeviceLists) : Prop where
  bounded : ∀ row ∈ lists.changes, 0 < row.streamPosition ∧ row.streamPosition ≤ lists.position
  ordered : lists.changes.Pairwise fun a b => a.streamPosition ≤ b.streamPosition
  unique : lists.changes.Pairwise fun a b =>
    a.recipientUserId = b.recipientUserId → a.streamPosition < b.streamPosition
  subject : ∀ row ∈ lists.changes, (lists.states row.subjectUserId).isSome

/-- What the stream may do: append rows above its position, keep every
list's Matrix id. -/
structure StreamGrows (before after : DeviceLists) : Prop where
  changes : ∃ rows, after.changes = before.changes ++ rows ∧
    ∀ row ∈ rows, before.position < row.streamPosition
  position : before.position ≤ after.position
  states : ∀ user state, before.states user = some state →
    ∃ state', after.states user = some state' ∧ state'.matrixUserId = state.matrixUserId

theorem StreamGrows.refl (lists : DeviceLists) : StreamGrows lists lists where
  changes := ⟨[], by simp, by simp⟩
  position := le_rfl
  states := fun _ state h => ⟨state, h, rfl⟩

theorem StreamGrows.trans {a b c : DeviceLists} (hab : StreamGrows a b) (hbc : StreamGrows b c) :
    StreamGrows a c where
  changes := by
    obtain ⟨first, hfirst, hfirstPositions⟩ := hab.changes
    obtain ⟨second, hsecond, hsecondPositions⟩ := hbc.changes
    refine ⟨first ++ second, by rw [hsecond, hfirst, List.append_assoc], ?_⟩
    intro row hrow
    rcases List.mem_append.mp hrow with hmem | hmem
    · exact hfirstPositions row hmem
    · exact lt_of_le_of_lt hab.position (hsecondPositions row hmem)
  position := hab.position.trans hbc.position
  states := by
    intro user state hstate
    obtain ⟨state', hstate', hid⟩ := hab.states user state hstate
    obtain ⟨state'', hstate'', hid'⟩ := hbc.states user state' hstate'
    exact ⟨state'', hstate'', hid'.trans hid⟩

theorem DeviceLists.Published.streamGrows {before after : DeviceLists}
    {rows : List MatrixDeviceListChange} (h : DeviceLists.Published before after rows) :
    StreamGrows before after where
  changes := ⟨rows, h.changes, fun row hrow => by rw [h.fresh row hrow]; omega⟩
  position := by rcases h.position with ⟨-, h⟩ | h <;> omega
  states := h.states

theorem register_streamGrows (lists : DeviceLists) (userId : Uuid) (matrixUserId : JsString) :
    StreamGrows lists (lists.register userId matrixUserId) := by
  unfold DeviceLists.register
  cases hstate : lists.states userId with
  | some state => exact StreamGrows.refl lists
  | none =>
    refine ⟨⟨[], by simp, by simp⟩, le_rfl, ?_⟩
    intro user state hold
    have hne : user ≠ userId := by
      rintro rfl
      rw [hstate] at hold
      cases hold
    exact ⟨state, by dsimp only; rw [Function.update_of_ne hne, hold], rfl⟩

/-- What a list keeps, the log's rows keep. -/
theorem StreamInv.of_states {before after : DeviceLists} (h : StreamInv before)
    (hgrows : StreamGrows before after) (hchanges : after.changes = before.changes) :
    StreamInv after where
  bounded := fun row hrow => by
    rw [hchanges] at hrow
    have hbounds := h.bounded row hrow
    exact ⟨hbounds.1, hbounds.2.trans hgrows.position⟩
  ordered := by rw [hchanges]; exact h.ordered
  unique := by rw [hchanges]; exact h.unique
  subject := fun row hrow => by
    rw [hchanges] at hrow
    obtain ⟨state, hstate⟩ := Option.isSome_iff_exists.mp (h.subject row hrow)
    obtain ⟨state', hstate', -⟩ := hgrows.states _ state hstate
    simp [hstate']

/-- A publication keeps the log in order. -/
theorem StreamInv.publish {lists : DeviceLists} (h : StreamInv lists) (subjectUserId : Uuid)
    (recipients : List Uuid) (changeType : ChangeType) (bump : Bool) :
    StreamInv (lists.publish subjectUserId recipients changeType bump) := by
  obtain ⟨rows, hrows⟩ := DeviceLists.publish_published lists subjectUserId recipients changeType
    bump
  have hgrows := hrows.streamGrows
  rcases hrows.position with ⟨hnil, -⟩ | hposition
  · exact h.of_states hgrows (by rw [hrows.changes, hnil, List.append_nil])
  · have hfresh := hrows.fresh
    refine ⟨?_, ?_, ?_, ?_⟩
    · intro row hrow
      rw [hrows.changes] at hrow
      rcases List.mem_append.mp hrow with hold | hnew
      · have := h.bounded row hold
        omega
      · have := hfresh row hnew
        omega
    · rw [hrows.changes, List.pairwise_append]
      refine ⟨h.ordered, List.pairwise_of_forall_mem_list ?_, ?_⟩
      · intro a ha b hb
        rw [hfresh a ha, hfresh b hb]
      · intro a ha b hb
        have := h.bounded a ha
        have := hfresh b hb
        omega
    · rw [hrows.changes, List.pairwise_append]
      refine ⟨h.unique, ?_, ?_⟩
      · -- at one position no recipient has two rows
        exact (List.pairwise_map.mp hrows.recipients).imp fun hne heq => absurd heq hne
      · intro a ha b hb _
        have := h.bounded a ha
        have := hfresh b hb
        omega
    · intro row hrow
      rw [hrows.changes] at hrow
      rcases List.mem_append.mp hrow with hold | hnew
      · obtain ⟨state, hstate⟩ := Option.isSome_iff_exists.mp (h.subject row hold)
        obtain ⟨state', hstate', -⟩ := hgrows.states _ state hstate
        simp [hstate']
      · exact hrows.subject row hnew

theorem StreamInv.register {lists : DeviceLists} (h : StreamInv lists) (userId : Uuid)
    (matrixUserId : JsString) : StreamInv (lists.register userId matrixUserId) := by
  refine h.of_states (register_streamGrows lists userId matrixUserId) ?_
  unfold DeviceLists.register
  cases lists.states userId <;> rfl

/-! ## Over a run -/

/-- The three things a step does to the stream. -/
inductive StreamChange (before after : DeviceLists) : Prop
  | same : after = before → StreamChange before after
  | registered {userId : Uuid} {matrixUserId : JsString} :
      after = before.register userId matrixUserId → StreamChange before after
  | published {subjectUserId : Uuid} {recipients : List Uuid} {changeType : ChangeType}
      {bump : Bool} :
      after = before.publish subjectUserId recipients changeType bump → StreamChange before after

theorem ServiceStep.streamChange {w w' : World} {a : Action} (h : ServiceStep env w a w') :
    StreamChange w.db.lists w'.db.lists := by
  cases h with
  | @send call db' new hnow helig hfresh hsend hnew =>
    obtain ⟨deviceId, request, hash, -, ⟨-, rfl⟩ | ⟨targets, -, rfl⟩⟩ := send_cases hsend
    · exact .same rfl
    · exact .same rfl
  | sync hcall hid hnames hsync =>
    obtain ⟨latest, selected, hsynced⟩ := sync_eq_ok hsync
    exact .same (by rw [hsynced.after])
  | upload hnodup hfresh hupload =>
    obtain ⟨keys, rfl⟩ := uploadKeys_queue hupload
    exact .same rfl
  | claim hnow helig hfresh hclaim =>
    obtain ⟨keys, rfl⟩ := KeyClaim.run_queue hclaim
    exact .same rfl
  | registerList => exact .registered rfl
  | publish => exact .published rfl
  | sendFailed | syncBegin | syncFailed | uploadFailed | claimFailed | openCursor
  | changeAccounts | purgeEvents | purgeBatches | tick => exact .same rfl

theorem StreamChange.inv {before after : DeviceLists} (h : StreamChange before after)
    (hinv : StreamInv before) : StreamInv after := by
  cases h with
  | same h => exact h ▸ hinv
  | registered h => exact h ▸ hinv.register _ _
  | published h => exact h ▸ hinv.publish _ _ _ _

theorem StreamChange.grows {before after : DeviceLists} (h : StreamChange before after) :
    StreamGrows before after := by
  cases h with
  | same h => exact h ▸ StreamGrows.refl _
  | registered h => exact h ▸ register_streamGrows _ _ _
  | published h =>
    obtain ⟨rows, hrows⟩ := DeviceLists.publish_published before _ _ _ _
    exact h ▸ hrows.streamGrows

/-- **The log is in order in every run.** -/
theorem streamInv {trace : List Action} {w : World} (h : (service env).Run trace w) :
    StreamInv w.db.lists :=
  h.stateInvariant (I := fun w => StreamInv w.db.lists)
    (fun w hinit => by
      rw [hinit.lists]
      exact ⟨by simp [DeviceLists.empty], by simp [DeviceLists.empty],
        by simp [DeviceLists.empty], by simp [DeviceLists.empty]⟩)
    fun _ _ _ hinv hstep => (ServiceStep.streamChange hstep).inv hinv

theorem Steps.streamGrows {w w' : World} {trace : List Action}
    (h : (service env).Steps w trace w') : StreamGrows w.db.lists w'.db.lists :=
  h.rel (R := fun a b => StreamGrows a.db.lists b.db.lists) (fun _ => StreamGrows.refl _)
    (fun _ _ _ => StreamGrows.trans) fun _ _ _ hstep => (ServiceStep.streamChange hstep).grows

/-! ## The report of a batch -/

/-- A range of positions that was reached keeps its rows. -/
theorem deviceListWindow_stable {before after : DeviceLists} (h : StreamGrows before after)
    (userId : Uuid) (fromPosition : ℕ) {toPosition : ℕ} (hto : toPosition ≤ before.position) :
    deviceListWindow after userId fromPosition toPosition =
      deviceListWindow before userId fromPosition toPosition := by
  obtain ⟨rows, hrows, hpositions⟩ := h.changes
  have hnone : rows.filter (fun row => row.recipientUserId == userId &&
      fromPosition < row.streamPosition && row.streamPosition ≤ toPosition) = [] := by
    rw [List.filter_eq_nil_iff]
    intro row hrow
    have := hpositions row hrow
    simp only [Bool.and_eq_true, decide_eq_true_eq]
    omega
  unfold deviceListWindow
  rw [hrows, List.filter_append, hnone, List.append_nil]

/-- A row keeps the Matrix id it is about. -/
theorem rowEntry_stable {before after : DeviceLists} (h : StreamGrows before after)
    {row : MatrixDeviceListChange} (hsubject : (before.states row.subjectUserId).isSome) :
    rowEntry after row = rowEntry before row := by
  obtain ⟨state, hstate⟩ := Option.isSome_iff_exists.mp hsubject
  obtain ⟨state', hstate', hid⟩ := h.states _ state hstate
  simp [rowEntry, rowSubject, hstate, hstate', hid]

/-- **The report of a batch never changes.** -/
theorem deltas_stable {before after : DeviceLists} (hinv : StreamInv before)
    (h : StreamGrows before after) (userId : Uuid) {batch : SyncBatchRecord}
    (hposition : batch.deviceListPosition ≤ before.position) :
    buildDeviceListChanges after userId batch = buildDeviceListChanges before userId batch := by
  have hentries : (deviceListWindow before userId batch.fromDeviceListPosition
      batch.deviceListPosition).filterMap (rowEntry after) =
      (deviceListWindow before userId batch.fromDeviceListPosition
        batch.deviceListPosition).filterMap (rowEntry before) := by
    refine List.filterMap_congr fun row hrow => ?_
    exact rowEntry_stable h (hinv.subject row (mem_deviceListWindow.mp hrow).1)
  simp only [buildDeviceListChanges, deviceListWindow_stable h userId _ hposition, hentries]

end SinoChat
