import SinoChat.ToDevice.Log

/-!
# The window of a batch

A batch covers the sequences from where its parent ended up to the cursor,
or up to the last event of a full page. Its window holds at most a page of
live events, and every live event of the range is among them
(`mem_eventWindow_of_range`), although the page was cut before the range was
fixed. The same holds of the device-list positions.
-/

namespace SinoChat

open Js

/-! ## Events -/

section Events

variable {queue : Queue} {deviceId : Uuid} {fromSequence latestSequence now : ℕ}

/-- The live events of the device above a sequence, in order. -/
def liveAbove (queue : Queue) (deviceId : Uuid) (fromSequence latestSequence now : ℕ) :
    List MatrixToDeviceEvent :=
  (queue.events.filter fun event =>
      event.recipientDeviceId == deviceId && fromSequence < event.recipientSequence &&
        event.recipientSequence ≤ latestSequence && now < event.expiresAt).sortBy
    MatrixToDeviceEvent.recipientSequence

/-- The window is the head of the live events. -/
theorem eventWindow_eq :
    eventWindow queue deviceId fromSequence latestSequence now =
      (liveAbove queue deviceId fromSequence latestSequence now).take maxSyncEvents := rfl

@[simp] theorem mem_liveAbove {event : MatrixToDeviceEvent} :
    event ∈ liveAbove queue deviceId fromSequence latestSequence now ↔
      event ∈ queue.events ∧ event.recipientDeviceId = deviceId ∧
        fromSequence < event.recipientSequence ∧ event.recipientSequence ≤ latestSequence ∧
        now < event.expiresAt := by
  simp [liveAbove, and_assoc]

/-- An event of the window is live and within its bounds. -/
theorem mem_eventWindow {event : MatrixToDeviceEvent}
    (h : event ∈ eventWindow queue deviceId fromSequence latestSequence now) :
    event ∈ queue.events ∧ event.recipientDeviceId = deviceId ∧
      fromSequence < event.recipientSequence ∧ event.recipientSequence ≤ latestSequence ∧
      now < event.expiresAt :=
  mem_liveAbove.mp (List.mem_of_mem_take h)

/-- A window holds at most a page. -/
theorem length_eventWindow_le :
    (eventWindow queue deviceId fromSequence latestSequence now).length ≤ maxSyncEvents := by
  rw [eventWindow_eq]
  exact List.length_take_le _ _

/-- The window of a full page ends at one of its events. -/
theorem upToSequence_cases (window : List MatrixToDeviceEvent) (latestSequence : ℕ) :
    (window.length < maxSyncEvents ∧ upToSequence window latestSequence = latestSequence) ∨
      ∃ last, window.getLast? = some last ∧
        upToSequence window latestSequence = last.recipientSequence := by
  unfold upToSequence
  split_ifs with hlength
  · exact .inl ⟨hlength, rfl⟩
  · have hne : window ≠ [] := by
      rintro rfl
      exact hlength (by decide)
    exact .inr ⟨_, List.getLast?_eq_some_getLast hne, by
      rw [List.getLast?_eq_some_getLast hne]; rfl⟩

/-- A batch ends at or below the cursor. -/
theorem upToSequence_le :
    upToSequence (eventWindow queue deviceId fromSequence latestSequence now) latestSequence ≤
      latestSequence := by
  rcases upToSequence_cases (eventWindow queue deviceId fromSequence latestSequence now)
    latestSequence with ⟨-, h⟩ | ⟨last, hlast, h⟩
  · exact h.le
  · rw [h]
    exact (mem_eventWindow (List.mem_of_getLast? hlast)).2.2.2.1

/-- The waiting events of a device have different sequences. -/
def Ordered (queue : Queue) (deviceId : Uuid) : Prop :=
  (eventsFor deviceId queue.events).Pairwise fun a b => a.recipientSequence < b.recipientSequence

/-- The live events are in order. -/
theorem Ordered.pairwise_liveAbove (h : Ordered queue deviceId) :
    (liveAbove queue deviceId fromSequence latestSequence now).Pairwise
      fun a b => a.recipientSequence < b.recipientSequence := by
  refine List.pairwise_sortBy_lt ?_
  have hsub : (queue.events.filter fun event =>
      event.recipientDeviceId == deviceId && fromSequence < event.recipientSequence &&
        event.recipientSequence ≤ latestSequence && now < event.expiresAt).Sublist
      (eventsFor deviceId queue.events) := by
    refine List.monotone_filter_right _ fun event hevent => ?_
    simp only [Bool.and_eq_true] at hevent
    exact hevent.1.1.1
  exact List.pairwise_map.mpr ((h.sublist hsub).imp fun hlt => hlt.ne)

/-- **The window misses no live event of its range**, full page or not. -/
theorem mem_eventWindow_of_range (hordered : Ordered queue deviceId) {event : MatrixToDeviceEvent}
    (hevent : event ∈ queue.events) (hdevice : event.recipientDeviceId = deviceId)
    (hfrom : fromSequence < event.recipientSequence) (hlive : now < event.expiresAt)
    (hupTo : event.recipientSequence ≤
      upToSequence (eventWindow queue deviceId fromSequence latestSequence now) latestSequence) :
    event ∈ eventWindow queue deviceId fromSequence latestSequence now := by
  have hmem : event ∈ liveAbove queue deviceId fromSequence latestSequence now :=
    mem_liveAbove.mpr ⟨hevent, hdevice, hfrom, hupTo.trans upToSequence_le, hlive⟩
  rcases upToSequence_cases (eventWindow queue deviceId fromSequence latestSequence now)
    latestSequence with ⟨hlength, -⟩ | ⟨last, hlast, h⟩
  · -- a page that is not full is the whole list
    rw [eventWindow_eq, List.length_take] at hlength
    rw [eventWindow_eq, List.take_of_length_le (by omega)]
    exact hmem
  · rw [h] at hupTo
    exact List.mem_take_of_key_le hordered.pairwise_liveAbove hmem hlast hupTo

/-! ## Expiry -/

/-- The earliest expiry is no later than any. -/
theorem foldl_min_le (window : List MatrixToDeviceEvent) (bound : ℕ) :
    window.foldl (fun earliest event => min earliest event.expiresAt) bound ≤ bound ∧
      ∀ event ∈ window,
        window.foldl (fun earliest event => min earliest event.expiresAt) bound ≤
          event.expiresAt := by
  induction window generalizing bound with
  | nil => simp
  | cons a rest ih =>
    obtain ⟨hbound, hrest⟩ := ih (min bound a.expiresAt)
    refine ⟨hbound.trans (min_le_left _ _), ?_⟩
    intro event hevent
    rcases List.mem_cons.mp hevent with rfl | hmem
    · exact hbound.trans (min_le_right _ _)
    · exact hrest event hmem

/-- A batch lives no longer than the retention time. -/
theorem batchExpiry_le (window : List MatrixToDeviceEvent) (now : ℕ) :
    batchExpiry window now ≤ now + toDeviceTtlMs :=
  (foldl_min_le window _).1

/-- A batch lives no longer than any event of its window. -/
theorem batchExpiry_le_of_mem {window : List MatrixToDeviceEvent} {now : ℕ}
    {event : MatrixToDeviceEvent} (h : event ∈ window) :
    batchExpiry window now ≤ event.expiresAt :=
  (foldl_min_le window _).2 event h

end Events

/-! ## Device-list positions -/

section DeviceLists

variable {lists : DeviceLists} {userId : Uuid} {fromPosition position : ℕ}

@[simp] theorem mem_deviceListWindow {row : MatrixDeviceListChange} :
    row ∈ deviceListWindow lists userId fromPosition position ↔
      row ∈ lists.changes ∧ row.recipientUserId = userId ∧
        fromPosition < row.streamPosition ∧ row.streamPosition ≤ position := by
  simp [deviceListWindow, and_assoc]

/-- A window ends at the position, or at its last change when it is full. -/
theorem upToDeviceListPosition_cases (window : List MatrixDeviceListChange) (position : ℕ) :
    (window.length < maxSyncEvents ∧ upToDeviceListPosition window position = position) ∨
      ∃ last, window.getLast? = some last ∧
        upToDeviceListPosition window position = last.streamPosition := by
  unfold upToDeviceListPosition
  split_ifs with hlength
  · exact .inl ⟨hlength, rfl⟩
  · have hne : window ≠ [] := by
      rintro rfl
      exact hlength (by decide)
    exact .inr ⟨_, List.getLast?_eq_some_getLast hne, by
      rw [List.getLast?_eq_some_getLast hne]; rfl⟩

/-- It ends no later than the position. -/
theorem upToDeviceListPosition_le :
    upToDeviceListPosition
      ((deviceListWindow lists userId fromPosition position).take maxSyncEvents) position ≤
      position := by
  rcases upToDeviceListPosition_cases
    ((deviceListWindow lists userId fromPosition position).take maxSyncEvents) position with
    ⟨-, h⟩ | ⟨last, hlast, h⟩
  · exact h.le
  · rw [h]
    exact (mem_deviceListWindow.mp
      (List.mem_of_mem_take (List.mem_of_getLast? hlast))).2.2.2

end DeviceLists

/-! ## Pages -/

@[simp] theorem mem_pageOf {db : Db} {batch : SyncBatchRecord} {now : ℕ}
    {event : MatrixToDeviceEvent} :
    event ∈ pageOf db batch now ↔
      event ∈ db.queue.events ∧ event.recipientDeviceId = batch.deviceId ∧
        batch.fromSequence < event.recipientSequence ∧
        event.recipientSequence ≤ batch.upToSequence ∧ now < event.expiresAt ∧
        (deliver db now event).isSome := by
  simp [pageOf, and_assoc]

end SinoChat
