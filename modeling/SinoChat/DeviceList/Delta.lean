import SinoChat.Client.Language
import SinoChat.DeviceList.Stream

/-!
# Device-list deltas

`buildDeviceListChanges` reads a window of the log and keeps, of every Matrix
id, the last change. So a delta is a function of `lastChange` alone
(`deltaOf_mem_iff`), the deltas of two windows that adjoin merge to the delta
of the joined window (`mergeDeltas_deltaOf`), and the client takes a delta exactly
when neither list is longer than 100 (`taken_deltaOf`).

A window may hold more subjects than that. The windows a sync makes end after
100 rows (`length_newWindow_le`), so what it reports is always taken.
-/

namespace SinoChat

open Js

variable {lists : DeviceLists} {userId : Uuid}

/-! ## The last change of an id -/

/-- The last change about a Matrix id in a window of rows. -/
def lastChange (lists : DeviceLists) (window : List MatrixDeviceListChange) (id : JsString) :
    Option ChangeType :=
  ((window.filter fun row => rowSubject lists row = some id).getLast?).map
    MatrixDeviceListChange.changeType

/-- The later of two windows has the last word. -/
theorem lastChange_append (earlier later : List MatrixDeviceListChange) (id : JsString) :
    lastChange lists (earlier ++ later) id =
      (lastChange lists later id).or (lastChange lists earlier id) := by
  unfold lastChange
  rw [List.filter_append, List.getLast?_append, Option.map_or]

/-- An id has a last change where a row is about it. -/
theorem lastChange_isSome {window : List MatrixDeviceListChange} {id : JsString} :
    (lastChange lists window id).isSome ↔ ∃ row ∈ window, rowSubject lists row = some id := by
  unfold lastChange
  rw [Option.isSome_map, List.getLast?_isSome, Ne, List.filter_eq_nil_iff]
  simp

/-- **The map of a window holds the last changes.** -/
theorem get?_entries (window : List MatrixDeviceListChange) (id : JsString) :
    JsMap.get? id (JsMap.ofEntries (window.filterMap (rowEntry lists))) =
      lastChange lists window id := by
  have hstep : ∀ (rows : List MatrixDeviceListChange),
      (rows.filterMap (rowEntry lists)).find? (fun entry => entry.1 = id) =
        (rows.find? fun row => rowSubject lists row = some id).map
          fun row => (id, row.changeType) := by
    intro rows
    induction rows with
    | nil => rfl
    | cons row rest ih =>
      cases hsubject : rowSubject lists row with
      | none => simp [rowEntry, hsubject, ih]
      | some subject =>
        by_cases hid : subject = id
        · simp [rowEntry, hsubject, hid]
        · simp [rowEntry, hsubject, hid, ih]
  rw [JsMap.get?_ofEntries, ← List.filterMap_reverse, hstep, lastChange, List.getLast?_filter,
    Option.map_map]
  rfl

theorem mem_usersWith {window : List MatrixDeviceListChange} {changeType : ChangeType}
    {id : JsString} :
    id ∈ usersWith (JsMap.ofEntries (window.filterMap (rowEntry lists))) changeType ↔
      lastChange lists window id = some changeType := by
  have hnodup := JsMap.nodup_keys_ofEntries (window.filterMap (rowEntry lists))
  rw [← get?_entries]
  simp only [usersWith, List.mem_sortBy, List.mem_map, List.mem_filter, decide_eq_true_eq]
  constructor
  · rintro ⟨⟨id, change⟩, ⟨hentry, rfl⟩, rfl⟩
    exact JsMap.get?_eq_some_of_mem hnodup hentry
  · intro hget
    exact ⟨(id, changeType), ⟨JsMap.mem_of_get?_eq_some hget, rfl⟩, rfl⟩

theorem nodup_usersWith {latest : JsMap JsString ChangeType} (changeType : ChangeType)
    (h : (latest.map Prod.fst).Nodup) : (usersWith latest changeType).Nodup :=
  (List.sortBy_perm _ _).nodup_iff.mpr (h.sublist (List.filter_sublist.map _))

/-! ## A window and its delta -/

/-- The delta of the rows of a user from one position to another. -/
def deltaOf (lists : DeviceLists) (userId : Uuid) (fromPosition toPosition : ℕ) :
    DeviceListsDelta :=
  let latest := JsMap.ofEntries
    ((deviceListWindow lists userId fromPosition toPosition).filterMap (rowEntry lists))
  { changed := usersWith latest .changed, left := usersWith latest .left }

theorem buildDeviceListChanges_eq (lists : DeviceLists) (userId : Uuid) (batch : SyncBatchRecord) :
    buildDeviceListChanges lists userId batch =
      deltaOf lists userId batch.fromDeviceListPosition batch.deviceListPosition := rfl

/-- **What a delta says**: the ids with a last change in the window, each in
the list of that change. -/
theorem deltaOf_mem_iff {fromPosition toPosition : ℕ} {id : JsString} :
    (id ∈ (deltaOf lists userId fromPosition toPosition).changed ↔
      lastChange lists (deviceListWindow lists userId fromPosition toPosition) id =
        some .changed) ∧
    (id ∈ (deltaOf lists userId fromPosition toPosition).left ↔
      lastChange lists (deviceListWindow lists userId fromPosition toPosition) id =
        some .left) :=
  ⟨mem_usersWith, mem_usersWith⟩

theorem nodup_deltaOf (lists : DeviceLists) (userId : Uuid) (fromPosition toPosition : ℕ) :
    (deltaOf lists userId fromPosition toPosition).changed.Nodup ∧
      (deltaOf lists userId fromPosition toPosition).left.Nodup :=
  ⟨nodup_usersWith _ (JsMap.nodup_keys_ofEntries _),
    nodup_usersWith _ (JsMap.nodup_keys_ofEntries _)⟩

/-- No id is in both lists. -/
theorem disjoint_deltaOf {fromPosition toPosition : ℕ} {id : JsString}
    (hchanged : id ∈ (deltaOf lists userId fromPosition toPosition).changed) :
    id ∉ (deltaOf lists userId fromPosition toPosition).left := by
  intro hleft
  have hboth := (deltaOf_mem_iff.1.mp hchanged).symm.trans (deltaOf_mem_iff.2.mp hleft)
  cases hboth

/-- Together the lists are the subjects of the window. -/
theorem mem_deltaOf {fromPosition toPosition : ℕ} {id : JsString} :
    (id ∈ (deltaOf lists userId fromPosition toPosition).changed ∨
      id ∈ (deltaOf lists userId fromPosition toPosition).left) ↔
    ∃ row ∈ deviceListWindow lists userId fromPosition toPosition,
      rowSubject lists row = some id := by
  rw [deltaOf_mem_iff.1, deltaOf_mem_iff.2, ← lastChange_isSome]
  cases lastChange lists (deviceListWindow lists userId fromPosition toPosition) id with
  | none => simp
  | some change => cases change <;> simp

/-! ## Windows that adjoin -/

/-- **A window cut at any position** is its two parts one after the other. -/
theorem deviceListWindow_split {fromPosition mid toPosition : ℕ} (hfrom : fromPosition ≤ mid)
    (hto : mid ≤ toPosition) :
    deviceListWindow lists userId fromPosition toPosition =
      deviceListWindow lists userId fromPosition mid ++
        deviceListWindow lists userId mid toPosition := by
  unfold deviceListWindow
  rw [List.sortBy_split _ mid, List.filter_filter, List.filter_filter]
  congr 2
  · refine List.filter_congr fun row _ => ?_
    rw [Bool.eq_iff_iff]
    simp only [Bool.and_eq_true, beq_iff_eq, decide_eq_true_eq]
    grind
  · refine List.filter_congr fun row _ => ?_
    rw [Bool.eq_iff_iff]
    simp only [Bool.and_eq_true, beq_iff_eq, decide_eq_true_eq]
    grind

/-- The delta does not name the id. -/
def DeviceListsDelta.silentOn (delta : DeviceListsDelta) (id : JsString) : Bool :=
  !(delta.changed.contains id || delta.left.contains id)

theorem DeviceListsDelta.eq_of_lists {a b : DeviceListsDelta} (hchanged : a.changed = b.changed)
    (hleft : a.left = b.left) : a = b := by
  cases a
  cases b
  cases hchanged
  cases hleft
  rfl

/-- One delta after another: an id the later one names is where that one has
it, every other id where the earlier one has it. -/
def mergeDeltas (earlier later : DeviceListsDelta) : DeviceListsDelta where
  changed := (earlier.changed.filter later.silentOn ++ later.changed).sortBy unitOrder
  left := (earlier.left.filter later.silentOn ++ later.left).sortBy unitOrder

theorem unitOrder_injective : Function.Injective unitOrder :=
  List.map_injective_iff.mpr fun _ _ h => UInt16.toNat_inj.mp h

/-- A sorted list is what is kept of an earlier one and all of a later one. -/
theorem sortBy_filter_append (kept : JsString → Bool) {earlier later joined : List JsString}
    (hjoined : joined.Pairwise fun a b => unitOrder a ≤ unitOrder b) (hnodup : joined.Nodup)
    (hearlier : earlier.Nodup) (hlater : later.Nodup) (hnot : ∀ id ∈ later, kept id = false)
    (hmem : ∀ id, id ∈ joined ↔ id ∈ later ∨ id ∈ earlier ∧ kept id = true) :
    (earlier.filter kept ++ later).sortBy unitOrder = joined := by
  rw [← List.sortBy_eq_self hjoined]
  refine List.sortBy_eq_of_mem_iff unitOrder_injective ?_ hnodup ?_
  · refine (hearlier.filter kept).append hlater ?_
    intro id hkept hid
    simp [List.mem_filter, hnot id hid] at hkept
  · intro id
    rw [hmem, List.mem_append, List.mem_filter, or_comm]

/-- A delta is silent on the ids without a change in its window. -/
theorem silentOn_deltaOf {fromPosition toPosition : ℕ} {id : JsString} :
    (deltaOf lists userId fromPosition toPosition).silentOn id = true ↔
      lastChange lists (deviceListWindow lists userId fromPosition toPosition) id = none := by
  rw [← Option.not_isSome_iff_eq_none, lastChange_isSome, ← mem_deltaOf]
  simp [DeviceListsDelta.silentOn]

theorem not_silentOn_deltaOf {fromPosition toPosition : ℕ} {id : JsString} {change : ChangeType}
    (h : lastChange lists (deviceListWindow lists userId fromPosition toPosition) id =
      some change) : (deltaOf lists userId fromPosition toPosition).silentOn id = false := by
  rw [← Bool.not_eq_true, silentOn_deltaOf, h]
  exact Option.some_ne_none change

/-- **Merging the deltas of two windows that adjoin gives the delta of both.** -/
theorem mergeDeltas_deltaOf {fromPosition mid toPosition : ℕ} (hfrom : fromPosition ≤ mid)
    (hto : mid ≤ toPosition) :
    mergeDeltas (deltaOf lists userId fromPosition mid) (deltaOf lists userId mid toPosition) =
      deltaOf lists userId fromPosition toPosition := by
  have hearlier := nodup_deltaOf lists userId fromPosition mid
  have hlater := nodup_deltaOf lists userId mid toPosition
  have hjoined := nodup_deltaOf lists userId fromPosition toPosition
  -- the last change in the joined window is the later one, where there is one
  have hlast : ∀ id change,
      lastChange lists (deviceListWindow lists userId fromPosition toPosition) id = some change ↔
        lastChange lists (deviceListWindow lists userId mid toPosition) id = some change ∨
          lastChange lists (deviceListWindow lists userId fromPosition mid) id = some change ∧
            lastChange lists (deviceListWindow lists userId mid toPosition) id = none := by
    intro id change
    rw [deviceListWindow_split hfrom hto, lastChange_append, Option.or_eq_some_iff]
    tauto
  have hchanged : (mergeDeltas (deltaOf lists userId fromPosition mid)
      (deltaOf lists userId mid toPosition)).changed =
        (deltaOf lists userId fromPosition toPosition).changed := by
    refine sortBy_filter_append _ (List.pairwise_sortBy _ _) hjoined.1 hearlier.1 hlater.1 ?_ ?_
    · exact fun id hid => not_silentOn_deltaOf (deltaOf_mem_iff.1.mp hid)
    · intro id
      rw [silentOn_deltaOf, deltaOf_mem_iff.1, deltaOf_mem_iff.1, deltaOf_mem_iff.1, hlast]
  have hleft : (mergeDeltas (deltaOf lists userId fromPosition mid)
      (deltaOf lists userId mid toPosition)).left =
        (deltaOf lists userId fromPosition toPosition).left := by
    refine sortBy_filter_append _ (List.pairwise_sortBy _ _) hjoined.2 hearlier.2 hlater.2 ?_ ?_
    · exact fun id hid => not_silentOn_deltaOf (deltaOf_mem_iff.2.mp hid)
    · intro id
      rw [silentOn_deltaOf, deltaOf_mem_iff.2, deltaOf_mem_iff.2, deltaOf_mem_iff.2, hlast]
  exact DeviceListsDelta.eq_of_lists hchanged hleft

/-! ## What the client takes -/

/-- The client takes a list of ids when they are Matrix user ids, all
different and no more than 100. -/
theorem matrixUserIdArray_map {ids : List JsString} :
    matrixUserIdArray (some (.arr (ids.map .str))) = .ok ids ↔
      ids.length ≤ 100 ∧ (∀ id ∈ ids, isMatrixUserId id = true) ∧ ids.Nodup := by
  have hparse : ∀ id, parseMatrixUserId (.str id) = .ok id ↔ isMatrixUserId id = true := by
    intro id
    unfold parseMatrixUserId
    constructor
    · intro h
      obtain ⟨userId, hid, h⟩ := bind_eq_ok.mp h
      obtain ⟨_, hmatrix, -⟩ := bind_eq_ok.mp h
      obtain rfl := Option.some.inj (orThrow_eq_ok.mp hid)
      exact require_eq_ok.mp hmatrix
    · intro h
      exact bind_eq_ok.mpr ⟨id, rfl, bind_eq_ok.mpr ⟨(), require_eq_ok.mpr h, rfl⟩⟩
  have hmap : (ids.map Json.str).mapM parseMatrixUserId = .ok ids ↔
      ∀ id ∈ ids, isMatrixUserId id = true := by
    constructor
    · intro h id hid
      exact (hparse id).mp (List.forall₂_same.mp (List.forall₂_map_left_iff.mp (mapM_eq_ok h)) id hid)
    · intro h
      exact mapM_of_forall₂ (List.forall₂_map_left_iff.mpr
        (List.forall₂_same.mpr fun id hid => (hparse id).mpr (h id hid)))
  unfold matrixUserIdArray
  constructor
  · intro h
    obtain ⟨items, hitems, h⟩ := bind_eq_ok.mp h
    obtain rfl := Json.arr.inj (Option.some.inj (plainArray_eq_ok.mp hitems))
    obtain ⟨_, hlength, h⟩ := bind_eq_ok.mp h
    obtain ⟨parsed, hparsed, h⟩ := bind_eq_ok.mp h
    obtain ⟨_, hnodup, h⟩ := bind_eq_ok.mp h
    obtain rfl := Except.ok.inj h
    exact ⟨by simpa using hlength, hmap.mp hparsed, by simpa using hnodup⟩
  · rintro ⟨hlength, hids, hnodup⟩
    exact bind_eq_ok.mpr ⟨_, plainArray_eq_ok.mpr rfl,
      bind_eq_ok.mpr ⟨(), require_eq_ok.mpr (by simpa using hlength),
        bind_eq_ok.mpr ⟨ids, hmap.mpr hids,
          bind_eq_ok.mpr ⟨(), require_eq_ok.mpr (by simpa using hnodup), rfl⟩⟩⟩⟩

/-- The client takes a delta, and reads from it what the service wrote. -/
def Taken (delta : DeviceListsDelta) : Prop :=
  parseDeviceLists (some delta.toJson) = .ok (delta.changed, delta.left)

/-- What the client reads of a delta, list by list. -/
theorem taken_iff {delta : DeviceListsDelta} :
    Taken delta ↔
      (delta.changed.length ≤ 100 ∧ (∀ id ∈ delta.changed, isMatrixUserId id = true) ∧
        delta.changed.Nodup) ∧
      (delta.left.length ≤ 100 ∧ (∀ id ∈ delta.left, isMatrixUserId id = true) ∧
        delta.left.Nodup) ∧
      ∀ id ∈ delta.changed, id ∉ delta.left := by
  have hread : parseDeviceLists (some delta.toJson) = (do
      let changed ← matrixUserIdArray (some (.arr (delta.changed.map .str)))
      let left ← matrixUserIdArray (some (.arr (delta.left.map .str)))
      require (!changed.any left.contains) syncResponseInvalid
      return (changed, left)) := by
    simp [parseDeviceLists, deviceListsRecord, plainRecord, DeviceListsDelta.toJson, Json.record?,
      notNullish]
    rfl
  rw [← matrixUserIdArray_map, ← matrixUserIdArray_map, Taken, hread]
  constructor
  · intro h
    obtain ⟨changed, hchanged, h⟩ := bind_eq_ok.mp h
    obtain ⟨left, hleft, h⟩ := bind_eq_ok.mp h
    obtain ⟨_, hdisjoint, h⟩ := bind_eq_ok.mp h
    cases Except.ok.inj h
    exact ⟨hchanged, hleft, by simpa using hdisjoint⟩
  · rintro ⟨hchanged, hleft, hdisjoint⟩
    exact bind_eq_ok.mpr ⟨_, hchanged, bind_eq_ok.mpr ⟨_, hleft,
      bind_eq_ok.mpr ⟨(), require_eq_ok.mpr (by simpa using hdisjoint), rfl⟩⟩⟩

/-- **The client takes a delta exactly when neither list is longer than 100**
and all its ids are Matrix user ids. -/
theorem taken_deltaOf {fromPosition toPosition : ℕ} :
    Taken (deltaOf lists userId fromPosition toPosition) ↔
      (deltaOf lists userId fromPosition toPosition).changed.length ≤ 100 ∧
      (deltaOf lists userId fromPosition toPosition).left.length ≤ 100 ∧
      ∀ row ∈ deviceListWindow lists userId fromPosition toPosition, ∀ id,
        rowSubject lists row = some id → isMatrixUserId id = true := by
  have hnodup := nodup_deltaOf lists userId fromPosition toPosition
  rw [taken_iff]
  constructor
  · rintro ⟨⟨hchanged, hchangedIds, -⟩, ⟨hleft, hleftIds, -⟩, -⟩
    refine ⟨hchanged, hleft, fun row hrow id hid => ?_⟩
    rcases mem_deltaOf.mpr ⟨row, hrow, hid⟩ with hmem | hmem
    · exact hchangedIds id hmem
    · exact hleftIds id hmem
  · rintro ⟨hchanged, hleft, hids⟩
    have hmatrix : ∀ id, (id ∈ (deltaOf lists userId fromPosition toPosition).changed ∨
        id ∈ (deltaOf lists userId fromPosition toPosition).left) → isMatrixUserId id = true := by
      intro id hid
      obtain ⟨row, hrow, hsubject⟩ := mem_deltaOf.mp hid
      exact hids row hrow id hsubject
    exact ⟨⟨hchanged, fun id hid => hmatrix id (.inl hid), hnodup.1⟩,
      ⟨hleft, fun id hid => hmatrix id (.inr hid), hnodup.2⟩, fun id => disjoint_deltaOf⟩

/-! ## The windows a sync makes -/

/-- A delta names no more ids than its window has rows. -/
theorem length_deltaOf_le (lists : DeviceLists) (userId : Uuid) (fromPosition toPosition : ℕ) :
    (deltaOf lists userId fromPosition toPosition).changed.length +
        (deltaOf lists userId fromPosition toPosition).left.length ≤
      (deviceListWindow lists userId fromPosition toPosition).length := by
  have hnodup := nodup_deltaOf lists userId fromPosition toPosition
  have hboth : ((deltaOf lists userId fromPosition toPosition).changed ++
      (deltaOf lists userId fromPosition toPosition).left).Nodup :=
    hnodup.1.append hnodup.2 fun _ hchanged => disjoint_deltaOf hchanged
  have hsubset : (deltaOf lists userId fromPosition toPosition).changed ++
      (deltaOf lists userId fromPosition toPosition).left ⊆
        (deviceListWindow lists userId fromPosition toPosition).filterMap (rowSubject lists) := by
    intro id hid
    exact List.mem_filterMap.mpr (mem_deltaOf.mp (List.mem_append.mp hid))
  have hle := (List.subperm_of_subset hboth hsubset).length_le
  rw [List.length_append] at hle
  exact hle.trans (List.length_filterMap_le _ _)

/-- **A window cut where a sync cuts it has at most 100 rows.** -/
theorem length_newWindow_le (hinv : StreamInv lists) (userId : Uuid) (fromPosition position : ℕ) :
    (deviceListWindow lists userId fromPosition (upToDeviceListPosition
      ((deviceListWindow lists userId fromPosition position).take maxSyncEvents)
      position)).length ≤ maxSyncEvents := by
  have hstrict : ∀ toPosition, (deviceListWindow lists userId fromPosition toPosition).Pairwise
      fun a b => a.streamPosition < b.streamPosition := by
    intro toPosition
    refine List.pairwise_sortBy_lt ?_
    refine List.pairwise_map.mpr ((hinv.unique.filter _).imp_of_mem ?_)
    intro a b ha hb hlt
    have ha' := (List.mem_filter.mp ha).2
    have hb' := (List.mem_filter.mp hb).2
    simp only [Bool.and_eq_true, beq_iff_eq] at ha' hb'
    exact (hlt (ha'.1.1.trans hb'.1.1.symm)).ne
  rcases upToDeviceListPosition_cases
    ((deviceListWindow lists userId fromPosition position).take maxSyncEvents) position with
    ⟨hlength, hcut⟩ | ⟨last, hlast, hcut⟩
  · -- a page that is not full is the whole window
    rw [List.length_take] at hlength
    rw [hcut]
    omega
  · rw [hcut]
    have hposition : last.streamPosition ≤ position :=
      (mem_deviceListWindow.mp (List.mem_of_mem_take (List.mem_of_getLast? hlast))).2.2.2
    have hsubset : deviceListWindow lists userId fromPosition last.streamPosition ⊆
        (deviceListWindow lists userId fromPosition position).take maxSyncEvents := by
      intro row hrow
      obtain ⟨hmem, huser, hfrom, hto⟩ := mem_deviceListWindow.mp hrow
      exact List.mem_take_of_key_le (hstrict position)
        (mem_deviceListWindow.mpr ⟨hmem, huser, hfrom, hto.trans hposition⟩) hlast hto
    have hle := (List.subperm_of_subset (hstrict last.streamPosition).nodup hsubset).length_le
    exact hle.trans (List.length_take_le _ _)

/-! ## Over a run -/

/-- A publication gives no user another Matrix id. -/
theorem publish_states {lists : DeviceLists} {subjectUserId user : Uuid} {recipients : List Uuid}
    {changeType : ChangeType} {bump : Bool} {state : MatrixDeviceListState}
    (h : (lists.publish subjectUserId recipients changeType bump).states user = some state) :
    ∃ old, lists.states user = some old ∧ old.matrixUserId = state.matrixUserId := by
  have hupdate : ∀ locked, lists.states subjectUserId = some locked →
      Function.update lists.states subjectUserId (some (DeviceLists.publishedState locked bump))
        user = some state →
      ∃ old, lists.states user = some old ∧ old.matrixUserId = state.matrixUserId := by
    intro locked hlocked hstate
    by_cases huser : user = subjectUserId
    · subst huser
      rw [Function.update_self] at hstate
      cases hstate
      exact ⟨locked, hlocked, (DeviceLists.publishedState_matrixUserId _ _).symm⟩
    · rw [Function.update_of_ne huser] at hstate
      exact ⟨state, hstate, rfl⟩
  unfold DeviceLists.publish at h
  by_cases hnone : recipients.dedup = []
  · rw [if_pos hnone] at h
    exact ⟨state, h, rfl⟩
  rw [if_neg hnone] at h
  cases hlocked : lists.states subjectUserId with
  | none =>
    rw [hlocked] at h
    exact ⟨state, h, rfl⟩
  | some locked =>
    rw [hlocked] at h
    dsimp only at h
    split_ifs at h with hversion
    · exact hupdate locked hlocked h
    · exact hupdate locked hlocked h

/-- A list of a user after a step was there before, or the step registered it. -/
theorem ServiceStep.registered {env : Deployment} {w w' : World} {a : Action}
    (h : ServiceStep env w a w') {user : Uuid} {state : MatrixDeviceListState}
    (hstate : w'.db.lists.states user = some state) :
    (∃ old, w.db.lists.states user = some old ∧ old.matrixUserId = state.matrixUserId) ∨
      ∃ registrant, a = .listRegistered registrant state.matrixUserId := by
  cases h with
  | @send call db' new hnow helig hfresh hsend hnew =>
    obtain ⟨deviceId, request, hash, -, ⟨-, rfl⟩ | ⟨targets, -, rfl⟩⟩ := send_cases hsend
    · exact .inl ⟨state, hstate, rfl⟩
    · exact .inl ⟨state, hstate, rfl⟩
  | sync hcall hid hnames hsync =>
    obtain ⟨latest, selected, hsynced⟩ := sync_eq_ok hsync
    exact .inl ⟨state, by rwa [hsynced.after] at hstate, rfl⟩
  | upload hnodup hfresh hupload =>
    obtain ⟨keys, rfl⟩ := uploadKeys_queue hupload
    exact .inl ⟨state, hstate, rfl⟩
  | claim hnow helig hfresh hclaim =>
    obtain ⟨keys, rfl⟩ := KeyClaim.run_queue hclaim
    exact .inl ⟨state, hstate, rfl⟩
  | @registerList userId matrixUserId =>
    dsimp only [DeviceLists.register] at hstate
    cases hold : w.db.lists.states userId with
    | some old =>
      rw [hold] at hstate
      exact .inl ⟨state, hstate, rfl⟩
    | none =>
      rw [hold] at hstate
      dsimp only at hstate
      by_cases huser : user = userId
      · subst huser
        rw [Function.update_self] at hstate
        cases hstate
        exact .inr ⟨user, rfl⟩
      · rw [Function.update_of_ne huser] at hstate
        exact .inl ⟨state, hstate, rfl⟩
  | publish => exact .inl (publish_states hstate)
  | sendFailed | syncBegin | syncFailed | uploadFailed | claimFailed | openCursor
  | changeAccounts | purgeEvents | purgeBatches | tick => exact .inl ⟨state, hstate, rfl⟩

/-- **The ids of a run's lists are those it registered.** -/
theorem registered_of_run {env : Deployment} {trace : List Action} {w : World}
    (h : (service env).Run trace w) : ∀ user state, w.db.lists.states user = some state →
      ∃ registrant, Action.listRegistered registrant state.matrixUserId ∈ trace := by
  refine h.invariant (I := fun trace w => ∀ user state, w.db.lists.states user = some state →
    ∃ registrant, Action.listRegistered registrant state.matrixUserId ∈ trace) ?_ ?_
  · intro w hinit user state hstate
    rw [hinit.lists] at hstate
    cases hstate
  · intro trace w a w' _ ih hstep user state hstate
    rcases ServiceStep.registered hstep hstate with ⟨old, hold, hid⟩ | ⟨registrant, rfl⟩
    · obtain ⟨registrant, hmem⟩ := ih user old hold
      exact ⟨registrant, List.mem_cons_of_mem _ (hid ▸ hmem)⟩
    · exact ⟨registrant, List.mem_cons_self⟩

/-- **What the sync of a run reports, the client takes**, the ids
registered being Matrix user ids. -/
theorem delta_of_created {env : Deployment} {trace : List Action} {w : World}
    (h : (service env).Run trace w)
    (hids : ∀ registrant id, Action.listRegistered registrant id ∈ trace → isMatrixUserId id = true)
    {call : SyncCall} {latestSequence fromSequence fromDeviceListPosition : ℕ} {id : Uuid}
    {previousBatchId : Option Uuid} {batch : SyncBatchRecord}
    (hcreated : createSyncBatch env.crypto w.db call latestSequence id previousBatchId fromSequence
      fromDeviceListPosition = .ok batch) :
    Taken (buildDeviceListChanges w.db.lists call.principal.id batch) := by
  obtain ⟨-, -, -, -, hfrom, -, -⟩ := (createSyncBatch_eq_ok hcreated).columns
  have hto : batch.deviceListPosition = upToDeviceListPosition ((deviceListWindow w.db.lists
      call.principal.id fromDeviceListPosition call.deviceListPosition).take maxSyncEvents)
      call.deviceListPosition := by
    rw [(createSyncBatch_eq_ok hcreated).eq]
    rfl
  have hwindow := length_newWindow_le (streamInv h) call.principal.id fromDeviceListPosition
    call.deviceListPosition
  have hdelta := length_deltaOf_le w.db.lists call.principal.id fromDeviceListPosition
    batch.deviceListPosition
  rw [← hto] at hwindow
  have hmax : maxSyncEvents = 100 := rfl
  rw [buildDeviceListChanges_eq, hfrom]
  refine taken_deltaOf.mpr ⟨by omega, by omega, ?_⟩
  intro row _ id hid
  obtain ⟨hsubject, -⟩ := Option.filter_eq_some_iff.mp hid
  obtain ⟨state, hstate, rfl⟩ := Option.map_eq_some_iff.mp hsubject
  obtain ⟨registrant, hmem⟩ := registered_of_run h _ _ hstate
  exact hids registrant _ hmem

/-! ## Deltas as summaries -/

/-- **A delta sums up a window**: two lists without repetition and without a
common id, together the subjects of the window, those gone in the second. -/
structure Summarises (lists : DeviceLists) (window : List MatrixDeviceListChange)
    (delta : DeviceListsDelta) : Prop where
  changed : delta.changed.Nodup
  left : delta.left.Nodup
  disjoint : ∀ id ∈ delta.changed, id ∉ delta.left
  subjects : ∀ id, (id ∈ delta.changed ∨ id ∈ delta.left) ↔
    ∃ row ∈ window, rowSubject lists row = some id
  gone : ∀ id, id ∈ delta.left ↔ lastChange lists window id = some .left

/-- **Device-list deltas**: each sums up its window, the deltas of windows
that adjoin merge to the delta of both, and the client takes those with no
more than 100 ids a list, among them all that are made by a sync. -/
theorem device_list_deltas (env : Deployment) :
    (∀ (lists : DeviceLists) (userId : Uuid) (batch : SyncBatchRecord),
      Summarises lists (deviceListWindow lists userId batch.fromDeviceListPosition
        batch.deviceListPosition) (buildDeviceListChanges lists userId batch)) ∧
    (∀ (lists : DeviceLists) (userId : Uuid) (first second joined : SyncBatchRecord),
      first.fromDeviceListPosition ≤ first.deviceListPosition →
      second.fromDeviceListPosition = first.deviceListPosition →
      second.fromDeviceListPosition ≤ second.deviceListPosition →
      joined.fromDeviceListPosition = first.fromDeviceListPosition →
      joined.deviceListPosition = second.deviceListPosition →
      mergeDeltas (buildDeviceListChanges lists userId first)
        (buildDeviceListChanges lists userId second) =
          buildDeviceListChanges lists userId joined) ∧
    (∀ (lists : DeviceLists) (userId : Uuid) (batch : SyncBatchRecord),
      Taken (buildDeviceListChanges lists userId batch) ↔
        (buildDeviceListChanges lists userId batch).changed.length ≤ 100 ∧
        (buildDeviceListChanges lists userId batch).left.length ≤ 100 ∧
        ∀ row ∈ deviceListWindow lists userId batch.fromDeviceListPosition
            batch.deviceListPosition,
          ∀ id, rowSubject lists row = some id → isMatrixUserId id = true) ∧
    ∀ (trace : List Action) (w : World), (service env).Run trace w →
      (∀ registrant id, Action.listRegistered registrant id ∈ trace → isMatrixUserId id = true) →
      ∀ (call : SyncCall) (latestSequence : ℕ) (id : Uuid) (previousBatchId : Option Uuid)
        (fromSequence fromDeviceListPosition : ℕ) (batch : SyncBatchRecord),
        createSyncBatch env.crypto w.db call latestSequence id previousBatchId fromSequence
          fromDeviceListPosition = .ok batch →
        Taken (buildDeviceListChanges w.db.lists call.principal.id batch) := by
  refine ⟨?_, ?_, ?_, ?_⟩
  · intro lists userId batch
    have hnodup := nodup_deltaOf lists userId batch.fromDeviceListPosition
      batch.deviceListPosition
    exact ⟨hnodup.1, hnodup.2, fun _ => disjoint_deltaOf, fun _ => mem_deltaOf,
      fun _ => deltaOf_mem_iff.2⟩
  · intro lists userId first second joined hfirst hadjoin hsecond hfrom hto
    simp only [buildDeviceListChanges_eq, hadjoin, hfrom, hto]
    exact mergeDeltas_deltaOf hfirst (hadjoin ▸ hsecond)
  · exact fun lists userId batch => taken_deltaOf
  · intro trace w hrun hids call latestSequence id previousBatchId fromSequence
      fromDeviceListPosition batch hcreated
    exact delta_of_created hrun hids hcreated

namespace Sample

/-- The sync of the client, at the first row of the stream. -/
def deltaCall : SyncCall := ⟨client, clientDevice, none, 1000, 1⟩

/-- The cashier's devices are announced to the client, who syncs. -/
theorem device_list_deltas_announced : ∃ delta : DeviceListsDelta,
    delta.changed = [cashierKeys.matrixUserId] ∧ Taken delta := by
  have hregistered : (service deployment).Run
      [.listRegistered cashierId cashierKeys.matrixUserId]
      { world with db := { world.db with
        lists := DeviceLists.empty.register cashierId cashierKeys.matrixUserId } } :=
    (Machine.Run.init world_initial).step
      (@ServiceStep.registerList deployment world cashierId cashierKeys.matrixUserId)
  have hrun : (service deployment).Run
      [.published cashierId [clientId] .changed true,
        .listRegistered cashierId cashierKeys.matrixUserId]
      { world with db := { world.db with
        lists := (DeviceLists.empty.register cashierId cashierKeys.matrixUserId).publish cashierId
          [clientId] .changed true } } :=
    hregistered.step (@ServiceStep.publish deployment _ cashierId [clientId] .changed true)
  have hids : ∀ registrant id, Action.listRegistered registrant id ∈
      ([.published cashierId [clientId] .changed true,
        .listRegistered cashierId cashierKeys.matrixUserId] : List Action) →
      isMatrixUserId id = true := by
    intro registrant id hmem
    obtain ⟨-, rfl⟩ : registrant = cashierId ∧ id = cashierKeys.matrixUserId := by
      simpa using hmem
    decide +kernel
  refine ⟨_, ?_, (device_list_deltas deployment).2.2.2 _ _ hrun hids deltaCall 0 resetRootId none 0 0
    _ rfl⟩
  decide +kernel

/-! ## A window that is too long -/

/-- 101 users, each announced to the client once. -/
def crowd : DeviceLists where
  states := fun userId =>
    some ⟨js "@u" ++ userId.text.filter (· != 0x2D) ++ js ":chat.example", 1⟩
  position := 101
  changes := (List.range 101).map fun n =>
    ⟨n + 1, clientId, uuidOf ((n + 1) * 16 ^ 30), 1, .changed⟩

/-- The batch over all of them. -/
def crowdBatch : SyncBatchRecord :=
  newBatch crypto { resetRoot with deviceListPosition := 101 } 1000 2000

/-- **The client refuses the delta of a window with 101 subjects**, though
the log is in order and every id is a Matrix user id. -/
theorem not_taken_crowd : StreamInv crowd ∧
    (∀ row ∈ crowd.changes, (rowSubject crowd row).any isMatrixUserId = true) ∧
    ¬ Taken (buildDeviceListChanges crowd clientId crowdBatch) := by
  refine ⟨⟨?_, ?_, ?_, ?_⟩, ?_, ?_⟩
  · decide +kernel
  · decide +kernel
  · decide +kernel
  · exact fun _ _ => rfl
  · decide +kernel
  · intro htaken
    have hlength : (buildDeviceListChanges crowd clientId crowdBatch).changed.length = 101 := by
      simp only [buildDeviceListChanges, usersWith, List.length_sortBy]
      decide +kernel
    have := (taken_iff.mp htaken).1.1
    omega

end Sample

end SinoChat
