import SinoChat.Model.Account
import Mathlib.Data.List.Dedup
import Mathlib.Logic.Function.Basic

/-!
# The device-list stream

`matrix-device-list.publisher.ts`: every change of a device set or of a
relationship appends rows to one log, all the rows of a change at one fresh
position and one row a recipient. A subject that has published no device yet
is not announced to anyone.
-/

namespace SinoChat

open Js

/-- `MatrixDeviceListChangeType`. -/
inductive ChangeType where
  | changed | left
  deriving DecidableEq

/-- The published list of a user. -/
structure MatrixDeviceListState where
  matrixUserId : JsString
  version : ℕ
  deriving DecidableEq

/-- A row of the stream: a recipient is told of a subject. -/
structure MatrixDeviceListChange where
  streamPosition : ℕ
  recipientUserId : Uuid
  subjectUserId : Uuid
  subjectVersion : ℕ
  changeType : ChangeType
  deriving DecidableEq

/-- The list states, the position of the stream and its rows, oldest first. -/
structure DeviceLists where
  states : Uuid → Option MatrixDeviceListState
  position : ℕ
  changes : List MatrixDeviceListChange

namespace DeviceLists

/-- No list, no row. -/
def empty : DeviceLists := ⟨fun _ => none, 0, []⟩

/-- Open the list of a user at version zero, once. -/
def register (lists : DeviceLists) (userId : Uuid) (matrixUserId : JsString) : DeviceLists :=
  match lists.states userId with
  | some _ => lists
  | none => { lists with states := Function.update lists.states userId (some ⟨matrixUserId, 0⟩) }

/-- The list row a publication leaves: its version goes up where the device
set itself changed. -/
def publishedState (state : MatrixDeviceListState) (bumpSubjectVersion : Bool) :
    MatrixDeviceListState :=
  if bumpSubjectVersion then { state with version := state.version + 1 } else state

/-- `publish`: nothing for no recipients, for a subject without a list and
for a list at version zero; otherwise the stream advances by one and every
recipient gets a row there. -/
def publish (lists : DeviceLists) (subjectUserId : Uuid) (rawRecipientUserIds : List Uuid)
    (changeType : ChangeType) (bumpSubjectVersion : Bool) : DeviceLists :=
  let recipientUserIds := rawRecipientUserIds.dedup
  if recipientUserIds = [] then lists
  else
    match lists.states subjectUserId with
    | none => lists
    | some lockedState =>
      let state := publishedState lockedState bumpSubjectVersion
      let states := Function.update lists.states subjectUserId (some state)
      if state.version < 1 then { lists with states }
      else
        { states
          position := lists.position + 1
          changes := lists.changes ++ recipientUserIds.map fun recipientUserId =>
            { streamPosition := lists.position + 1, recipientUserId, subjectUserId,
              subjectVersion := state.version, changeType } }

/-- `publishRelationshipChanged`: each party hears about the other. -/
def publishRelationshipChanged (lists : DeviceLists) (clientUserId cashierUserId : Uuid)
    (changeType : ChangeType) : DeviceLists :=
  (lists.publish clientUserId [cashierUserId] changeType false).publish
    cashierUserId [clientUserId] changeType false

end DeviceLists

namespace Accounts

variable (accounts : Accounts)

/-- The running assignments with an active conversation that a user is party to. -/
def currentRelationships (userId : Uuid) : List Assignment :=
  accounts.conversations.rows.filterMap fun conversation =>
    match accounts.assignments.find? conversation.assignmentId with
    | some assignment =>
      if conversation.status = .active ∧ assignment.endedAt = none ∧
          (userId = assignment.clientUserId ∨ userId = assignment.cashierUserId) then
        some assignment
      else none
    | none => none

/-- The other party of an assignment. -/
def counterpart (userId : Uuid) (assignment : Assignment) : Uuid :=
  if assignment.clientUserId = userId then assignment.cashierUserId else assignment.clientUserId

/-- `currentRelationshipRecipients`: the user and every counterpart. -/
def currentRelationshipRecipients (userId : Uuid) : List Uuid :=
  (userId :: (accounts.currentRelationships userId).map (counterpart userId)).dedup

end Accounts

namespace DeviceLists

variable (accounts : Accounts)

/-- The devices of a subject have changed: those it is related to are told. -/
def publishDeviceSetChanged (lists : DeviceLists) (subjectUserId : Uuid) : DeviceLists :=
  lists.publish subjectUserId (accounts.currentRelationshipRecipients subjectUserId) .changed true

/-- A change of all relationships of a user. -/
def publishCurrentRelationshipsForUser (lists : DeviceLists) (userId : Uuid)
    (changeType : ChangeType) : DeviceLists :=
  (accounts.currentRelationships userId).foldl
    (fun lists assignment => lists.publishRelationshipChanged assignment.clientUserId
      assignment.cashierUserId changeType) lists

end DeviceLists

/-! ## What a publication can do -/

namespace DeviceLists

/-- **What a publication does to the lists**: it keeps every list's Matrix id
and either leaves the log alone or appends the rows of one fresh position,
one a recipient, all about one subject that has a list. -/
structure Published (before after : DeviceLists) (rows : List MatrixDeviceListChange) : Prop where
  changes : after.changes = before.changes ++ rows
  position : rows = [] ∧ after.position = before.position ∨
    after.position = before.position + 1
  fresh : ∀ row ∈ rows, row.streamPosition = before.position + 1
  recipients : (rows.map MatrixDeviceListChange.recipientUserId).Nodup
  subject : ∀ row ∈ rows, (after.states row.subjectUserId).isSome
  states : ∀ user state, before.states user = some state →
    ∃ state', after.states user = some state' ∧ state'.matrixUserId = state.matrixUserId

theorem Published.refl (lists : DeviceLists) : Published lists lists [] where
  changes := by simp
  position := .inl ⟨rfl, rfl⟩
  fresh := by simp
  recipients := by simp
  subject := by simp
  states := fun _ state h => ⟨state, h, rfl⟩

@[simp] theorem publishedState_matrixUserId (state : MatrixDeviceListState) (bump : Bool) :
    (publishedState state bump).matrixUserId = state.matrixUserId := by
  cases bump <;> rfl

/-- **Every publication is of that form.** -/
theorem publish_published (lists : DeviceLists) (subjectUserId : Uuid) (recipients : List Uuid)
    (changeType : ChangeType) (bump : Bool) :
    ∃ rows, Published lists (lists.publish subjectUserId recipients changeType bump) rows := by
  unfold publish
  by_cases hnone : recipients.dedup = []
  · exact ⟨[], by simpa [hnone] using Published.refl lists⟩
  dsimp only
  rw [if_neg hnone]
  cases hstate : lists.states subjectUserId with
  | none => exact ⟨[], Published.refl lists⟩
  | some lockedState =>
    have hstates : ∀ user old, lists.states user = some old →
        ∃ new, Function.update lists.states subjectUserId
          (some (publishedState lockedState bump)) user = some new ∧
          new.matrixUserId = old.matrixUserId := by
      intro user old hold
      by_cases huser : user = subjectUserId
      · subst huser
        rw [hstate] at hold
        cases hold
        exact ⟨_, Function.update_self .., publishedState_matrixUserId _ _⟩
      · exact ⟨old, by rw [Function.update_of_ne huser, hold], rfl⟩
    dsimp only
    split_ifs with hversion
    · exact ⟨[], { Published.refl lists with subject := by simp, states := hstates }⟩
    · refine ⟨recipients.dedup.map fun recipientUserId =>
        ⟨lists.position + 1, recipientUserId, subjectUserId,
          (publishedState lockedState bump).version, changeType⟩, rfl, .inr rfl, ?_, ?_, ?_,
        hstates⟩
      · intro row hrow
        obtain ⟨_, -, rfl⟩ := List.mem_map.mp hrow
        rfl
      · rw [List.map_map]
        exact (List.map_id _).symm ▸ List.nodup_dedup recipients
      · intro row hrow
        obtain ⟨_, -, rfl⟩ := List.mem_map.mp hrow
        simp

end DeviceLists

end SinoChat
