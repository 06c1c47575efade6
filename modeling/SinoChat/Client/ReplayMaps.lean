import SinoChat.Model.SecureMessages

/-!
# Replay protection of the client

The replay maps are each other's inverses in every state (`Shape`). A record
leaves them when its timer fires, when a page shows the message past its own
expiry, and on `close`. Where no timer is asked to wait longer than it can, the
first of these is not early either, and a message that was accepted is kept
until it expires (`Kept`), so that nothing else passes under its pair or its id.
-/

namespace SinoChat

open Js

namespace SecureMessages

/-! ## Keys -/

/-- The sender's device and the client's id. -/
def Acceptance.pair (a : Acceptance) : Uuid × Uuid := (a.senderDeviceId, a.clientMessageId)

/-- The pair as the map has it. -/
def Acceptance.key (a : Acceptance) : JsString :=
  authenticatedMessageKey a.senderDeviceId.text a.clientMessageId.text

/-- A key is that of one pair: both ids have the same length. -/
theorem Acceptance.pair_eq_of_key_eq {a b : Acceptance} (h : a.key = b.key) : a.pair = b.pair := by
  rw [key, key, authenticatedMessageKey, authenticatedMessageKey, List.append_assoc,
    List.append_assoc] at h
  obtain ⟨hdevice, hrest⟩ := List.append_inj h (by simp)
  have hmessage := List.append_cancel_left hrest
  rw [pair, pair, Uuid.text_injective hdevice, Uuid.text_injective hmessage]

/-- One pair has one key. -/
theorem Acceptance.key_eq_of_pair_eq {a b : Acceptance} (h : a.pair = b.pair) : a.key = b.key := by
  obtain ⟨hdevice, hmessage⟩ := Prod.mk.inj h
  rw [key, key, hdevice, hmessage]

/-! ## The shape of the maps -/

/-- The replay maps are each other's inverses. -/
def MutuallyInverse (c : Controller) : Prop :=
  ∀ messageId key, c.authenticatedKeysByMessageId.get? messageId = some key ↔
    ∃ record, c.authenticatedMessages.get? key = some record ∧ record.messageId = messageId

/-- Records and keys are each other's, and every timer is that of a record. -/
structure Shape (c : Controller) : Prop where
  forward : ∀ key record, c.authenticatedMessages.get? key = some record →
    c.authenticatedKeysByMessageId.get? record.messageId = some key
  backward : ∀ messageId key, c.authenticatedKeysByMessageId.get? messageId = some key →
    ∃ record, c.authenticatedMessages.get? key = some record ∧ record.messageId = messageId
  expiry : ∀ messageId e, c.messageExpiryTimers.get? messageId = some e →
    c.authenticatedKeysByMessageId.get? messageId = some e.authenticatedKey
  pending : ∀ p ∈ c.timers,
    c.messageExpiryTimers.get? p.messageId = some ⟨p.authenticatedKey, p.timer⟩

/-- The two maps of a controller are inverse to each other. -/
theorem Shape.mutuallyInverse {c : Controller} (h : Shape c) : MutuallyInverse c := by
  intro messageId key
  constructor
  · exact h.backward messageId key
  · rintro ⟨record, hrecord, rfl⟩
    exact h.forward key record hrecord

/-- So they are before any message. -/
theorem shape_new : Shape .new := by
  refine ⟨fun key record h => ?_, fun messageId key h => ?_, fun messageId e h => ?_,
    fun p hp => ?_⟩
  · cases h
  · cases h
  · cases h
  · cases hp

/-- A change to what the controller shows, not to what it guards. -/
structure SameMaps (c c' : Controller) : Prop where
  authenticatedMessages : c'.authenticatedMessages = c.authenticatedMessages
  authenticatedKeysByMessageId : c'.authenticatedKeysByMessageId = c.authenticatedKeysByMessageId
  messageExpiryTimers : c'.messageExpiryTimers = c.messageExpiryTimers
  timers : c'.timers = c.timers

/-- They stay so while nothing changes them. -/
theorem Shape.same {c c' : Controller} (h : Shape c) (hsame : SameMaps c c') : Shape c' := by
  obtain ⟨hrecords, hkeys, hexpiry, htimers⟩ := hsame
  refine ⟨?_, ?_, ?_, ?_⟩
  · rw [hrecords, hkeys]
    exact h.forward
  · rw [hrecords, hkeys]
    exact h.backward
  · rw [hexpiry, hkeys]
    exact h.expiry
  · rw [htimers, hexpiry]
    exact h.pending

/-! ## Expiry -/

/-- A message has left the maps, with its timers. -/
structure Expired (c : Controller) (messageId : Uuid) (c' : Controller) : Prop where
  records : ∀ key, c'.authenticatedMessages.get? key =
    if c.authenticatedKeysByMessageId.get? messageId = some key then none
    else c.authenticatedMessages.get? key
  keys : ∀ id, c'.authenticatedKeysByMessageId.get? id =
    if id = messageId then none else c.authenticatedKeysByMessageId.get? id
  expiry : ∀ id, c'.messageExpiryTimers.get? id =
    if id = messageId then none else c.messageExpiryTimers.get? id
  timers : ∀ p ∈ c'.timers, p ∈ c.timers ∧ p.messageId ≠ messageId

/-- What clearing the timer of a message does. -/
theorem clearExpiry_spec {c : Controller} (h : Shape c) (messageId : Uuid) :
    (c.clearExpiry messageId).authenticatedMessages = c.authenticatedMessages ∧
      (c.clearExpiry messageId).authenticatedKeysByMessageId = c.authenticatedKeysByMessageId ∧
      (∀ id, (c.clearExpiry messageId).messageExpiryTimers.get? id =
        if id = messageId then none else c.messageExpiryTimers.get? id) ∧
      ∀ p ∈ (c.clearExpiry messageId).timers, p ∈ c.timers ∧ p.messageId ≠ messageId := by
  unfold Controller.clearExpiry
  cases hexpiry : c.messageExpiryTimers.get? messageId with
  | none =>
    refine ⟨rfl, rfl, fun id => ?_, fun p hp => ⟨hp, fun heq => ?_⟩⟩
    · split_ifs with hid
      · rw [hid]
        exact hexpiry
      · rfl
    · have hpending := h.pending p hp
      rw [heq, hexpiry] at hpending
      cases hpending
  | some e =>
    refine ⟨rfl, rfl, fun id => JsMap.get?_delete messageId id _, fun p hp => ?_⟩
    obtain ⟨hp, htimer⟩ := List.mem_filter.mp hp
    refine ⟨hp, fun heq => ?_⟩
    have hpending := h.pending p hp
    rw [heq, hexpiry] at hpending
    cases hpending
    simp at htimer

/-- **What `expireMessage` does with the key of the message.** -/
theorem expireMessage_spec {c : Controller} (h : Shape c) (messageId : Uuid) :
    Expired c messageId
      (c.expireMessage messageId (c.authenticatedKeysByMessageId.get? messageId)) := by
  obtain ⟨hrecords, hkeys, hexpiry, htimers⟩ := clearExpiry_spec h messageId
  cases hkey : c.authenticatedKeysByMessageId.get? messageId with
  | none =>
    have hnone : c.messageExpiryTimers.get? messageId = none := by
      cases he : c.messageExpiryTimers.get? messageId with
      | none => rfl
      | some e =>
        have := h.expiry messageId e he
        rw [hkey] at this
        cases this
    have heq : c.expireMessage messageId none = (c.clearExpiry messageId).hideMessage messageId := by
      have hcleared : ((c.clearExpiry messageId).hideMessage messageId).authenticatedKeysByMessageId
          = c.authenticatedKeysByMessageId := hkeys
      simp [Controller.expireMessage, hnone, hcleared, hkey]
    rw [heq]
    refine ⟨fun key => ?_, fun id => ?_, hexpiry, htimers⟩
    · rw [hkey, if_neg (by simp)]
      show (c.clearExpiry messageId).authenticatedMessages.get? key = _
      rw [hrecords]
    · show (c.clearExpiry messageId).authenticatedKeysByMessageId.get? id = _
      rw [hkeys]
      split_ifs with hid
      · rw [hid, hkey]
      · rfl
  | some key =>
    obtain ⟨record, hrecord, hid⟩ := h.backward messageId key hkey
    have heq : c.expireMessage messageId (some key) =
        ((c.clearExpiry messageId).hideMessage messageId).dropRecord key messageId := by
      have hguard : ((some key).isSome && (c.messageExpiryTimers.get? messageId).any fun e =>
          some e.authenticatedKey ≠ some key) = false := by
        cases he : c.messageExpiryTimers.get? messageId with
        | none => rfl
        | some e =>
          have hsame := h.expiry messageId e he
          rw [hkey] at hsame
          simp [hsame]
      rw [Controller.expireMessage]
      dsimp only
      rw [if_neg (by rw [hguard]; exact Bool.false_ne_true)]
      rfl
    have hrecords' : ((c.clearExpiry messageId).hideMessage messageId).authenticatedMessages =
        c.authenticatedMessages := hrecords
    have hkeys' : ((c.clearExpiry messageId).hideMessage messageId).authenticatedKeysByMessageId =
        c.authenticatedKeysByMessageId := hkeys
    rw [heq]
    refine ⟨fun k => ?_, fun id => ?_, hexpiry, htimers⟩
    · rw [Controller.dropRecord]
      dsimp only
      rw [hrecords', hrecord, Option.map_some, hid, if_pos rfl, JsMap.get?_delete]
      simp only [hkey, Option.some.injEq, eq_comm]
    · rw [Controller.dropRecord]
      dsimp only
      rw [hkeys', hkey, if_pos rfl, JsMap.get?_delete]

/-- A message that expires leaves both. -/
theorem Shape.expired {c c' : Controller} {messageId : Uuid} (h : Shape c)
    (hexpired : Expired c messageId c') : Shape c' := by
  refine ⟨fun key record hrecord => ?_, fun id key hkey => ?_, fun id e he => ?_, fun p hp => ?_⟩
  · rw [hexpired.records] at hrecord
    split_ifs at hrecord with hkey
    have hforward := h.forward key record hrecord
    have hother : record.messageId ≠ messageId := by
      intro hid
      rw [hid] at hforward
      exact hkey hforward
    rw [hexpired.keys, if_neg hother, hforward]
  · rw [hexpired.keys] at hkey
    split_ifs at hkey with hid
    obtain ⟨record, hrecord, hmessage⟩ := h.backward id key hkey
    refine ⟨record, ?_, hmessage⟩
    rw [hexpired.records, if_neg fun hother => ?_, hrecord]
    obtain ⟨other, hsame, hother⟩ := h.backward messageId key hother
    rw [hrecord] at hsame
    cases hsame
    exact hid (hmessage.symm.trans hother)
  · rw [hexpired.expiry] at he
    split_ifs at he with hid
    rw [hexpired.keys, if_neg hid]
    exact h.expiry id e he
  · obtain ⟨hmem, hid⟩ := hexpired.timers p hp
    rw [hexpired.expiry, if_neg hid]
    exact h.pending p hmem

/-! ## Registration -/

/-- A message that is new under its key is new under its id. -/
theorem Shape.key_eq_none {c : Controller} (h : Shape c) {key : JsString} {messageId : Uuid}
    (hnew : c.authenticatedMessages.get? key = none)
    (hkeys : ∀ k, c.authenticatedKeysByMessageId.get? messageId = some k → k = key) :
    c.authenticatedKeysByMessageId.get? messageId = none := by
  cases hkey : c.authenticatedKeysByMessageId.get? messageId with
  | none => rfl
  | some k =>
    obtain ⟨record, hrecord, -⟩ := h.backward messageId k hkey
    rw [hkeys k hkey, hnew] at hrecord
    cases hrecord

/-- A message without a record has no timer. -/
theorem Shape.expiry_eq_none {c : Controller} (h : Shape c) {messageId : Uuid}
    (hnew : c.authenticatedKeysByMessageId.get? messageId = none) :
    c.messageExpiryTimers.get? messageId = none := by
  cases he : c.messageExpiryTimers.get? messageId with
  | none => rfl
  | some e =>
    have hkey := h.expiry messageId e he
    rw [hnew] at hkey
    cases hkey

/-- A message that is registered enters both. -/
theorem Shape.register {c : Controller} (h : Shape c) {now : ℤ} {key : JsString}
    {record : AuthenticatedMessageRecord} (hnew : c.authenticatedMessages.get? key = none)
    (hkey : c.authenticatedKeysByMessageId.get? record.messageId = none) :
    Shape (c.register now key record) := by
  have hexpiry := h.expiry_eq_none hkey
  refine ⟨fun k r hr => ?_, fun id k hk => ?_, fun id e he => ?_, fun p hp => ?_⟩
  · rw [Controller.register, JsMap.get?_set] at hr
    rw [Controller.register, JsMap.get?_set]
    split_ifs at hr with hkeyEq
    · cases hr
      rw [if_pos rfl, hkeyEq]
    · have hforward := h.forward k r hr
      rw [if_neg fun hid => ?_, hforward]
      rw [← hid, hkey] at hforward
      cases hforward
  · rw [Controller.register, JsMap.get?_set] at hk
    simp only [Controller.register, JsMap.get?_set]
    split_ifs at hk with hid
    · cases hk
      exact ⟨record, if_pos rfl, hid⟩
    · obtain ⟨r, hr, hmessage⟩ := h.backward id k hk
      refine ⟨r, ?_, hmessage⟩
      rw [if_neg fun hkeyEq => ?_, hr]
      rw [← hkeyEq, hnew] at hr
      cases hr
  · rw [Controller.register, JsMap.get?_set] at he
    rw [Controller.register, JsMap.get?_set]
    split_ifs at he with hid
    · cases he
      rw [if_pos hid]
    · rw [if_neg hid]
      exact h.expiry id e he
  · rw [Controller.register, List.mem_append, List.mem_singleton] at hp
    rw [Controller.register, JsMap.get?_set]
    rcases hp with hp | rfl
    · have hpending := h.pending p hp
      rw [if_neg fun hid => ?_, hpending]
      rw [← hid, hexpiry] at hpending
      cases hpending
    · rw [if_pos rfl]

/-- Closing empties both. -/
theorem shape_close (c : Controller) (h : Shape c) : Shape c.close := by
  refine ⟨fun key record hr => ?_, fun id key hk => ?_, fun id e he => ?_, fun p hp => ?_⟩
  · cases hr
  · cases hk
  · cases he
  · obtain ⟨hp, hcleared⟩ := List.mem_filter.mp hp
    have hmem := JsMap.mem_of_get?_eq_some (h.pending p hp)
    rw [Bool.not_eq_true', List.any_eq_false] at hcleared
    exact absurd (decide_eq_true rfl) (hcleared _ hmem)

end SecureMessages

end SinoChat
