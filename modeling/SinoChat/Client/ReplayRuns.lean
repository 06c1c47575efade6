import SinoChat.Client.ReplayMaps

/-!
# Replays over a run

What a turn can do to the replay maps is one relation (`TurnSteps`): it changes
what is shown, expires messages that are due, and accepts messages, known or new
ones. A command is a turn, a timer that fires, `close`, or none of these
(`exec_cases`). Every run keeps the maps in shape, and a run without delays
beyond those of `setTimeout` keeps every accepted message until it expires.
-/

namespace SinoChat

open Js

namespace SecureMessages

variable {env : Env}

/-! ## What a turn does -/

/-- The steps of a turn at a time, from a controller and what was accepted;
`ok` holds of the messages that are registered. -/
inductive TurnSteps (ok : Acceptance → Prop) (now : ℤ) (c : Controller)
    (accepted : List Acceptance) : Controller → List Acceptance → Prop
  | refl : TurnSteps ok now c accepted c accepted
  | same {c₁ c₂ : Controller} {accepted₁ : List Acceptance} :
      TurnSteps ok now c accepted c₁ accepted₁ → SameMaps c₁ c₂ →
      TurnSteps ok now c accepted c₂ accepted₁
  | expire {c₁ : Controller} {accepted₁ : List Acceptance} (messageId : Uuid) :
      TurnSteps ok now c accepted c₁ accepted₁ →
      TurnSteps ok now c accepted (c₁.expireMessageIfDue now messageId) accepted₁
  | known {c₁ : Controller} {accepted₁ : List Acceptance} {a : Acceptance} :
      TurnSteps ok now c accepted c₁ accepted₁ → a.acceptedAt = now →
      now < a.record.expiresAtMs → c₁.authenticatedMessages.get? a.key = some a.record →
      TurnSteps ok now c accepted c₁ (a :: accepted₁)
  | new {c₁ : Controller} {accepted₁ : List Acceptance} {a : Acceptance} :
      TurnSteps ok now c accepted c₁ accepted₁ → a.acceptedAt = now →
      now < a.record.expiresAtMs → c₁.authenticatedMessages.get? a.key = none →
      (∀ key, c₁.authenticatedKeysByMessageId.get? a.record.messageId = some key → key = a.key) →
      ok a → TurnSteps ok now c accepted (c₁.register now a.key a.record) (a :: accepted₁)

variable {ok : Acceptance → Prop} {now : ℤ} {c : Controller} {accepted : List Acceptance}

/-- The steps of a turn so far. -/
def Turn.Reached (ok : Acceptance → Prop) (now : ℤ) (c : Controller)
    (accepted : List Acceptance) (turn : Turn) : Prop :=
  TurnSteps ok now c accepted turn.controller turn.accepted

/-- A cached message is accepted under its record. -/
theorem reached_reuse {turn : Turn} {conversationId : JsString}
    {encrypted : EncryptedTransportMessage} {expiresAtMs : ℤ} {cached : DecryptedMessage}
    (h : turn.Reached ok now c accepted)
    (hcached : turn.controller.cached? conversationId encrypted expiresAtMs = some cached)
    (hlive : now < expiresAtMs) :
    (turn.reuse env now conversationId encrypted expiresAtMs cached).Reached ok now c accepted := by
  obtain ⟨-, hmatch⟩ := Option.filter_eq_some_iff.mp hcached
  simp only [Controller.matchesAuthenticatedMessage, Bool.and_eq_true, decide_eq_true_eq] at hmatch
  have hknown : TurnSteps ok now c accepted turn.controller
      (acceptanceOf now conversationId encrypted expiresAtMs :: turn.accepted) :=
    .known h rfl hlive hmatch.2.1
  exact .same hknown ⟨rfl, rfl, rfl, rfl⟩

/-- Displaying a message registers nothing. -/
theorem reached_display {turn : Turn} {conversationId : JsString}
    {encrypted : EncryptedTransportMessage} {body : ChatBody}
    (h : turn.Reached ok now c accepted) :
    (turn.display env conversationId encrypted body).Reached ok now c accepted :=
  .same h ⟨rfl, rfl, rfl, rfl⟩

/-- **The loop of a load.** -/
theorem reached_scan {conversationId : JsString} (items : List EncryptedTransportMessage)
    {turn : Turn} (h : turn.Reached ok now c accepted) :
    (scan env now conversationId items turn).1.Reached ok now c accepted := by
  induction items generalizing turn with
  | nil => exact h
  | cons encrypted rest ih =>
    unfold scan
    cases hdate : env.dateParse encrypted.expiresAt with
    | none => exact h
    | some expiresAtMs =>
      dsimp only
      split_ifs with hdue
      · exact ih (.expire encrypted.id h)
      · cases hcached : turn.controller.cached? conversationId encrypted expiresAtMs with
        | none => exact h
        | some cached => exact ih (reached_reuse h hcached (by omega))

/-- **What is remembered** is in time, and was remembered before or is new on both sides. -/
theorem rememberAuthenticatedMessage_eq_ok {key : JsString} {record : AuthenticatedMessageRecord}
    {c' : Controller} (h : c.rememberAuthenticatedMessage now key record = .ok c') :
    now < record.expiresAtMs ∧
      ((c.authenticatedMessages.get? key = some record ∧ c' = c) ∨
        (c.authenticatedMessages.get? key = none ∧
          (∀ k, c.authenticatedKeysByMessageId.get? record.messageId = some k → k = key) ∧
          c' = c.register now key record)) := by
  obtain ⟨_, hlive, h⟩ := bind_eq_ok.mp h
  obtain ⟨_, hreplay, h⟩ := bind_eq_ok.mp h
  cases h
  rw [require_eq_ok, decide_eq_true_eq] at hlive
  rw [require_eq_ok, Bool.and_eq_true, Bool.not_eq_true', Bool.not_eq_true'] at hreplay
  obtain ⟨hkeys, hexisting⟩ := hreplay
  refine ⟨hlive, ?_⟩
  cases hfound : c.authenticatedMessages.get? key with
  | some found =>
    rw [hfound] at hexisting
    have hsame : found = record := by simpa using hexisting
    exact .inl ⟨by rw [hsame], rfl⟩
  | none =>
    refine .inr ⟨rfl, fun k hk => ?_, rfl⟩
    rw [hk] at hkeys
    simpa using hkeys

/-- **A decryption that registers its message**: the message is live, bound to
its pair, and neither its pair nor its id is in the maps. -/
structure Registers (env : Env) (now : ℤ) (c : Controller)
    (content : MessageContent.SinoChatMessageContent) (encrypted : EncryptedTransportMessage)
    (expiresAtMs : ℤ) : Prop where
  date : env.dateParse encrypted.expiresAt = some expiresAtMs
  live : now < expiresAtMs
  bound : authenticatedMessageKey content.base.senderDeviceId content.base.clientMessageId =
    encrypted.authenticatedKey
  pair : c.authenticatedMessages.get? encrypted.authenticatedKey = none
  id : ∀ key, c.authenticatedKeysByMessageId.get? encrypted.id = some key →
    key = encrypted.authenticatedKey

/-- **The turn after a decryption.** Only this one registers. -/
theorem reached_afterDecrypt {conversationId : JsString} {encrypted : EncryptedTransportMessage}
    {rest : List EncryptedTransportMessage} {content : MessageContent.SinoChatMessageContent}
    {turn : Turn} (h : turn.Reached ok now c accepted)
    (hok : ∀ expiresAtMs, Registers env now turn.controller content encrypted expiresAtMs →
      ok (acceptanceOf now conversationId encrypted expiresAtMs)) :
    (afterDecrypt env now conversationId encrypted rest content turn).1.Reached ok now c
      accepted := by
  unfold afterDecrypt
  cases hdate : env.dateParse encrypted.expiresAt with
  | none => exact h
  | some expiresAtMs =>
    dsimp only
    split_ifs with hdue hbound
    · exact reached_scan rest (.expire encrypted.id h)
    · cases hremember : turn.controller.rememberAuthenticatedMessage now encrypted.authenticatedKey
        (recordOf conversationId encrypted expiresAtMs) with
      | error code => exact h
      | ok controller =>
        obtain ⟨hlive, hcase⟩ := rememberAuthenticatedMessage_eq_ok hremember
        have haccepted : TurnSteps ok now c accepted controller
            (acceptanceOf now conversationId encrypted expiresAtMs :: turn.accepted) := by
          rcases hcase with ⟨hknown, rfl⟩ | ⟨hnew, hkeys, rfl⟩
          · exact .known h rfl hlive hknown
          · exact @TurnSteps.new _ _ _ _ _ _
              (acceptanceOf now conversationId encrypted expiresAtMs) h rfl hlive hnew hkeys
              (hok expiresAtMs ⟨hdate, hlive, hbound, hnew, hkeys⟩)
        dsimp only
        unfold build
        cases content with
        | text base text => exact reached_scan rest (reached_display haccepted)
        | image base image =>
          dsimp only
          split_ifs
          · exact haccepted
          · exact haccepted
    · exact h

/-- Behind a download only the messages in hand are registered. -/
theorem reached_afterDownload {conversationId url : JsString}
    {encrypted : EncryptedTransportMessage} {rest : List EncryptedTransportMessage} {turn : Turn}
    (h : turn.Reached ok now c accepted) :
    (afterDownload env now conversationId encrypted rest url turn).1.Reached ok now c
      accepted := by
  unfold afterDownload
  split_ifs
  · exact reached_scan rest (reached_display (.same h ⟨rfl, rfl, rfl, rfl⟩))
  · exact h

/-- Keeping the live messages expires the others. -/
theorem turnSteps_keepLive (messages : List ChatMessage) {c₁ : Controller}
    {accepted₁ : List Acceptance} (h : TurnSteps ok now c accepted c₁ accepted₁) :
    TurnSteps ok now c accepted (keepLive env now messages c₁).1 accepted₁ := by
  induction messages generalizing c₁ with
  | nil => exact h
  | cons message rest ih =>
    unfold keepLive
    split_ifs
    · exact ih h
    · exact ih (.expire message.id h)

/-- Pruning what is no longer shown leaves the maps. -/
theorem sameMaps_foldl_prune (ids : List Uuid) (c : Controller) :
    SameMaps c (ids.foldl (fun c id =>
      { c.revokeObjectUrl id with decryptedMessages := c.decryptedMessages.delete id }) c) := by
  induction ids generalizing c with
  | nil => exact ⟨rfl, rfl, rfl, rfl⟩
  | cons id ids ih =>
    obtain ⟨hrecords, hkeys, hexpiry, htimers⟩ :=
      ih { c.revokeObjectUrl id with decryptedMessages := c.decryptedMessages.delete id }
    exact ⟨hrecords, hkeys, hexpiry, htimers⟩

/-- Behind the receipts nothing is registered. -/
theorem reached_afterReceipts {conversationId : JsString} {turn : Turn}
    (h : turn.Reached ok now c accepted) :
    (afterReceipts env now conversationId turn).1.Reached ok now c accepted := by
  have hlive := @turnSteps_keepLive env ok now c accepted turn.progress.messages _ _ h
  unfold afterReceipts
  generalize keepLive env now turn.progress.messages turn.controller = kept at hlive
  obtain ⟨controller, live⟩ := kept
  dsimp only at hlive ⊢
  have hpruned := TurnSteps.same hlive (sameMaps_foldl_prune
    (((controller.conversationMessageIds.get? conversationId).getD []).filter
      fun id => id ∉ live.map (·.id)) controller)
  exact .same hpruned ⟨rfl, rfl, rfl, rfl⟩

/-! ## What a command does -/

/-- **A command that registers a message**: a decryption that does, for a load
that goes on. -/
inductive Command.Registers (env : Env) (w : World) : Command → Acceptance → Prop
  | decrypted {id : ℕ} {content : MessageContent.SinoChatMessageContent} {load : Load}
      {encrypted : EncryptedTransportMessage} {rest : List EncryptedTransportMessage}
      {expiresAtMs : ℤ} : w.loads.get? id = some load → w.controller.closed = false →
      load.aborted = false → load.phase = .decrypting encrypted rest →
      SecureMessages.Registers env w.now w.controller content encrypted expiresAtMs →
      Command.Registers env w (.decrypted id content)
        (acceptanceOf w.now load.conversation.id encrypted expiresAtMs)

/-- **The turns of a load.** -/
theorem reached_turnOf {w : World} {command : Command} {id : ℕ} {load : Load}
    {result : Turn × Next} (hid : ∀ i content, command = .decrypted i content → i = id)
    (hload : w.loads.get? id = some load)
    (h : turnOf env w.now command load ⟨w.controller, [], load.progress⟩ = some result)
    (hopen : w.controller.closed = false) (hlive : load.aborted = false)
    (hok : ∀ a, command.Registers env w a → ok a) :
    result.1.Reached ok w.now w.controller [] := by
  have hstart : Turn.Reached ok w.now w.controller [] ⟨w.controller, [], load.progress⟩ := .refl
  unfold turnOf at h
  split at h
  · cases h
    exact reached_scan _ hstart
  · rename_i i content encrypted rest hphase
    cases h
    refine reached_afterDecrypt hstart fun expiresAtMs hregisters => hok _ ?_
    have hi := hid i content rfl
    exact .decrypted (hi ▸ hload) hopen hlive hphase hregisters
  · cases h
    exact reached_afterDownload hstart
  · cases h
    exact reached_afterReceipts hstart
  · cases h
    exact hstart
  · cases h
    exact hstart
  · cases h
    exact hstart
  · cases h

/-- What a command does to the clock, the controller and what was accepted. -/
inductive Effect (ok : Acceptance → Prop) (w : World) : World → List Acceptance → Prop
  | idle {w' : World} : w.now ≤ w'.now → w'.controller = w.controller → Effect ok w w' []
  | turn {w' : World} {accepted : List Acceptance} : w.controller.closed = false →
      w'.now = w.now → TurnSteps ok w.now w.controller [] w'.controller accepted →
      Effect ok w w' accepted
  | fire {w' : World} {p : PendingTimer} : p ∈ w.controller.timers → p.dueAt ≤ w.now →
      w'.now = w.now →
      w'.controller = (w.controller.clearTimeout p.timer).expireMessage p.messageId
        (some p.authenticatedKey) → Effect ok w w' []
  | close {w' : World} : w'.now = w.now → w'.controller = w.controller.close → Effect ok w w' []

/-- A turn registers what it decrypted. -/
theorem effect_of_resume {w w' : World} {command : Command} {id : ℕ} {outcome : Outcome}
    (hid : ∀ i content, command = .decrypted i content → i = id)
    (h : w.resume id (turnOf env w.now command) = some (outcome, w'))
    (hok : ∀ a, command.Registers env w a → ok a) : Effect ok w w' outcome.accepted := by
  obtain ⟨load, hload, h⟩ := Option.bind_eq_some_iff.mp h
  obtain ⟨result, hresult, h⟩ := Option.bind_eq_some_iff.mp h
  split_ifs at h with habort
  · cases h
    exact .idle (Int.le_refl _) rfl
  · rw [Bool.or_eq_true, not_or, Bool.not_eq_true, Bool.not_eq_true] at habort
    obtain ⟨hclosed, hlive⟩ := habort
    have hsteps := reached_turnOf hid hload hresult hclosed hlive hok
    obtain ⟨turn, next⟩ := result
    cases next with
    | wait phase =>
      cases h
      exact .turn hclosed rfl hsteps
    | done =>
      cases h
      exact .turn hclosed rfl hsteps
    | fail code =>
      cases h
      exact .turn hclosed rfl hsteps

/-- **Everything a command can do.** -/
theorem exec_cases {w w' : World} {command : Command} {outcome : Outcome}
    (h : exec env command w = some (outcome, w')) (hok : ∀ a, command.Registers env w a → ok a) :
    Effect ok w w' outcome.accepted := by
  cases command with
  | advance elapsed =>
    cases h
    exact .idle (by dsimp only; omega) rfl
  | load conversation =>
    simp only [exec, World.load, Option.some.injEq] at h
    split_ifs at h
    · cases h
      exact .idle (Int.le_refl _) rfl
    · cases h
      exact .idle (Int.le_refl _) rfl
    · cases h
      exact .idle (Int.le_refl _) rfl
  | abort id =>
    obtain ⟨load, -, h⟩ := Option.bind_eq_some_iff.mp h
    cases h
    exact .idle (Int.le_refl _) rfl
  | listed id items => exact effect_of_resume (fun i content hi => by cases hi) h hok
  | decrypted id content =>
    exact effect_of_resume (fun i content hi => by cases hi; rfl) h hok
  | downloaded id url => exact effect_of_resume (fun i content hi => by cases hi) h hok
  | settled id => exact effect_of_resume (fun i content hi => by cases hi) h hok
  | rejected id => exact effect_of_resume (fun i content hi => by cases hi) h hok
  | fire timer =>
    obtain ⟨p, hp, h⟩ := Option.bind_eq_some_iff.mp h
    obtain ⟨hdue, h⟩ := guard_bind_eq_some.mp h
    cases h
    have htimer : p.timer = timer := by simpa using List.find?_some hp
    refine .fire (List.mem_of_find?_eq_some hp) hdue rfl ?_
    rw [htimer]
  | close =>
    cases h
    exact .close rfl rfl

/-- A turn forgets no acceptance. -/
theorem TurnSteps.suffix {c' : Controller} {accepted' : List Acceptance}
    (h : TurnSteps ok now c accepted c' accepted') : accepted <:+ accepted' := by
  induction h with
  | refl => exact List.suffix_refl _
  | same _ _ ih => exact ih
  | expire _ _ ih => exact ih
  | known _ _ _ _ ih => exact ih.trans (List.suffix_cons _ _)
  | new _ _ _ _ _ _ ih => exact ih.trans (List.suffix_cons _ _)

/-- A scan adds to what was accepted. -/
theorem suffix_scan (conversationId : JsString) (items : List EncryptedTransportMessage)
    (turn : Turn) : turn.accepted <:+ (scan env now conversationId items turn).1.accepted := by
  have hsteps : TurnSteps (fun _ => True) now turn.controller turn.accepted
      (scan env now conversationId items turn).1.controller
      (scan env now conversationId items turn).1.accepted := reached_scan items .refl
  exact hsteps.suffix

/-- A decryption that registers its message accepts it. -/
theorem accepted_afterDecrypt {conversationId : JsString} {encrypted : EncryptedTransportMessage}
    {rest : List EncryptedTransportMessage} {content : MessageContent.SinoChatMessageContent}
    {turn : Turn} {expiresAtMs : ℤ}
    (h : Registers env now turn.controller content encrypted expiresAtMs) :
    acceptanceOf now conversationId encrypted expiresAtMs ∈
      (afterDecrypt env now conversationId encrypted rest content turn).1.accepted := by
  have hremember : turn.controller.rememberAuthenticatedMessage now encrypted.authenticatedKey
      (recordOf conversationId encrypted expiresAtMs) = .ok (turn.controller.register now
        encrypted.authenticatedKey (recordOf conversationId encrypted expiresAtMs)) := by
    have hkeys : ((turn.controller.authenticatedKeysByMessageId.get? encrypted.id).any
        fun key => key ≠ encrypted.authenticatedKey) = false := by
      cases hkey : turn.controller.authenticatedKeysByMessageId.get? encrypted.id with
      | none => rfl
      | some key => simp [h.id key hkey]
    refine bind_eq_ok.mpr ⟨(), require_eq_ok.mpr (decide_eq_true h.live), bind_eq_ok.mpr
      ⟨(), require_eq_ok.mpr ?_, ?_⟩⟩
    · rw [h.pair]
      simpa [recordOf] using hkeys
    · rw [h.pair]
      rfl
  unfold afterDecrypt
  rw [h.date]
  dsimp only
  rw [if_neg (not_le.mpr h.live), if_neg (not_not.mpr h.bound), hremember]
  unfold build
  cases content with
  | text base text => exact (suffix_scan conversationId rest _).subset List.mem_cons_self
  | image base image =>
    dsimp only
    split_ifs
    · exact List.mem_cons_self
    · exact List.mem_cons_self

/-- **What a command registers it accepts**: the condition on registrations is
about no other message. -/
theorem accepted_of_registers {w w' : World} {command : Command} {outcome : Outcome}
    {a : Acceptance} (h : command.Registers env w a)
    (hexec : exec env command w = some (outcome, w')) : a ∈ outcome.accepted := by
  cases h with
  | @decrypted id content load encrypted rest expiresAtMs hload hopen hlive hphase hregisters =>
    obtain ⟨other, hother, hexec⟩ := Option.bind_eq_some_iff.mp hexec
    obtain rfl : load = other := Option.some.inj (hload.symm.trans hother)
    obtain ⟨⟨turn, next⟩, hturn, hexec⟩ := Option.bind_eq_some_iff.mp hexec
    rw [if_neg (by simp [hopen, hlive])] at hexec
    have haccepted : acceptanceOf w.now load.conversation.id encrypted expiresAtMs ∈
        turn.accepted := by
      simp only [turnOf, hphase, Option.some.injEq] at hturn
      have hthis := @accepted_afterDecrypt env w.now load.conversation.id encrypted rest content
        ⟨w.controller, [], load.progress⟩ expiresAtMs hregisters
      rwa [hturn] at hthis
    cases next with
    | wait phase =>
      cases hexec
      exact haccepted
    | done =>
      cases hexec
      exact haccepted
    | fail code =>
      cases hexec
      exact haccepted

/-! ## The maps in every state -/

/-- Either the message stays, or it leaves and its record has expired. -/
theorem expireMessageIfDue_cases (h : Shape c) (now : ℤ) (messageId : Uuid) :
    c.expireMessageIfDue now messageId = c ∨
      (Expired c messageId (c.expireMessageIfDue now messageId) ∧
        ∀ key record, c.authenticatedKeysByMessageId.get? messageId = some key →
          c.authenticatedMessages.get? key = some record → record.expiresAtMs ≤ now) := by
  unfold Controller.expireMessageIfDue
  dsimp only
  split_ifs with hlive
  · exact .inl rfl
  · refine .inr ⟨expireMessage_spec h messageId, fun key record hkey hrecord => ?_⟩
    rw [hkey, Option.bind_some, hrecord, Option.any_some, decide_eq_true_eq] at hlive
    omega

/-- **A turn keeps the maps in shape.** -/
theorem TurnSteps.shape {c' : Controller} {accepted' : List Acceptance}
    (h : TurnSteps ok now c accepted c' accepted') (hc : Shape c) : Shape c' := by
  induction h with
  | refl => exact hc
  | same _ hsame ih => exact ih.same hsame
  | expire messageId _ ih =>
    rcases expireMessageIfDue_cases ih now messageId with hsame | ⟨hexpired, -⟩
    · rw [hsame]
      exact ih
    · exact ih.expired hexpired
  | known _ _ _ _ ih => exact ih
  | new _ _ _ hnew hkeys _ ih => exact ih.register hnew (ih.key_eq_none hnew hkeys)

/-- Clearing a timer keeps the maps inverse. -/
theorem shape_clearTimeout (h : Shape c) (timer : ℕ) : Shape (c.clearTimeout timer) :=
  ⟨h.forward, h.backward, h.expiry, fun p hp => h.pending p (List.mem_filter.mp hp).1⟩

/-- A timer that fires expires its message. -/
theorem expired_of_fire (h : Shape c) {p : PendingTimer} (hp : p ∈ c.timers) :
    Expired (c.clearTimeout p.timer) p.messageId
      ((c.clearTimeout p.timer).expireMessage p.messageId (some p.authenticatedKey)) := by
  have hkey : (c.clearTimeout p.timer).authenticatedKeysByMessageId.get? p.messageId =
      some p.authenticatedKey := h.expiry p.messageId _ (h.pending p hp)
  rw [← hkey]
  exact expireMessage_spec (shape_clearTimeout h p.timer) p.messageId

/-- **A command keeps the maps in shape.** -/
theorem Effect.shape {w w' : World} (h : Effect ok w w' accepted) (hw : Shape w.controller) :
    Shape w'.controller := by
  cases h with
  | idle _ hsame =>
    rw [hsame]
    exact hw
  | turn _ _ hsteps => exact hsteps.shape hw
  | fire hp _ _ hfire =>
    rw [hfire]
    exact (shape_clearTimeout hw _).expired (expired_of_fire hw hp)
  | close _ hclose =>
    rw [hclose]
    exact shape_close w.controller hw

/-- **The maps are in shape in every state of every run.** -/
theorem shape_of_run {trace : List Event} {w : World} (h : (page env).Run trace w) :
    Shape w.controller := by
  refine h.stateInvariant (I := fun w => Shape w.controller) (fun w hw => ?_)
    fun w event w' hw hstep => ?_
  · rw [hw.1]
    exact shape_new
  · have heffect : Effect (fun _ => True) w w' event.outcome.accepted :=
      exec_cases hstep fun _ _ => trivial
    exact heffect.shape hw

/-! ## Timely runs -/

/-- What was accepted, latest first. -/
def acceptances (trace : List Event) : List Acceptance :=
  trace.flatMap fun event => event.outcome.accepted

/-- Before the earlier message expires, a later one under its pair is the same
message, and one under its id has its pair. -/
def Protected (later earlier : Acceptance) : Prop :=
  later.acceptedAt < earlier.record.expiresAtMs →
    (later.pair = earlier.pair → later.record = earlier.record) ∧
      (later.record.messageId = earlier.record.messageId → later.pair = earlier.pair)

/-- A message is registered within the longest delay before its expiry. -/
def InTime (a : Acceptance) : Prop := a.record.expiresAtMs - a.acceptedAt ≤ maxTimerDelay

/-- The step registers no message with a longer delay. -/
def Timely (env : Env) (w : World) (event : Event) : Prop :=
  ∀ a, event.command.Registers env w a → InTime a

/-- No timer is due before its record expires, and accepted messages are kept until they do. -/
structure Kept (now : ℤ) (c : Controller) (accepted : List Acceptance) : Prop where
  deadline : ∀ p ∈ c.timers, ∀ record,
    c.authenticatedMessages.get? p.authenticatedKey = some record → record.expiresAtMs ≤ p.dueAt
  kept : ∀ a ∈ accepted, now < a.record.expiresAtMs →
    c.authenticatedMessages.get? a.key = some a.record

/-- What is kept stays while nothing changes it. -/
theorem Kept.same {c' : Controller} (h : Kept now c accepted) (hsame : SameMaps c c') :
    Kept now c' accepted := by
  obtain ⟨hrecords, -, -, htimers⟩ := hsame
  refine ⟨?_, ?_⟩
  · rw [htimers, hrecords]
    exact h.deadline
  · rw [hrecords]
    exact h.kept

/-- What leaves has expired, so nothing that must be kept leaves. -/
theorem Kept.expired {c' : Controller} {messageId : Uuid} (h : Kept now c accepted)
    (hexpired : Expired c messageId c')
    (hdue : ∀ key record, c.authenticatedKeysByMessageId.get? messageId = some key →
      c.authenticatedMessages.get? key = some record → record.expiresAtMs ≤ now) :
    Kept now c' accepted := by
  refine ⟨fun p hp record hrecord => ?_, fun a ha hlive => ?_⟩
  · rw [hexpired.records] at hrecord
    split_ifs at hrecord
    exact h.deadline p (hexpired.timers p hp).1 record hrecord
  · have hrecord := h.kept a ha hlive
    rw [hexpired.records, if_neg fun hkey => ?_, hrecord]
    have := hdue a.key a.record hkey hrecord
    omega

/-- A message that is registered in time is kept. -/
theorem Kept.register (h : Kept now c accepted) (hshape : Shape c) {a : Acceptance}
    (hat : a.acceptedAt = now) (hlive : now < a.record.expiresAtMs)
    (hnew : c.authenticatedMessages.get? a.key = none) (hintime : InTime a) :
    Kept now (c.register now a.key a.record) (a :: accepted) := by
  refine ⟨fun p hp record hrecord => ?_, fun b hb hb' => ?_⟩
  · rw [Controller.register, List.mem_append, List.mem_singleton] at hp
    rw [Controller.register, JsMap.get?_set] at hrecord
    rcases hp with hp | rfl
    · -- the record of an older timer is there already, under another key
      obtain ⟨found, hfound, -⟩ := hshape.backward p.messageId p.authenticatedKey
        (hshape.expiry p.messageId _ (hshape.pending p hp))
      rw [if_neg fun hkey => ?_] at hrecord
      · exact h.deadline p hp record hrecord
      · rw [← hkey, hnew] at hfound
        cases hfound
    · rw [if_pos rfl] at hrecord
      cases hrecord
      have hdelay : max 0 (a.record.expiresAtMs - now) ≤ maxTimerDelay := by
        rw [InTime, hat] at hintime
        exact max_le (by decide) hintime
      show a.record.expiresAtMs ≤ now + timerDelay (max 0 (a.record.expiresAtMs - now))
      rw [timerDelay, if_pos hdelay]
      omega
  · rw [Controller.register, JsMap.get?_set]
    rcases List.mem_cons.mp hb with rfl | hb
    · rw [if_pos rfl]
    · have hrecord := h.kept b hb hb'
      rw [if_neg fun hkey => ?_, hrecord]
      rw [← hkey, hnew] at hrecord
      cases hrecord

/-- A known message agrees with everything that is kept. -/
theorem protected_known (h : Kept now c accepted) (hshape : Shape c) {a : Acceptance}
    (hat : a.acceptedAt = now) (hknown : c.authenticatedMessages.get? a.key = some a.record) :
    ∀ b ∈ accepted, Protected a b := by
  intro b hb hbefore
  rw [hat] at hbefore
  have hrecord := h.kept b hb hbefore
  refine ⟨fun hpair => ?_, fun hid => ?_⟩
  · rw [Acceptance.key_eq_of_pair_eq hpair, hrecord] at hknown
    exact (Option.some.inj hknown).symm
  · have hkey := hshape.forward a.key a.record hknown
    rw [hid, hshape.forward b.key b.record hrecord] at hkey
    exact Acceptance.pair_eq_of_key_eq (Option.some.inj hkey).symm

/-- A new message shares neither pair nor id with anything that is kept. -/
theorem protected_new (h : Kept now c accepted) (hshape : Shape c) {a : Acceptance}
    (hat : a.acceptedAt = now) (hnew : c.authenticatedMessages.get? a.key = none)
    (hkey : c.authenticatedKeysByMessageId.get? a.record.messageId = none) :
    ∀ b ∈ accepted, Protected a b := by
  intro b hb hbefore
  rw [hat] at hbefore
  have hrecord := h.kept b hb hbefore
  refine ⟨fun hpair => ?_, fun hid => ?_⟩
  · rw [Acceptance.key_eq_of_pair_eq hpair, hrecord] at hnew
    cases hnew
  · rw [hid, hshape.forward b.key b.record hrecord] at hkey
    cases hkey

/-- **A turn keeps what was accepted, and accepts nothing against it.** -/
theorem TurnSteps.kept {c' : Controller} {before accepted' : List Acceptance}
    (h : TurnSteps InTime now c [] c' accepted') (hshape : Shape c) (hkept : Kept now c before)
    (hprotected : before.Pairwise Protected) :
    Kept now c' (accepted' ++ before) ∧ (accepted' ++ before).Pairwise Protected := by
  induction h with
  | refl => exact ⟨hkept, hprotected⟩
  | same _ hsame ih => exact ⟨ih.1.same hsame, ih.2⟩
  | expire messageId hsteps ih =>
    rcases expireMessageIfDue_cases (hsteps.shape hshape) now messageId with
      hsame | ⟨hexpired, hdue⟩
    · rw [hsame]
      exact ih
    · exact ⟨ih.1.expired hexpired hdue, ih.2⟩
  | @known c₁ accepted₁ a hsteps hat hlive hknown ih =>
    refine ⟨⟨ih.1.deadline, fun b hb hb' => ?_⟩, List.pairwise_cons.mpr
      ⟨protected_known ih.1 (hsteps.shape hshape) hat hknown, ih.2⟩⟩
    rcases List.mem_cons.mp hb with rfl | hb
    · exact hknown
    · exact ih.1.kept b hb hb'
  | @new c₁ accepted₁ a hsteps hat hlive hnew hkeys hintime ih =>
    have hshape₁ := hsteps.shape hshape
    exact ⟨ih.1.register hshape₁ hat hlive hnew hintime, List.pairwise_cons.mpr
      ⟨protected_new ih.1 hshape₁ hat hnew (hshape₁.key_eq_none hnew hkeys), ih.2⟩⟩

/-- An expiry does not close the controller. -/
theorem closed_expireMessage (c : Controller) (messageId : Uuid) (key : Option JsString) :
    (c.expireMessage messageId key).closed = c.closed := by
  have hclear : (c.clearExpiry messageId).closed = c.closed := by
    unfold Controller.clearExpiry
    split
    · rfl
    · rfl
  unfold Controller.expireMessage
  dsimp only
  split_ifs
  · rfl
  · split
    · exact hclear
    · exact hclear

/-- What a timely run keeps: the maps in shape, every pair of acceptances, and,
while the controller is open, the accepted messages. -/
structure Guarding (trace : List Event) (w : World) : Prop where
  shape : Shape w.controller
  pairwise : (acceptances trace).Pairwise Protected
  kept : w.controller.closed = false → Kept w.now w.controller (acceptances trace)

/-- **A timely command keeps all of it.** -/
theorem Guarding.step {trace : List Event} {w w' : World} {event : Event}
    (h : Guarding trace w) (heffect : Effect InTime w w' event.outcome.accepted) :
    Guarding (event :: trace) w' := by
  have hshape := heffect.shape h.shape
  have happend : acceptances (event :: trace) = event.outcome.accepted ++ acceptances trace := rfl
  generalize event.outcome.accepted = accepted at heffect happend
  cases heffect with
  | idle hnow hsame =>
    refine ⟨hshape, happend ▸ h.pairwise, fun hopen => ?_⟩
    rw [hsame] at hopen ⊢
    have hkept := h.kept hopen
    rw [happend]
    exact ⟨hkept.deadline, fun a ha hlive => hkept.kept a ha (by omega)⟩
  | turn hopen hnow hsteps =>
    obtain ⟨hkept, hpairwise⟩ := hsteps.kept h.shape (h.kept hopen) h.pairwise
    refine ⟨hshape, happend ▸ hpairwise, fun _ => ?_⟩
    rw [hnow, happend]
    exact hkept
  | @fire p hp hdue hnow hfire =>
    refine ⟨hshape, happend ▸ h.pairwise, fun hopen => ?_⟩
    rw [hfire, closed_expireMessage] at hopen
    have hkept := h.kept hopen
    rw [hnow, happend, hfire]
    have hcleared : Kept w.now (w.controller.clearTimeout p.timer) (acceptances trace) :=
      ⟨fun q hq => hkept.deadline q (List.mem_filter.mp hq).1, hkept.kept⟩
    refine hcleared.expired (expired_of_fire h.shape hp) fun key record hkey hrecord => ?_
    have hpending : w.controller.authenticatedKeysByMessageId.get? p.messageId =
        some p.authenticatedKey := h.shape.expiry p.messageId _ (h.shape.pending p hp)
    have heq : key = p.authenticatedKey := Option.some.inj (hkey.symm.trans hpending)
    rw [heq] at hrecord
    have := hkept.deadline p hp record hrecord
    omega
  | close _ hclose =>
    refine ⟨hshape, happend ▸ h.pairwise, fun hopen => ?_⟩
    rw [hclose] at hopen
    cases hopen

/-- **In every timely run the records guard their messages.** -/
theorem guarding_of_run {trace : List Event} {w : World}
    (h : ((page env).guarded (Timely env)).Run trace w) : Guarding trace w := by
  refine h.invariant (I := Guarding) (fun w hw => ?_) fun trace w event w' _ hI hstep => ?_
  · obtain ⟨hnew, -⟩ := hw
    refine ⟨hnew ▸ shape_new, .nil, fun _ => ⟨fun p hp => ?_, fun a ha => ?_⟩⟩
    · rw [hnew] at hp
      cases hp
    · cases ha
  · obtain ⟨hexec, htimely⟩ := hstep
    exact hI.step (exec_cases hexec htimely)

/-- **Replay protection.** The replay maps are each other's inverses in every
state of every run. In a run that registers no message more than 2147483647 ms
before its expiry, what is accepted under the pair of a message, before that
message expires, is that message, and what is accepted under its id has its pair. -/
theorem replay_protection (env : Env) :
    (∀ trace w, (page env).Run trace w → MutuallyInverse w.controller) ∧
      ∀ trace w, ((page env).guarded (Timely env)).Run trace w →
        (acceptances trace).Pairwise Protected :=
  ⟨fun _ _ h => (shape_of_run h).mutuallyInverse, fun _ _ h => (guarding_of_run h).pairwise⟩

/-! ## Two pages -/

/-- A command as an event, where it accepts nothing with a longer delay. -/
def execTimely (env : Env) (command : Command) (w : World) : Option (Event × World) := do
  let result ← exec env command w
  guard (result.1.accepted.all fun a => a.record.expiresAtMs - a.acceptedAt ≤ maxTimerDelay)
  return (⟨command, result.1⟩, result.2)

/-- A timely command is a step. -/
theorem step_of_execTimely {command : Command} {w w' : World} {event : Event}
    (h : execTimely env command w = some (event, w')) :
    ((page env).guarded (Timely env)).step w event w' := by
  obtain ⟨result, hexec, h⟩ := Option.bind_eq_some_iff.mp h
  obtain ⟨hall, h⟩ := guard_bind_eq_some.mp h
  cases h
  refine ⟨hexec, fun a hregisters => ?_⟩
  have hdelay := List.all_eq_true.mp hall a (accepted_of_registers hregisters hexec)
  unfold InTime
  exact of_decide_eq_true hdelay

namespace Sample

/-- Ids by their number. -/
def uuid (n : Fin 10) : Uuid :=
  ⟨js "a0000000-0000-4000-8000-00000000000" ++ js (toString n.val), by
    revert n
    decide⟩

/-- The client, with `Date.parse` on the dates of the sample. -/
def client : Env where
  dateParse text :=
    if text = js "2026-03-01T00:00:00.000Z" then some 1772323200000
    else if text = js "2027-03-01T00:00:00.000Z" then some 1803859200000
    else none
  currentUserId := uuid 0

/-- A message of the server, with the pair of the others and an id of its own. -/
def message (id : Fin 10) : EncryptedTransportMessage :=
  { id := uuid id
    senderUserId := uuid 1
    senderDeviceId := uuid 2
    clientMessageId := uuid 3
    serverSequence := js (toString (id.val + 1))
    kind := .text
    createdAt := js "2026-02-27T00:00:00.000Z"
    expiresAt := js "2026-03-01T00:00:00.000Z"
    protocolVersion := js "matrix-megolm-v1"
    cipherSuite := js "m.megolm.v1.aes-sha2"
    ciphertext := js "e30="
    attachment := none
    receipt := none }

/-- The first message under a pair of its own, to expire a year later. -/
def rewritten : EncryptedTransportMessage :=
  { message 5 with
    clientMessageId := uuid 7
    createdAt := js "2027-02-27T00:00:00.000Z"
    expiresAt := js "2027-03-01T00:00:00.000Z" }

/-- What the messages of a pair decrypt to. -/
def content (clientMessageId : Fin 10) : MessageContent.SinoChatMessageContent :=
  .text { conversationId := (uuid 4).text
          roomId := js "!ca0000000000040008000000000000004:matrix.example.org"
          clientMessageId := (uuid clientMessageId).text
          senderUserId := (uuid 1).text
          senderDeviceId := (uuid 2).text } (js "Hello")

/-- A page that is opened a number of days before the messages expire. -/
def opened (days : ℤ) : World := ⟨1772323200000 - days * 86400000, .new, [], 0⟩

/-- A message accepted so many days before its expiry. -/
def acceptance (days : ℤ) (id : Fin 10) : Acceptance :=
  acceptanceOf (1772323200000 - days * 86400000) (uuid 4).text (message id) 1772323200000

/-- Two loads of the conversation, each with one message of the same pair. -/
def firstLoad : List Command :=
  [.load ⟨(uuid 4).text, (uuid 1).text⟩, .listed 0 [message 5], .decrypted 0 (content 3),
    .settled 0]

/-- Another page loads the same conversation. -/
def secondLoad : List Command :=
  [.load ⟨(uuid 4).text, (uuid 1).text⟩, .listed 1 [message 6], .decrypted 1 (content 3)]

/-- A third load, with the id of the first message and another pair. -/
def thirdLoad : List Command :=
  [.load ⟨(uuid 4).text, (uuid 1).text⟩, .listed 2 [rewritten], .decrypted 2 (content 7)]

end Sample

/-- A day before the messages expire, the first is accepted, and refused are the
second and the first under another pair, a year before that one expires. -/
theorem replay_protection_one_day :
    ∃ trace w, ((page Sample.client).guarded (Timely Sample.client)).Run trace w ∧
      trace.length = 10 ∧ acceptances trace = [Sample.acceptance 1 5] ∧
      (acceptances trace).Pairwise Protected := by
  obtain ⟨trace, w, hrun, hcheck⟩ := Machine.exists_run_of_perform
    (M := (page Sample.client).guarded (Timely Sample.client))
    (fun command w event w' => @step_of_execTimely Sample.client command w w' event)
    (s := Sample.opened 1) ⟨rfl, rfl⟩ (Sample.firstLoad ++ Sample.secondLoad ++ Sample.thirdLoad)
    (fun trace _ => trace.length = 10 ∧ acceptances trace = [Sample.acceptance 1 5])
    (by decide +kernel)
  obtain ⟨hlength, haccepted⟩ := of_decide_eq_true hcheck
  exact ⟨trace, w, hrun, hlength, haccepted, (replay_protection Sample.client).2 trace w hrun⟩

/-- A command as an event. -/
def execAny (env : Env) (command : Command) (w : World) : Option (Event × World) :=
  (exec env command w).map fun result => (⟨command, result.1⟩, result.2)

/-- **28 days before, the timer of the first message fires at once**, and the
second is accepted under its pair. -/
theorem second_message_under_pair_accepted :
    ∃ trace w, (page Sample.client).Run trace w ∧
      acceptances trace = [Sample.acceptance 28 6, Sample.acceptance 28 5] ∧
      ¬ (acceptances trace).Pairwise Protected := by
  have hexec : ∀ command w event w', execAny Sample.client command w = some (event, w') →
      (page Sample.client).step w event w' := by
    intro command w event w' h
    obtain ⟨result, hexec, heq⟩ := Option.map_eq_some_iff.mp h
    cases heq
    exact hexec
  obtain ⟨trace, w, hrun, hcheck⟩ := Machine.exists_run_of_perform (M := page Sample.client) hexec
    (s := Sample.opened 28) ⟨rfl, rfl⟩ (Sample.firstLoad ++ [.fire 0] ++ Sample.secondLoad)
    (fun trace _ => acceptances trace = [Sample.acceptance 28 6, Sample.acceptance 28 5])
    (by decide +kernel)
  have hboth := of_decide_eq_true hcheck
  refine ⟨trace, w, hrun, hboth, fun hpairwise => ?_⟩
  rw [hboth] at hpairwise
  have hprotected := (List.pairwise_cons.mp hpairwise).1 (Sample.acceptance 28 5)
    (List.mem_singleton.mpr rfl)
  obtain ⟨hpair, -⟩ := hprotected (by decide)
  have hid : Sample.uuid 6 = Sample.uuid 5 :=
    congrArg AuthenticatedMessageRecord.messageId (hpair rfl)
  exact absurd hid (by decide)

end SecureMessages

end SinoChat
