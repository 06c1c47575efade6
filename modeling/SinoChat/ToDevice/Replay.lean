import SinoChat.DeviceList.Stream
import SinoChat.ToDevice.Acknowledge

/-!
# Repeated positions

A second sync with one position answers with the batch the first one made or
found. What it says about keys and device lists is part of the batch or read
from rows that stay. Its page is read from the queue again, and an
acknowledgement deletes from the queue by position, whichever chain of
batches it continues: a device that started over has two chains, and
acknowledging on one empties the pages of the other (`not_replaysAreStable`).
Until a batch of the device that ends above the start of the repeated one is
acknowledged, the repeated page is the first one; afterwards it is a part of
it (`replay_of_position`).
-/

namespace SinoChat

open Js

variable {env : Deployment}

/-! ## Pages -/

/-- A page is in the order of its sequences. -/
theorem pairwise_pageOf {db : Db} {batch : SyncBatchRecord} {now : ℕ}
    (h : Ordered db.queue batch.deviceId) :
    (pageOf db batch now).Pairwise fun a b => a.recipientSequence < b.recipientSequence := by
  refine List.pairwise_sortBy_lt (List.pairwise_map.mpr ?_)
  have hsub : (db.queue.events.filter fun event =>
      event.recipientDeviceId == batch.deviceId &&
        batch.fromSequence < event.recipientSequence &&
        event.recipientSequence ≤ batch.upToSequence && now < event.expiresAt &&
        (deliver db now event).isSome).Sublist (eventsFor batch.deviceId db.queue.events) := by
    refine List.monotone_filter_right _ fun event hevent => ?_
    simp only [Bool.and_eq_true] at hevent
    exact hevent.1.1.1.1
  exact (h.sublist hsub).imp fun hlt => hlt.ne

/-! ## The batch of a position -/

/-- A sync with a position answers with a successor of the batch its position
names, and with the device lists. -/
theorem Synced.of_position {crypto : Crypto} {H : List SyncBatchRecord} {w : World}
    {call : SyncCall} {id : Uuid} {result : SyncResult} {latest : ℕ} {selected : SelectedBatch}
    (h : Synced crypto call id w.db result latest selected) {since : JsString}
    (hposition : call.position = some since) (hinv : BatchInv crypto H w) :
    ∃ parent ∈ H, since = tokenText crypto parent.toMatrixSyncTokenData ∧
      result.batch.previousBatchId = some parent.id ∧
      result.response.deviceLists =
        some (buildDeviceListChanges w.db.lists call.principal.id result.batch) := by
  have hlists := h.deviceLists
  rw [h.batch] at hlists ⊢
  have hkind := h.kind
  clear h
  cases hkind with
  | @replay since' parent child hposition' haccepted hchild hlive =>
    obtain rfl : since = since' := Option.some.inj (hposition.symm.trans hposition')
    exact ⟨parent.issued, hinv.stored parent haccepted.mem, haccepted.token,
      by simpa using List.find?_some hchild, hlists⟩
  | @advance since' parent batch hposition' haccepted hchild hopen hcreated =>
    obtain rfl : since = since' := Option.some.inj (hposition.symm.trans hposition')
    exact ⟨parent.issued, hinv.stored parent haccepted.mem, haccepted.token,
      hcreated.columns.2.2.1, hlists⟩
  | reopen hnone => simp [hposition] at hnone
  | initial hnone => simp [hposition] at hnone

/-- A sync that answers with a batch handed out before leaves the queue as it is. -/
theorem Synced.queue_of_old {crypto : Crypto} {H : List SyncBatchRecord} {w : World}
    {call : SyncCall} {id : Uuid} {result : SyncResult} {latest : ℕ} {selected : SelectedBatch}
    (h : Synced crypto call id w.db result latest selected) (hinv : BatchInv crypto H w)
    (hfresh : id ∉ w.drawn) (hold : result.batch.issued ∈ H) :
    result.db.queue = w.db.queue := by
  have hdrawn := hinv.drawn _ hold
  rw [h.after]
  rw [h.batch] at hdrawn
  have hkind := h.kind
  clear h
  cases hkind with
  | replay | reopen => rfl
  | @advance since parent batch _ _ _ _ hcreated =>
    have hid : batch.id ∈ w.drawn := hdrawn
    rw [hcreated.columns.1] at hid
    exact absurd hid hfresh
  | @initial batch _ _ hcreated =>
    have hid : batch.id ∈ w.drawn := hdrawn
    rw [hcreated.columns.1] at hid
    exact absurd hid hfresh

/-! ## Events that stay -/

/-- A step of the service takes an event off the queue in one of two ways. -/
theorem ServiceStep.kept_or {trace : List Action} {w w' : World} {a : Action}
    (hrun : (service env).Run trace w) (h : ServiceStep env w a w') {event : MatrixToDeviceEvent}
    (hevent : event ∈ w.db.queue.events) :
    event ∈ w'.db.queue.events ∨ event.expiresAt ≤ w.db.clock ∨
      ∃ call result, a = .synced call result ∧ result.batch.issued ∉ history trace ∧
        result.batch.deviceId = event.recipientDeviceId ∧ result.batch.previousBatchId ≠ none ∧
        event.recipientSequence ≤ result.batch.fromSequence := by
  cases h with
  | @send call db' new hnow helig hfresh hsend hnew =>
    exact .inl (by rw [hnew]; exact List.mem_append_left _ hevent)
  | @sync call id result hcall hid hnames hsync =>
    by_cases hkept : event ∈ result.db.queue.events
    · exact .inl hkept
    · obtain ⟨latest, selected, hsynced⟩ := sync_eq_ok hsync
      obtain ⟨since, parent, -, -, hcreated, hdevice, hup⟩ := hsynced.deleted hevent hkept
      obtain ⟨hnewId, hcallDevice, hprevious, hfrom, -⟩ := hcreated.columns
      refine .inr (.inr ⟨call, result, rfl, ?_, ?_, by simp [hprevious], by omega⟩)
      · intro hhanded
        have hdrawn : result.batch.id ∈ w.drawn := (batchInv hrun).drawn result.batch.issued hhanded
        rw [hnewId] at hdrawn
        exact hid hdrawn
      · rw [hcallDevice, hdevice]
  | upload hnodup hfresh hupload =>
    obtain ⟨keys, rfl⟩ := uploadKeys_queue hupload
    exact .inl hevent
  | claim hnow helig hfresh hclaim =>
    obtain ⟨keys, rfl⟩ := KeyClaim.run_queue hclaim
    exact .inl hevent
  | @purgeEvents now hnow =>
    by_cases hlive : now < event.expiresAt
    · exact .inl (List.mem_filter.mpr ⟨hevent, by simpa using hlive⟩)
    · exact .inr (.inl (by omega))
  | sendFailed | syncBegin | syncFailed | uploadFailed | claimFailed | openCursor | registerList
  | publish | changeAccounts | purgeBatches | tick => exact .inl hevent

/-- No batch made in these steps continues one of the device that ends above
a sequence. -/
def NoneAcknowledgedAbove (deviceId : Uuid) (sequence : ℕ) (later earlier : List Action) : Prop :=
  ∀ call result, Action.synced call result ∈ later → result.batch.issued ∉ history earlier →
    result.batch.deviceId = deviceId → result.batch.previousBatchId ≠ none →
    result.batch.fromSequence ≤ sequence

/-- **An event stays in the queue** until it expires or is acknowledged. -/
theorem Steps.kept {later earlier : List Action} {t w : World}
    (hsteps : (service env).Steps t later w) (hrun : (service env).Run earlier t)
    {event : MatrixToDeviceEvent} {sequence : ℕ} (hevent : event ∈ t.db.queue.events)
    (hlive : w.db.clock < event.expiresAt) (habove : sequence < event.recipientSequence)
    (hnone : NoneAcknowledgedAbove event.recipientDeviceId sequence later earlier) :
    event ∈ w.db.queue.events := by
  induction hsteps with
  | refl => exact hevent
  | @step later u w a hsteps hstep ih =>
    have hclock := (ServiceStep.grows hstep).clock
    have hkept : event ∈ u.db.queue.events :=
      ih (by omega) fun call result hmem => hnone call result (List.mem_cons_of_mem _ hmem)
    rcases ServiceStep.kept_or (hrun.append hsteps) hstep hkept with
      hafter | hexpired | ⟨call, result, rfl, hnew, hdevice, hprevious, hup⟩
    · exact hafter
    · omega
    · have hnotEarlier : result.batch.issued ∉ history earlier := fun hold =>
        hnew (history_append_subset later earlier hold)
      have := hnone call result List.mem_cons_self hnotEarlier hdevice hprevious
      omega

/-! ## Two answers for one position -/

/-- A run in which the service answers twice. -/
structure TwoAnswers (env : Deployment) (mid before : List Action) (first second : SyncCall)
    (r₁ r₂ : SyncResult) (w : World) : Prop where
  run : (service env).Run
    (.synced second r₂ :: (mid ++ .synced first r₁ :: before)) w
  /-- The two calls name one position. -/
  position : ∃ since, first.position = some since ∧ second.position = some since
  /-- They come from one user, the device's. -/
  user : second.principal.id = first.principal.id

/-- No event of the two pages expires between the answers, and whether such
an event is shown, and how, does not change. -/
structure Undisturbed (first second : SyncCall) (r₁ r₂ : SyncResult) (w : World) : Prop where
  live₁ : ∀ event ∈ r₁.page, w.db.clock < event.expiresAt
  live₂ : ∀ event ∈ r₂.page, first.now < event.expiresAt
  shown : ∀ event, event ∈ r₁.page ∨ event ∈ r₂.page →
    deliver r₂.db second.now event = deliver r₁.db first.now event

/-- Two responses that agree in everything but their events. -/
structure SameBatch (r₁ r₂ : SyncResult) : Prop where
  nextBatch : r₂.response.nextBatch = r₁.response.nextBatch
  oneTimeKeyCount : r₂.response.oneTimeKeyCount = r₁.response.oneTimeKeyCount
  unusedFallbackKey : r₂.response.unusedFallbackKey = r₁.response.unusedFallbackKey
  deviceLists : r₂.response.deviceLists = r₁.response.deviceLists

/-- **The claim that is too strong**: until the batch of the first answer is
acknowledged, the second response is the first one. -/
def ReplaysAreStable (env : Deployment) : Prop :=
  ∀ mid before first second r₁ r₂ w, TwoAnswers env mid before first second r₁ r₂ w →
    Undisturbed first second r₁ r₂ w →
    (∀ batch ∈ history (mid ++ .synced first r₁ :: before),
      batch.previousBatchId ≠ some r₁.batch.id) →
    SameBatch r₁ r₂ ∧ r₂.response.events = r₁.response.events

/-- An event is shown by its sender and type; its content stays. -/
theorem deliver_eq_of_header {db db' : Db} {now now' : ℕ} {event : MatrixToDeviceEvent}
    (h : (deliver db now event).map (fun shown => (shown.sender, shown.type)) =
      (deliver db' now' event).map fun shown => (shown.sender, shown.type)) :
    deliver db now event = deliver db' now' event := by
  have hcontent : ∀ (db : Db) (now : ℕ), ∀ shown ∈ deliver db now event,
      shown.content = event.content := by
    intro db now shown hshown
    unfold deliver at hshown
    split at hshown
    · simp at hshown
    · obtain ⟨sender, -, rfl⟩ := Option.map_eq_some_iff.mp hshown
      rfl
  cases hleft : deliver db now event with
  | none =>
    rw [hleft] at h
    exact (Option.map_eq_none_iff.mp h.symm).symm
  | some a =>
    rw [hleft] at h
    obtain ⟨b, hright, hheader⟩ := Option.map_eq_some_iff.mp h.symm
    have ha := hcontent db now a (by simp [hleft])
    have hb := hcontent db' now' b (by simp [hright])
    cases a
    cases b
    simp_all

/-- After five actions a position is repeated, with nothing where its first
response showed events. -/
def repeatedEmpty (trace : List Action) (w : World) : Bool :=
  match trace with
  | .synced second r₂ :: a :: b :: c :: d :: e :: .synced first r₁ :: before =>
    first.position.isSome && second.position = first.position &&
      second.principal.id = first.principal.id && r₂.page.isEmpty &&
      r₂.response.events.isEmpty && !r₁.response.events.isEmpty &&
      (r₁.page.all fun event => w.db.clock < event.expiresAt &&
        (deliver r₂.db second.now event).map (fun shown => (shown.sender, shown.type)) =
          (deliver r₁.db first.now event).map fun shown => (shown.sender, shown.type)) &&
      (history ([a, b, c, d, e] ++ .synced first r₁ :: before)).all fun batch =>
        batch.previousBatchId ≠ some r₁.batch.id
  | _ => false

/-- The client's device syncs before the message comes, then gets it. -/
def Sample.laterScript : List Command :=
  [.openCursor clientDevice, .syncBegin client none, .sync emptyRootId, .send sendCall,
    .syncBegin client (some (.str (tokenText crypto emptyRoot))), .sync laterId]

/-- It starts over and acknowledges what it got there. -/
def Sample.startOver : List Command :=
  [.syncBegin client none, .sync secondRootId,
    .syncBegin client (some (.str (tokenText crypto secondRoot))), .sync secondNextId]

/-- It repeats the position from before. -/
def Sample.repeatPosition : List Command :=
  [.syncBegin client (some (.str (tokenText crypto emptyRoot))), .sync spareId]

/-- A device gets the message, starts over and acknowledges it there: the
position from before then shows an empty page. -/
theorem not_replaysAreStable : ¬ ReplaysAreStable Sample.deployment := by
  obtain ⟨trace, w, hrun, hcheck⟩ := Sample.exists_run
    (Sample.laterScript ++ Sample.startOver ++ Sample.repeatPosition)
    repeatedEmpty (by decide +kernel)
  intro hclaim
  unfold repeatedEmpty at hcheck
  split at hcheck
  · rename_i second r₂ a b c d e first r₁ before
    simp only [Bool.and_eq_true, decide_eq_true_eq, List.isEmpty_iff, Bool.not_eq_true',
      List.isEmpty_eq_false_iff, List.all_eq_true] at hcheck
    obtain ⟨⟨⟨⟨⟨⟨⟨hsome, hsame⟩, huser⟩, hempty⟩, hnone⟩, hevents⟩, hpage⟩, hopen⟩ := hcheck
    obtain ⟨since, hsince⟩ := Option.isSome_iff_exists.mp hsome
    have htwo : TwoAnswers Sample.deployment [a, b, c, d, e] before first second r₁ r₂ w :=
      ⟨hrun, ⟨since, hsince, hsame.trans hsince⟩, huser⟩
    have hundisturbed : Undisturbed first second r₁ r₂ w := by
      refine ⟨fun event hevent => (hpage event hevent).1, by simp [hempty], ?_⟩
      rintro event (hevent | hevent)
      · exact deliver_eq_of_header (hpage event hevent).2
      · simp [hempty] at hevent
    have hresponses := (hclaim _ _ _ _ _ _ _ htwo hundisturbed hopen).2
    exact hevents (hresponses.symm.trans hnone)
  · simp at hcheck

section TwoAnswers

variable {mid before : List Action} {first second : SyncCall} {r₁ r₂ : SyncResult} {w : World}

/-- The states of the two answers. -/
theorem TwoAnswers.states (h : TwoAnswers env mid before first second r₁ r₂ w) :
    ∃ t₁ t₁' t₂ id₁ id₂, (service env).Run before t₁ ∧
      ServiceStep env t₁ (.synced first r₁) t₁' ∧
      (service env).Steps t₁' mid t₂ ∧ ServiceStep env t₂ (.synced second r₂) w ∧
      t₁'.db = r₁.db ∧ w.db = r₂.db ∧ id₂ ∉ t₂.drawn ∧ first.now ≤ t₁.db.clock ∧
      second.now ≤ t₂.db.clock ∧
      (∃ latest selected, Synced env.crypto first id₁ t₁.db r₁ latest selected) ∧
      ∃ latest selected, Synced env.crypto second id₂ t₂.db r₂ latest selected := by
  cases h.run with
  | @step _ t₂ _ _ hrun hsecond =>
    obtain ⟨t₁', hfirstRun, hsteps⟩ := hrun.split
    cases hfirstRun with
    | @step _ t₁ _ _ hbefore hfirst =>
      have hcopy₁ := hfirst
      have hcopy₂ := hsecond
      cases hfirst with
      | @sync _ id₁ _ hcall₁ hid₁ hnames₁ hsync₁ =>
        cases hsecond with
        | @sync _ id₂ _ hcall₂ hid₂ hnames₂ hsync₂ =>
          exact ⟨t₁, _, t₂, id₁, id₂, hbefore, hcopy₁, hsteps, hcopy₂, rfl, rfl, hid₂,
            ((batchInv hbefore).calls first hcall₁).clock,
            ((batchInv hrun).calls second hcall₂).clock, sync_eq_ok hsync₁, sync_eq_ok hsync₂⟩

/-- **One position, one batch**: the two answers are about the same one. -/
theorem TwoAnswers.batch_eq (h : TwoAnswers env mid before first second r₁ r₂ w) :
    r₂.batch.issued = r₁.batch.issued := by
  obtain ⟨t₁, t₁', t₂, id₁, id₂, hbefore, hfirst, hsteps, hsecond, -, -, -, -, -,
    ⟨latest₁, selected₁, hsynced₁⟩, ⟨latest₂, selected₂, hsynced₂⟩⟩ := h.states
  obtain ⟨since, hposition₁, hposition₂⟩ := h.position
  have hinv := batchInv h.run
  have hrun₂ := (hbefore.step hfirst).append hsteps
  obtain ⟨parent₁, hparent₁, htoken₁, hprevious₁, -⟩ :=
    hsynced₁.of_position hposition₁ (batchInv hbefore)
  obtain ⟨parent₂, hparent₂, htoken₂, hprevious₂, -⟩ :=
    hsynced₂.of_position hposition₂ (batchInv hrun₂)
  have hid : parent₂.id = parent₁.id := id_eq_of_tokenText_eq (htoken₂.symm.trans htoken₁)
  rw [hid] at hprevious₂
  refine hinv.unique _ ?_ _ ?_ parent₁.id hprevious₂ hprevious₁
  · exact mem_history.mpr ⟨second, r₂, by simp, rfl⟩
  · exact mem_history.mpr ⟨first, r₁, by simp, rfl⟩

theorem TwoAnswers.data_eq (h : TwoAnswers env mid before first second r₁ r₂ w) :
    r₂.batch.toMatrixSyncTokenData = r₁.batch.toMatrixSyncTokenData := by
  have hdata := congrArg SyncBatchRecord.toMatrixSyncTokenData h.batch_eq
  exact hdata

/-- The second answer leaves the queue as it finds it. -/
theorem TwoAnswers.queue_eq (h : TwoAnswers env mid before first second r₁ r₂ w) {t₂ : World}
    {id₂ : Uuid} (hrun : (service env).Run (mid ++ .synced first r₁ :: before) t₂)
    (hfresh : id₂ ∉ t₂.drawn)
    (hsynced : ∃ latest selected, Synced env.crypto second id₂ t₂.db r₂ latest selected) :
    r₂.db.queue = t₂.db.queue := by
  obtain ⟨latest, selected, hsynced⟩ := hsynced
  refine hsynced.queue_of_old (batchInv hrun) hfresh ?_
  rw [h.batch_eq]
  exact mem_history.mpr ⟨first, r₁, by simp, rfl⟩

/-- What the responses say beside their events is the same. -/
theorem TwoAnswers.sameBatch (h : TwoAnswers env mid before first second r₁ r₂ w) :
    SameBatch r₁ r₂ := by
  obtain ⟨t₁, t₁', t₂, id₁, id₂, hbefore, hfirst, hsteps, hsecond, hdb₁, -, -, -, -,
    ⟨latest₁, selected₁, hsynced₁⟩, ⟨latest₂, selected₂, hsynced₂⟩⟩ := h.states
  obtain ⟨since, hposition₁, hposition₂⟩ := h.position
  have hrun₁ := hbefore.step hfirst
  have hrun₂ := hrun₁.append hsteps
  obtain ⟨-, -, -, -, hlists₁⟩ := hsynced₁.of_position hposition₁ (batchInv hbefore)
  obtain ⟨-, -, -, -, hlists₂⟩ := hsynced₂.of_position hposition₂ (batchInv hrun₂)
  have hdata := h.data_eq
  have hposition : r₁.batch.deviceListPosition ≤ t₁'.db.lists.position :=
    ((batchInv hrun₁).sound r₁.batch.issued (by simp [answeredBy])).position
  have hstable := deltas_stable (streamInv hrun₁) (Steps.streamGrows hsteps) first.principal.id
    hposition
  have hlists : t₁'.db.lists = t₁.db.lists := by rw [hdb₁, hsynced₁.after]
  have hdelta : buildDeviceListChanges t₂.db.lists first.principal.id r₂.batch =
      buildDeviceListChanges t₂.db.lists first.principal.id r₁.batch := by
    simp only [buildDeviceListChanges, hdata]
  refine ⟨?_, ?_, ?_, ?_⟩
  · rw [hsynced₁.nextBatch, hsynced₂.nextBatch, hdata]
  · rw [hsynced₁.oneTimeKeyCount, hsynced₂.oneTimeKeyCount, hdata]
  · rw [hsynced₁.unusedFallbackKey, hsynced₂.unusedFallbackKey, hdata]
  · rw [hlists₁, hlists₂, h.user, hdelta, hstable, hlists]

/-- **The second page is a part of the first.** -/
theorem TwoAnswers.page_subset (h : TwoAnswers env mid before first second r₁ r₂ w)
    (hundisturbed : Undisturbed first second r₁ r₂ w) : r₂.page ⊆ r₁.page := by
  intro event hevent
  obtain ⟨t₁, t₁', t₂, id₁, id₂, hbefore, hfirst, hsteps, hsecond, hdb₁, hdb₂, hfresh, -, -,
    ⟨latest₁, selected₁, hsynced₁⟩, hsynced₂⟩ := h.states
  have hrun₁ := hbefore.step hfirst
  have hqueue := h.queue_eq (hrun₁.append hsteps) hfresh hsynced₂
  obtain ⟨latest₂, selected₂, hsynced₂⟩ := hsynced₂
  have hlive := hundisturbed.live₂ event hevent
  have hshown := hundisturbed.shown event (.inr hevent)
  rw [hsynced₂.page] at hevent
  obtain ⟨hmem, hdevice, hlow, hup, -, hvisible⟩ := mem_pageOf.mp hevent
  have hdata := h.data_eq
  rw [hdata] at hdevice hlow hup
  rw [hqueue] at hmem
  have hqueued : event ∈ r₁.db.queue.events := by
    rw [← hdb₁]
    rcases (Steps.grows hsteps).events event hmem with hold | hnew
    · exact hold
    · -- an event queued later lies above the end of the batch
      obtain ⟨n, hcursor, hle⟩ :=
        ((batchInv hrun₁).sound r₁.batch.issued (by simp [answeredBy])).cursor
      have hlt := hnew n (by rw [hdevice]; exact hcursor)
      have hle' : r₁.batch.upToSequence ≤ n := hle
      omega
  rw [hsynced₁.page]
  exact mem_pageOf.mpr ⟨hqueued, hdevice, hlow, hup, hlive, by rw [← hshown]; exact hvisible⟩

/-- Until a batch that ends above the start of theirs is acknowledged, the
first page is a part of the second. -/
theorem TwoAnswers.subset_page (h : TwoAnswers env mid before first second r₁ r₂ w)
    (hundisturbed : Undisturbed first second r₁ r₂ w)
    (hnone : NoneAcknowledgedAbove r₁.batch.deviceId r₁.batch.fromSequence mid
      (.synced first r₁ :: before)) : r₁.page ⊆ r₂.page := by
  intro event hevent
  obtain ⟨t₁, t₁', t₂, id₁, id₂, hbefore, hfirst, hsteps, hsecond, hdb₁, hdb₂, hfresh, -, hnow,
    ⟨latest₁, selected₁, hsynced₁⟩, hsynced₂⟩ := h.states
  have hrun₁ := hbefore.step hfirst
  have hqueue := h.queue_eq (hrun₁.append hsteps) hfresh hsynced₂
  obtain ⟨latest₂, selected₂, hsynced₂⟩ := hsynced₂
  have hlive := hundisturbed.live₁ event hevent
  have hshown := hundisturbed.shown event (.inl hevent)
  rw [hsynced₁.page] at hevent
  obtain ⟨hmem, hdevice, hlow, hup, -, hvisible⟩ := mem_pageOf.mp hevent
  have hdata := h.data_eq
  have hclock : t₂.db.clock ≤ w.db.clock := (ServiceStep.grows hsecond).clock
  have hkept : event ∈ t₂.db.queue.events :=
    Steps.kept hsteps hrun₁ (by rw [hdb₁]; exact hmem) (by omega) hlow (by rw [hdevice]; exact hnone)
  rw [hsynced₂.page]
  refine mem_pageOf.mpr ⟨by rw [hqueue]; exact hkept, ?_, ?_, ?_, by omega, ?_⟩
  · rw [hdata]
    exact hdevice
  · rw [hdata]
    exact hlow
  · rw [hdata]
    exact hup
  · rw [hshown]
    exact hvisible

/-- The events of both responses, with one way to show them. -/
theorem TwoAnswers.events_eq (h : TwoAnswers env mid before first second r₁ r₂ w)
    (hundisturbed : Undisturbed first second r₁ r₂ w) :
    r₁.response.events = r₁.page.filterMap (deliver r₁.db first.now) ∧
      r₂.response.events = r₂.page.filterMap (deliver r₁.db first.now) := by
  obtain ⟨t₁, t₁', t₂, id₁, id₂, -, -, -, -, -, -, -, -, -, ⟨latest₁, selected₁, hsynced₁⟩,
    ⟨latest₂, selected₂, hsynced₂⟩⟩ := h.states
  refine ⟨hsynced₁.events, ?_⟩
  rw [hsynced₂.events]
  exact List.filterMap_congr fun event hevent => hundisturbed.shown event (.inr hevent)

/-- Both pages are in the order of their sequences. -/
theorem TwoAnswers.pairwise (h : TwoAnswers env mid before first second r₁ r₂ w) :
    (r₁.page.Pairwise fun a b => a.recipientSequence < b.recipientSequence) ∧
      r₂.page.Pairwise fun a b => a.recipientSequence < b.recipientSequence := by
  have hrun := h.run
  obtain ⟨t₁, t₁', t₂, id₁, id₂, hbefore, hfirst, hsteps, hsecond, hdb₁, hdb₂, -, -, -,
    ⟨latest₁, selected₁, hsynced₁⟩, ⟨latest₂, selected₂, hsynced₂⟩⟩ := h.states
  have hordered₁ := (logInv (hbefore.step hfirst)).pairwise_events r₁.batch.deviceId
  have hordered₂ := (logInv hrun).pairwise_events r₂.batch.deviceId
  rw [hdb₁] at hordered₁
  rw [hdb₂] at hordered₂
  rw [hsynced₁.page, hsynced₂.page]
  exact ⟨pairwise_pageOf hordered₁, pairwise_pageOf hordered₂⟩

/-- **A repeated position gets the same batch, the same report on keys and
device lists, and a part of the same events; it gets all of them until a
batch of the device that ends above the start of this one is acknowledged.** -/
theorem replay_of_position (h : TwoAnswers env mid before first second r₁ r₂ w) :
    SameBatch r₁ r₂ ∧
      (Undisturbed first second r₁ r₂ w →
        r₂.response.events.Sublist r₁.response.events ∧
          (NoneAcknowledgedAbove r₁.batch.deviceId r₁.batch.fromSequence mid
              (.synced first r₁ :: before) →
            r₂.response.events = r₁.response.events)) := by
  refine ⟨h.sameBatch, fun hundisturbed => ?_⟩
  obtain ⟨hevents₁, hevents₂⟩ := h.events_eq hundisturbed
  obtain ⟨hpairwise₁, hpairwise₂⟩ := h.pairwise
  have hsublist : r₂.page.Sublist r₁.page :=
    List.sublist_of_subset_of_key_lt hpairwise₂ hpairwise₁ (h.page_subset hundisturbed)
  rw [hevents₁, hevents₂]
  refine ⟨hsublist.filterMap _, fun hnone => ?_⟩
  have hback : r₁.page.Sublist r₂.page :=
    List.sublist_of_subset_of_key_lt hpairwise₁ hpairwise₂ (h.subset_page hundisturbed hnone)
  rw [hsublist.antisymm hback]

end TwoAnswers

/-- A position is repeated at once whose first response showed events: no event of the two pages
expires in between, and each is shown alike. -/
def repeatedFull (trace : List Action) (w : World) : Bool :=
  match trace with
  | .synced second r₂ :: .syncBegan _ :: .synced first r₁ :: _ =>
    first.position.isSome && second.position = first.position &&
      second.principal.id = first.principal.id && !r₁.response.events.isEmpty &&
      (r₁.page.all fun event => w.db.clock < event.expiresAt) &&
      (r₂.page.all fun event => first.now < event.expiresAt) &&
      (r₁.page ++ r₂.page).all fun event =>
        (deliver r₂.db second.now event).map (fun shown => (shown.sender, shown.type)) =
          (deliver r₁.db first.now event).map fun shown => (shown.sender, shown.type)
  | _ => false

/-- The message is shown again where its position is repeated at once: nothing is acknowledged in
between, so that the second response has the events of the first. -/
theorem replay_of_position_message :
    ∃ r₁ r₂, SameBatch r₁ r₂ ∧ r₁.response.events ≠ [] ∧
      r₂.response.events = r₁.response.events := by
  obtain ⟨trace, w, hrun, hcheck⟩ := Sample.exists_run
    (Sample.laterScript ++ Sample.repeatPosition) repeatedFull (by decide +kernel)
  unfold repeatedFull at hcheck
  split at hcheck
  · rename_i second r₂ call first r₁ before
    simp only [Bool.and_eq_true, decide_eq_true_eq, Bool.not_eq_true',
      List.isEmpty_eq_false_iff, List.all_eq_true] at hcheck
    obtain ⟨⟨⟨⟨⟨⟨hsome, hsame⟩, huser⟩, hevents⟩, hlive₁⟩, hlive₂⟩, hshown⟩ := hcheck
    obtain ⟨since, hsince⟩ := Option.isSome_iff_exists.mp hsome
    have htwo : TwoAnswers Sample.deployment [.syncBegan call] before first second r₁ r₂ w :=
      ⟨hrun, ⟨since, hsince, hsame.trans hsince⟩, huser⟩
    have hundisturbed : Undisturbed first second r₁ r₂ w :=
      ⟨hlive₁, hlive₂, fun event hevent =>
        deliver_eq_of_header (hshown event (List.mem_append.mpr hevent))⟩
    have hnone : NoneAcknowledgedAbove r₁.batch.deviceId r₁.batch.fromSequence
        [.syncBegan call] (.synced first r₁ :: before) := by
      intro call' result hmem
      simp at hmem
    obtain ⟨hbatch, hreplayed⟩ := replay_of_position htwo
    exact ⟨r₁, r₂, hbatch, hevents, (hreplayed hundisturbed).2 hnone⟩
  · simp at hcheck

end SinoChat
