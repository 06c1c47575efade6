import SinoChat.Client.Respecting
import SinoChat.Client.Traced
import SinoChat.Model.SyncRun

/-!
# What becomes of the events of a page

The crypto machine gives out the events of a page once. The loop passes the
control events on and releases everything. A page whose position is stored is not
delivered again, so what is released without being passed on is lost to the
consumer: that happens where the flush behind the store fails
(`not_storedEventsPassed`), and nowhere else (`events_settled`).

The log of a turn is one of four (`PageLog`); over a run, events are told apart
because the machine gives out new ones only (`FreshEvents`).
-/

namespace SinoChat

open Js

namespace Transport

/-- The events released in a log. -/
def releases (log : List Call) : List ProcessedToDeviceEvent :=
  log.filterMap fun call =>
    match call with
    | .freed event => some event
    | _ => none

/-- The events passed to the consumer in a log. -/
def consumptions (log : List Call) : List ProcessedToDeviceEvent :=
  log.filterMap fun call =>
    match call with
    | .consumed event => some event
    | _ => none

section

variable {log later : List Call} {event : ProcessedToDeviceEvent}
  {events : List ProcessedToDeviceEvent}

/-- What is released comes to light part by part. -/
@[simp] theorem releases_append : releases (log ++ later) = releases log ++ releases later :=
  List.filterMap_append

/-- So does what is passed on. -/
@[simp] theorem consumptions_append :
    consumptions (log ++ later) = consumptions log ++ consumptions later := List.filterMap_append

@[simp] theorem releases_nil : releases [] = [] := rfl

@[simp] theorem consumptions_nil : consumptions [] = [] := rfl

@[simp] theorem releases_received : releases (.received events :: log) = releases log := rfl

@[simp] theorem consumptions_received :
    consumptions (.received events :: log) = consumptions log := rfl

@[simp] theorem releases_saved {token : JsString} :
    releases (.saved token :: log) = releases log := rfl

@[simp] theorem consumptions_saved {token : JsString} :
    consumptions (.saved token :: log) = consumptions log := rfl

@[simp] theorem releases_freed : releases (events.map .freed) = events := by
  induction events with
  | nil => rfl
  | cons event events ih => exact congrArg (event :: ·) ih

@[simp] theorem consumptions_freed : consumptions (events.map .freed) = [] := by
  induction events with
  | nil => rfl
  | cons event events ih => exact ih

@[simp] theorem releases_consumed : releases (events.map .consumed) = [] := by
  induction events with
  | nil => rfl
  | cons event events ih => exact ih

@[simp] theorem consumptions_consumed : consumptions (events.map .consumed) = events := by
  induction events with
  | nil => rfl
  | cons event events ih => exact congrArg (event :: ·) ih

@[simp] theorem releases_queried {bodies : List JsonObject} :
    releases (bodies.map .queried) = [] := by
  induction bodies with
  | nil => rfl
  | cons body bodies ih => exact ih

@[simp] theorem consumptions_queried {bodies : List JsonObject} :
    consumptions (bodies.map .queried) = [] := by
  induction bodies with
  | nil => rfl
  | cons body bodies ih => exact ih

end

namespace MatrixTransportCoordinator

/-! ## The log of a turn -/

section

variable (round : JsString → JsNumber) (events : List ProcessedToDeviceEvent)

/-- The application messages among events. -/
def rejectedOf : List ProcessedToDeviceEvent :=
  events.filter (isApplicationMessageDeliveredToDevice round)

/-- The other ones. -/
def controlOf : List ProcessedToDeviceEvent :=
  events.filter fun event => !isApplicationMessageDeliveredToDevice round event

/-- Every event is rejected or a control event. -/
theorem rejectedOf_append_controlOf :
    (rejectedOf round events ++ controlOf round events).Perm events :=
  List.filter_append_perm _ events

end

/-- **The log of a sync**, with the events it got: nothing before the machine gave them out; then
without a stored position, with one and no more, or a whole sync. -/
inductive PageLog (round : JsString → JsNumber) :
    List ProcessedToDeviceEvent → Except ClientError MatrixSyncResult → List Call → Prop
  | nothing {error : ClientError} : PageLog round [] (.error error) []
  | unsaved {events : List ProcessedToDeviceEvent} {error : ClientError} :
      PageLog round events (.error error) (.received events ::
        ((rejectedOf round events).map .freed ++ (controlOf round events).map .freed))
  | unsent {events : List ProcessedToDeviceEvent} {error : ClientError} {token : JsString}
      {bodies : List JsonObject} :
      PageLog round events (.error error) (.received events :: ((rejectedOf round events).map .freed
        ++ .saved token :: (bodies.map .queried ++ (controlOf round events).map .freed)))
  | synced {events : List ProcessedToDeviceEvent} {token : JsString} {bodies : List JsonObject}
      {sent : ℕ} :
      PageLog round events
        (.ok ⟨token, controlOf round events, (rejectedOf round events).length, sent⟩)
        (.received events :: ((rejectedOf round events).map .freed ++
          .saved token :: bodies.map .queried))

/-- What the loop adds to the log of a sync. -/
def deliveryLog : Except ClientError MatrixSyncResult → List Call
  | .ok result => result.processedControlEvents.map .consumed ++
      result.processedControlEvents.map .freed
  | .error _ => []

/-- The control events a sync passed on. -/
def passedOn : Except ClientError MatrixSyncResult → List ProcessedToDeviceEvent
  | .ok result => result.processedControlEvents
  | .error _ => []

section

variable {round : JsString → JsNumber} {events : List ProcessedToDeviceEvent}
  {synced : Except ClientError MatrixSyncResult} {page : List Call}

/-- **A turn releases every event it got.** -/
theorem PageLog.releases_perm (h : PageLog round events synced page) :
    (releases (page ++ deliveryLog synced)).Perm events := by
  have hall := rejectedOf_append_controlOf round events
  cases h with
  | nothing => exact .refl _
  | unsaved => simpa [deliveryLog] using hall
  | unsent => simpa [deliveryLog] using hall
  | synced => simpa [deliveryLog] using hall

/-- A page and its delivery pass on the events that were kept. -/
theorem PageLog.consumptions_eq (h : PageLog round events synced page) :
    consumptions (page ++ deliveryLog synced) = passedOn synced := by
  cases h with
  | nothing => rfl
  | unsaved => simp [deliveryLog, passedOn]
  | unsent => simp [deliveryLog, passedOn]
  | synced => simp [deliveryLog, passedOn]

/-- A sync that succeeds passes on the control events of its page. -/
theorem PageLog.passedOn_eq {result : MatrixSyncResult}
    (h : PageLog round events (.ok result) page) :
    result.processedControlEvents = controlOf round events := by
  cases h
  rfl

/-- A sync that succeeds stored the position. -/
theorem PageLog.saved {result : MatrixSyncResult} (h : PageLog round events (.ok result) page) :
    .saved result.nextBatch ∈ page := by
  cases h
  simp

/-- Only control events are passed on. -/
theorem PageLog.passedOn_subset (h : PageLog round events synced page) :
    passedOn synced ⊆ controlOf round events := by
  cases synced with
  | error error => exact List.nil_subset _
  | ok result => exact fun event hevent => h.passedOn_eq ▸ hevent

/-- The log tells which events the turn got. -/
theorem PageLog.eq_of_received {events' : List ProcessedToDeviceEvent}
    (h : PageLog round events synced page)
    (hreceived : .received events' ∈ page ++ deliveryLog synced) : events' = events := by
  have hdelivery : Call.received events' ∉ deliveryLog synced := by
    cases synced <;> simp [deliveryLog]
  have hpage := (List.mem_append.mp hreceived).resolve_right hdelivery
  cases h with
  | nothing => cases hpage
  | unsaved => simpa using hpage
  | unsent => simpa using hpage
  | synced => simpa using hpage

end

/-! ## A turn of the coordinator with a log -/

variable {σ : Type} {C : MatrixTransportCoordinator σ}
  {given : σ → Set ProcessedToDeviceEvent}

/-- What was given out stays given out. -/
def KeepsGiven (given : σ → Set ProcessedToDeviceEvent) (s t : σ) : Prop := given s ⊆ given t

/-- A state keeps its own events. -/
theorem KeepsGiven.refl (s : σ) : KeepsGiven given s s := Set.Subset.refl (given s)

/-- **A machine that gives out new events**: `given` are the events it gave out, and an event it
gives out was not given out before, also not twice at once. -/
structure FreshEvents (C : MatrixTransportCoordinator σ)
    (given : σ → Set ProcessedToDeviceEvent) : Prop extends
    Respecting C (KeepsGiven given) where
  fresh : ∀ {texts changed left counts types s t processed},
    C.machine.receiveSyncChanges texts changed left counts types s = (.ok processed, t) →
    processed.Nodup ∧ ∀ event ∈ processed, event ∉ given s ∧ event ∈ given t
  receiveSyncChanges : ∀ texts changed left counts types,
    (C.machine.receiveSyncChanges texts changed left counts types).Respects (KeepsGiven given)
  freeEvent : ∀ event s, KeepsGiven given s (C.machine.freeEvent event s)
  sync : ∀ since timeout, (C.transport.sync since timeout).Respects (KeepsGiven given)
  load : ∀ deviceId, (C.tokenStore.load deviceId).Respects (KeepsGiven given)
  save : ∀ deviceId token, (C.tokenStore.save deviceId token).Respects (KeepsGiven given)
  clear : ∀ deviceId, (C.tokenStore.clear deviceId).Respects (KeepsGiven given)

/-- Nothing is written down. -/
def Unlogged (given : σ → Set ProcessedToDeviceEvent) (p q : σ × List Call) : Prop :=
  q.2 = p.2 ∧ KeepsGiven given p.1 q.1

/-- Queries are written down and nothing else. -/
def Querying (given : σ → Set ProcessedToDeviceEvent) (p q : σ × List Call) : Prop :=
  (∃ bodies : List JsonObject, q.2 = p.2 ++ bodies.map .queried) ∧ KeepsGiven given p.1 q.1

/-- Nothing happened. -/
theorem Unlogged.refl (p : σ × List Call) : Unlogged given p p := ⟨rfl, Set.Subset.refl _⟩

/-- Two stretches without a call are one. -/
theorem Unlogged.trans (p q r : σ × List Call) (hpq : Unlogged given p q)
    (hqr : Unlogged given q r) : Unlogged given p r :=
  ⟨hqr.1.trans hpq.1, hpq.2.trans hqr.2⟩

/-- A stretch without a call queries nothing else. -/
theorem Unlogged.querying {p q : σ × List Call} (h : Unlogged given p q) : Querying given p q :=
  ⟨⟨[], by simp [h.1]⟩, h.2⟩

theorem Querying.refl (p : σ × List Call) : Querying given p p := (Unlogged.refl p).querying

/-- Two stretches of queries are one. -/
theorem Querying.trans (p q r : σ × List Call) (hpq : Querying given p q)
    (hqr : Querying given q r) : Querying given p r := by
  obtain ⟨⟨bodies, hbodies⟩, hfirst⟩ := hpq
  obtain ⟨⟨bodies', hbodies'⟩, hsecond⟩ := hqr
  refine ⟨⟨bodies ++ bodies', ?_⟩, hfirst.trans hsecond⟩
  rw [hbodies', hbodies, List.map_append, List.append_assoc]

/-- A computation that records no call leaves the log as it was. -/
theorem unlogged_quiet {α : Type} {x : Client σ α} (h : x.Respects (KeepsGiven given)) :
    (quiet x).Respects (Unlogged given) := by
  intro p y q heq
  cases heq
  exact ⟨List.append_nil _, h p.1 _ _ rfl⟩

/-- It queries nothing either. -/
theorem querying_quiet {α : Type} {x : Client σ α} (h : x.Respects (KeepsGiven given)) :
    (quiet x).Respects (Querying given) :=
  fun p y q heq => (unlogged_quiet h p y q heq).querying

/-- The calls of a flush write down queries only. -/
theorem querying_traced (h : C.Respecting (KeepsGiven given)) :
    C.traced.Respecting (Querying given) where
  outgoingRequests := querying_quiet h.outgoingRequests
  markRequestAsSent id type response := querying_quiet (h.markRequestAsSent id type response)
  freeRequest request p := Unlogged.querying ⟨rfl, h.freeRequest request p.1⟩
  uploadKeys body := querying_quiet (h.uploadKeys body)
  queryKeys body p y q heq := by
    cases heq
    exact ⟨⟨[body], rfl⟩, h.queryKeys body p.1 _ _ rfl⟩
  claimKeys requestId body := querying_quiet (h.claimKeys requestId body)
  sendToDevice eventType txnId body := querying_quiet (h.sendToDevice eventType txnId body)

/-- The flush records queries only. -/
theorem querying_flush (h : FreshEvents C given) :
    C.traced.flushOutgoingRequestsUnlocked.Respects (Querying given) :=
  respects_flush Querying.refl Querying.trans (querying_traced h.toRespecting)

/-- A release is recorded event by event. -/
theorem freeEvents_traced (events : List ProcessedToDeviceEvent) (p : σ × List Call) :
    C.traced.freeEvents events p = (C.freeEvents events p.1, p.2 ++ events.map .freed) := by
  induction events generalizing p with
  | nil => exact congrArg (p.1, ·) (List.append_nil p.2).symm
  | cons event rest ih =>
    refine (ih _).trans (congrArg (C.freeEvents rest (C.machine.freeEvent event p.1), ·) ?_)
    rw [List.map_cons, List.append_cons]
    rfl

/-- Releasing events takes none of the others. -/
theorem FreshEvents.freeEvents (h : FreshEvents C given) (events : List ProcessedToDeviceEvent)
    (s : σ) : KeepsGiven given s (C.freeEvents events s) := by
  induction events generalizing s with
  | nil => exact Set.Subset.refl _
  | cons event rest ih => exact (h.freeEvent event s).trans (ih _)

/-- Reading the token records no call. -/
theorem unlogged_loadSince (h : FreshEvents C given) :
    C.traced.loadSince.Respects (Unlogged given) := by
  refine Effect.Respects.bind Unlogged.trans (unlogged_quiet (h.load _)) fun since => ?_
  split_ifs
  · exact Effect.respects_pure Unlogged.refl since
  · exact (unlogged_quiet (h.clear _)).bind Unlogged.trans fun _ =>
      respects_fail Unlogged.refl _

/-- **The commit of a page**: the position is stored and queries are made, or the events are
released. -/
theorem commitPage_traced (h : FreshEvents C given) {token : JsString}
    {control : List ProcessedToDeviceEvent} {p q : σ × List Call} {y : Except ClientError ℕ}
    (heq : C.traced.commitPage token control p = (y, q)) : KeepsGiven given p.1 q.1 ∧
      ((∃ error, y = .error error ∧ q.2 = p.2 ++ control.map .freed) ∨
      (∃ error, y = .error error ∧ ∃ bodies : List JsonObject,
        q.2 = p.2 ++ .saved token :: (bodies.map .queried ++ control.map .freed)) ∨
      ∃ sent, y = .ok sent ∧ ∃ bodies : List JsonObject,
        q.2 = p.2 ++ .saved token :: bodies.map .queried) := by
  have hsaved : ∀ y' q', C.traced.tokenStore.save C.matrixDeviceId token p = (y', q') →
      KeepsGiven given p.1 q'.1 ∧ q'.2 = p.2 ++ noteSaved token y' := by
    intro y' q' hsave
    cases hsave
    exact ⟨h.save _ _ p.1 _ _ rfl, rfl⟩
  have hfree := fun u => freeEvents_traced (C := C) control u
  rcases hcommit : (C.traced.tokenStore.save C.matrixDeviceId token >>=
      fun _ => C.traced.flushOutgoingRequestsUnlocked) p with ⟨error | sent, u⟩
  · obtain ⟨rfl, rfl⟩ := Prod.mk.inj (heq.symm.trans (commitPage_of_error hcommit))
    rw [hfree]
    rcases Effect.bind_eq_error.mp hcommit with hsave | ⟨_, v, hsave, hflush⟩
    · obtain ⟨hkeeps, hlog⟩ := hsaved _ u hsave
      refine ⟨hkeeps.trans (h.freeEvents control u.1), .inl ⟨error, rfl, ?_⟩⟩
      simp [hlog, noteSaved]
    · obtain ⟨hkeeps, hlog⟩ := hsaved _ v hsave
      obtain ⟨⟨bodies, hbodies⟩, hkeeps'⟩ := querying_flush h v _ u hflush
      refine ⟨(hkeeps.trans hkeeps').trans (h.freeEvents control u.1),
        .inr (.inl ⟨error, rfl, bodies, ?_⟩)⟩
      simp [hbodies, hlog, noteSaved]
  · obtain ⟨rfl, rfl⟩ := Prod.mk.inj (heq.symm.trans (commitPage_of_ok hcommit))
    obtain ⟨_, v, hsave, hflush⟩ := Effect.bind_eq_ok.mp hcommit
    obtain ⟨hkeeps, hlog⟩ := hsaved _ v hsave
    obtain ⟨⟨bodies, hbodies⟩, hkeeps'⟩ := querying_flush h v _ _ hflush
    refine ⟨hkeeps.trans hkeeps', .inr (.inr ⟨sent, rfl, bodies, ?_⟩)⟩
    simp [hbodies, hlog, noteSaved]

/-- **What a sync did**: its log is that of a page, and the events of it are new ones. -/
def PageOf (C : MatrixTransportCoordinator σ) (given : σ → Set ProcessedToDeviceEvent)
    (p q : σ × List Call) (synced : Except ClientError MatrixSyncResult) : Prop :=
  KeepsGiven given p.1 q.1 ∧
    ∃ events page, PageLog C.round events synced page ∧ q.2 = p.2 ++ page ∧ events.Nodup ∧
      ∀ event ∈ events, event ∉ given p.1 ∧ event ∈ given q.1

/-- A page that fails before the sync has no events. -/
theorem PageOf.nothing {p q : σ × List Call} {error : ClientError} (h : Unlogged given p q) :
    PageOf C given p q (.error error) :=
  ⟨h.2, [], [], .nothing, by simp [h.1], List.nodup_nil, by simp⟩

/-- What was quiet before the page changes nothing of it. -/
theorem PageOf.behind {p u q : σ × List Call} {synced : Except ClientError MatrixSyncResult}
    (hbefore : Unlogged given p u) (h : PageOf C given u q synced) : PageOf C given p q synced := by
  obtain ⟨hlog, hgiven⟩ := hbefore
  obtain ⟨hkeeps, events, page, hpage, hpagelog, hnodup, hnew⟩ := h
  refine ⟨hgiven.trans hkeeps, events, page, hpage, by rw [hpagelog, hlog], hnodup, ?_⟩
  intro event hevent
  obtain ⟨hbefore, hbehind⟩ := hnew event hevent
  exact ⟨fun hgave => hbefore (hgiven hgave), hbehind⟩

/-- What a sync did once the machine gave out the events. -/
theorem pageOf_received (h : FreshEvents C given) {p v q : σ × List Call} {token : JsString}
    {processed : List ProcessedToDeviceEvent} {synced : Except ClientError MatrixSyncResult}
    (hkeeps : KeepsGiven given p.1 v.1) (hlog : v.2 = p.2 ++ [.received processed])
    (hnodup : processed.Nodup)
    (hnew : ∀ event ∈ processed, event ∉ given p.1 ∧ event ∈ given v.1)
    (hrest : (Effect.change (C.traced.freeEvents (rejectedOf C.round processed)) >>= fun _ =>
      C.traced.commitPage token (controlOf C.round processed) >>= fun sent =>
        (pure ⟨token, controlOf C.round processed, (rejectedOf C.round processed).length, sent⟩ :
          Client (σ × List Call) MatrixSyncResult)) v = (synced, q)) :
    PageOf C given p q synced := by
  have hgives : ∀ q', KeepsGiven given v.1 q' →
      ∀ event ∈ processed, event ∉ given p.1 ∧ event ∈ given q' :=
    fun q' hq' event hevent => ⟨(hnew event hevent).1, hq' (hnew event hevent).2⟩
  rcases Effect.bind_cases hrest with ⟨error, hchange, -⟩ | ⟨_, w, hchange, hrest⟩
  · cases hchange
  · obtain rfl : C.traced.freeEvents (rejectedOf C.round processed) v = w := (Prod.mk.inj hchange).2
    rw [freeEvents_traced] at hrest
    have hfreed := h.freeEvents (rejectedOf C.round processed) v.1
    rcases Effect.bind_cases hrest with ⟨error, hcommit, rfl⟩ | ⟨sent, w, hcommit, hpure⟩
    · obtain ⟨hcommitted, hcases⟩ := commitPage_traced h hcommit
      have hall := hfreed.trans hcommitted
      rcases hcases with ⟨_, -, hq⟩ | ⟨_, -, bodies, hq⟩ | ⟨_, heq, -⟩
      · exact ⟨hkeeps.trans hall, processed, _, .unsaved, by simp [hq, hlog], hnodup, hgives _ hall⟩
      · exact ⟨hkeeps.trans hall, processed, _, @PageLog.unsent _ _ _ token bodies,
          by simp [hq, hlog], hnodup, hgives _ hall⟩
      · cases heq
    · obtain ⟨hcommitted, hcases⟩ := commitPage_traced h hcommit
      have hall := hfreed.trans hcommitted
      obtain ⟨rfl, rfl⟩ := Prod.mk.inj hpure
      rcases hcases with ⟨_, heq, -⟩ | ⟨_, heq, -⟩ | ⟨_, -, bodies, hq⟩
      · cases heq
      · cases heq
      · exact ⟨hkeeps.trans hall, processed, _, @PageLog.synced _ _ token bodies _, by simp [hq, hlog],
          hnodup, hgives _ hall⟩

/-- **A sync of the coordinator with a log does what a page needs.** -/
theorem performSync_traced (h : FreshEvents C given) {timeout : ℕ} {p q : σ × List Call}
    {synced : Except ClientError MatrixSyncResult}
    (heq : C.traced.performSync timeout p = (synced, q)) : PageOf C given p q synced := by
  rcases Effect.bind_cases heq with ⟨error, hload, rfl⟩ | ⟨since, u, hload, heq⟩
  · exact .nothing (unlogged_loadSince h p _ q hload)
  refine .behind (unlogged_loadSince h p _ u hload) ?_
  have hsync := unlogged_quiet (h.sync since timeout)
  rcases Effect.bind_cases heq with ⟨error, hreply, rfl⟩ | ⟨reply, u', hreply, heq⟩
  · exact .nothing (hsync u _ q hreply)
  refine .behind (hsync u _ u' hreply) ?_
  have hcheck := respects_check (@Unlogged.refl _ given)
    (parseSyncResponse acceptsSyncToken reply)
  rcases Effect.bind_cases heq with ⟨error, hparse, rfl⟩ | ⟨page, u'', hparse, heq⟩
  · exact .nothing (hcheck u' _ q hparse)
  refine .behind (hcheck u' _ u'' hparse) ?_
  rcases Effect.bind_cases heq with ⟨error, hreceive, rfl⟩ | ⟨processed, v, hreceive, heq⟩
  · refine .nothing ?_
    obtain ⟨hvalue, rfl⟩ := Prod.mk.inj hreceive
    refine ⟨?_, h.receiveSyncChanges _ _ _ _ _ u''.1 _ _ rfl⟩
    simp only [hvalue, noteReceived, List.append_nil]
  · obtain ⟨hvalue, rfl⟩ := Prod.mk.inj hreceive
    obtain ⟨hnodup, hnew⟩ := h.fresh (Prod.ext hvalue rfl)
    refine pageOf_received h (h.receiveSyncChanges _ _ _ _ _ u''.1 _ _ rfl) ?_ hnodup hnew heq
    simp only [hvalue, noteReceived]

variable {consume : MatrixControlEventConsumer σ}

/-- The consumer, with the events it got written down. -/
def tracedConsumer (consume : MatrixControlEventConsumer σ) :
    MatrixControlEventConsumer (σ × List Call) := fun result =>
  (consume result).noting fun _ => result.processedControlEvents.map .consumed

/-- What a turn did. -/
def TurnOf (C : MatrixTransportCoordinator σ) (given : σ → Set ProcessedToDeviceEvent)
    (p q : σ × List Call) (synced : Except ClientError MatrixSyncResult) : Prop :=
  KeepsGiven given p.1 q.1 ∧
    ∃ events page, PageLog C.round events synced page ∧
      q.2 = p.2 ++ (page ++ deliveryLog synced) ∧ events.Nodup ∧
      ∀ event ∈ events, event ∉ given p.1 ∧ event ∈ given q.1

/-- A page and its delivery make a turn. -/
theorem TurnOf.of_page {p u q : σ × List Call} {synced : Except ClientError MatrixSyncResult}
    (h : PageOf C given p u synced) (hkeeps : KeepsGiven given u.1 q.1)
    (hlog : q.2 = u.2 ++ deliveryLog synced) : TurnOf C given p q synced := by
  obtain ⟨hkeeps', events, page, hpage, hpagelog, hnodup, hnew⟩ := h
  refine ⟨hkeeps'.trans hkeeps, events, page, hpage, ?_, hnodup, ?_⟩
  · rw [hlog, hpagelog, List.append_assoc]
  · exact fun event hevent => ⟨(hnew event hevent).1, hkeeps (hnew event hevent).2⟩

/-- **A turn of the loop**: a sync, and where it succeeded every control event is passed on and
then released. -/
theorem loopTurn_traced (h : FreshEvents C given)
    (hconsume : ∀ result, (consume result).Respects (KeepsGiven given)) {aborted : Bool}
    {state : LoopState} {p q : σ × List Call} {synced : Except ClientError MatrixSyncResult}
    {next : LoopNext}
    (heq : C.traced.loopTurn (some (tracedConsumer consume)) aborted state p = (synced, next, q)) :
    TurnOf C given p q synced := by
  have hquiet : (C.traced.tokenStore.clear C.matrixDeviceId).Respects (Unlogged given) :=
    unlogged_quiet (h.clear C.matrixDeviceId)
  have hclear := clearSyncPosition_rel Unlogged.refl hquiet (C := C.traced)
  rcases hsync : C.traced.performSync syncTimeoutMs p with ⟨error | result, u⟩
  · rw [loopTurn_of_error hsync] at heq
    obtain ⟨rfl, hend⟩ := Prod.mk.inj heq
    have hunlogged := hclear (syncTurn isUnknownPosition aborted state (.error error) (.ok ())) u
    rw [hend] at hunlogged
    obtain ⟨hlog, hkeeps⟩ := hunlogged
    exact .of_page (performSync_traced h hsync) hkeeps (hlog.trans (List.append_nil _).symm)
  · rw [loopTurn_of_ok hsync] at heq
    obtain ⟨rfl, hend⟩ := Prod.mk.inj heq
    have hunlogged := hclear (syncTurn isUnknownPosition aborted state (.ok ())
      (C.traced.consumeResult (some (tracedConsumer consume)) result u).1)
      (C.traced.consumeResult (some (tracedConsumer consume)) result u).2
    rw [hend] at hunlogged
    obtain ⟨hlog, hkeeps⟩ := hunlogged
    have hdelivered : C.traced.consumeResult (some (tracedConsumer consume)) result u =
        ((consume result u.1).1, C.traced.freeEvents result.processedControlEvents
          ((consume result u.1).2, u.2 ++ result.processedControlEvents.map .consumed)) := rfl
    rw [hdelivered] at hlog hkeeps
    rw [freeEvents_traced] at hlog hkeeps
    have hconsumed : KeepsGiven given u.1 (consume result u.1).2 :=
      hconsume result u.1 _ _ rfl
    have hfreed := hconsumed.trans (h.freeEvents result.processedControlEvents _)
    refine .of_page (performSync_traced h hsync) (hfreed.trans hkeeps) ?_
    rw [hlog, deliveryLog, List.append_assoc]

/-! ## What a run settles -/

/-- The event is released, once, and not passed to the consumer. -/
structure ReleasedOnly (log : List Call) (event : ProcessedToDeviceEvent) : Prop where
  released : (releases log).count event = 1
  kept : event ∉ consumptions log

/-- The event is passed to the consumer once, and it is released once, behind that. -/
structure PassedOnce (log : List Call) (event : ProcessedToDeviceEvent) : Prop where
  passed : (consumptions log).count event = 1
  released : (releases log).count event = 1
  before : ∃ earlier later, log = earlier ++ .freed event :: later ∧ .consumed event ∈ earlier

/-- What becomes of the events a turn got: a sync that succeeds passes on the control events, and
everything else is released only. -/
structure Settled (C : MatrixTransportCoordinator σ) (log : List Call)
    (synced : Except ClientError MatrixSyncResult) (events : List ProcessedToDeviceEvent) :
    Prop where
  passed : ∀ result, synced = .ok result → ∀ event ∈ events,
    isApplicationMessageDeliveredToDevice C.round event = false → PassedOnce log event
  rejected : ∀ event ∈ events,
    isApplicationMessageDeliveredToDevice C.round event = true → ReleasedOnly log event
  dropped : ∀ error, synced = .error error → ∀ event ∈ events, ReleasedOnly log event

/-- A released event stays released while nothing touches it. -/
theorem ReleasedOnly.extend {log later : List Call} {event : ProcessedToDeviceEvent}
    (h : ReleasedOnly log event) (hreleases : event ∉ releases later)
    (hconsumptions : event ∉ consumptions later) : ReleasedOnly (log ++ later) event where
  released := by
    rw [releases_append, List.count_append, h.released, List.count_eq_zero.mpr hreleases]
  kept := by
    rw [consumptions_append, List.mem_append, not_or]
    exact ⟨h.kept, hconsumptions⟩

/-- An event passed on once stays so while nothing touches it. -/
theorem PassedOnce.extend {log later : List Call} {event : ProcessedToDeviceEvent}
    (h : PassedOnce log event) (hreleases : event ∉ releases later)
    (hconsumptions : event ∉ consumptions later) : PassedOnce (log ++ later) event where
  passed := by
    rw [consumptions_append, List.count_append, h.passed, List.count_eq_zero.mpr hconsumptions]
  released := by
    rw [releases_append, List.count_append, h.released, List.count_eq_zero.mpr hreleases]
  before := by
    obtain ⟨earlier, later', rfl, hconsumed⟩ := h.before
    exact ⟨earlier, later' ++ later, by simp, hconsumed⟩

/-- What is settled stays settled behind calls about other events. -/
theorem Settled.extend {log later : List Call} {synced : Except ClientError MatrixSyncResult}
    {events : List ProcessedToDeviceEvent} (h : Settled C log synced events)
    (hlater : ∀ event ∈ releases log, event ∉ releases later ∧ event ∉ consumptions later) :
    Settled C (log ++ later) synced events := by
  have hmem : ∀ {event}, (releases log).count event = 1 → event ∈ releases log :=
    fun hone => List.count_pos_iff.mp (by omega)
  refine ⟨?_, ?_, ?_⟩
  · intro result hresult event hevent hcontrol
    have hpassed := h.passed result hresult event hevent hcontrol
    obtain ⟨hreleases, hconsumptions⟩ := hlater event (hmem hpassed.released)
    exact hpassed.extend hreleases hconsumptions
  · intro event hevent happlication
    have hrejected := h.rejected event hevent happlication
    obtain ⟨hreleases, hconsumptions⟩ := hlater event (hmem hrejected.released)
    exact hrejected.extend hreleases hconsumptions
  · intro error herror event hevent
    have hdropped := h.dropped error herror event hevent
    obtain ⟨hreleases, hconsumptions⟩ := hlater event (hmem hdropped.released)
    exact hdropped.extend hreleases hconsumptions

/-- A control event is one that carries no message. -/
theorem mem_controlOf {round : JsString → JsNumber} {events : List ProcessedToDeviceEvent}
    {event : ProcessedToDeviceEvent} : event ∈ controlOf round events ↔
      event ∈ events ∧ isApplicationMessageDeliveredToDevice round event = false := by
  simp [controlOf]

/-- **A turn settles its own events**, where the log before it is about other ones. -/
theorem settled_turn {log page : List Call} {synced : Except ClientError MatrixSyncResult}
    {events : List ProcessedToDeviceEvent} (hpage : PageLog C.round events synced page)
    (hnodup : events.Nodup)
    (hbefore : ∀ event ∈ events, event ∉ releases log ∧ event ∉ consumptions log) :
    Settled C (log ++ (page ++ deliveryLog synced)) synced events := by
  have hreleased : ∀ event ∈ events,
      (releases (log ++ (page ++ deliveryLog synced))).count event = 1 := by
    intro event hevent
    rw [releases_append, List.count_append, List.count_eq_zero.mpr (hbefore event hevent).1,
      hpage.releases_perm.count_eq, List.count_eq_one_of_mem hnodup hevent]
  have hkept : ∀ event ∈ events, event ∉ passedOn synced →
      ReleasedOnly (log ++ (page ++ deliveryLog synced)) event := by
    intro event hevent hpassed
    refine ⟨hreleased event hevent, ?_⟩
    rw [consumptions_append, hpage.consumptions_eq, List.mem_append, not_or]
    exact ⟨(hbefore event hevent).2, hpassed⟩
  refine ⟨?_, ?_, ?_⟩
  · rintro result rfl event hevent hcontrol
    have hmem : event ∈ result.processedControlEvents :=
      hpage.passedOn_eq ▸ mem_controlOf.mpr ⟨hevent, hcontrol⟩
    have hnodup' : result.processedControlEvents.Nodup :=
      hpage.passedOn_eq ▸ hnodup.filter _
    refine ⟨?_, hreleased event hevent, ?_⟩
    · rw [consumptions_append, List.count_append,
        List.count_eq_zero.mpr (hbefore event hevent).2, hpage.consumptions_eq, passedOn,
        List.count_eq_one_of_mem hnodup' hmem]
    · obtain ⟨first, rest, hsplit⟩ := List.append_of_mem hmem
      refine ⟨log ++ page ++ result.processedControlEvents.map .consumed ++ first.map .freed,
        rest.map .freed, ?_, ?_⟩
      · rw [deliveryLog]
        conv_lhs => rw [show result.processedControlEvents.map Call.freed =
          first.map .freed ++ .freed event :: rest.map .freed by rw [hsplit]; simp]
        simp only [List.append_assoc]
      · simp [hmem]
  · intro event hevent happlication
    refine hkept event hevent fun hpassed => ?_
    have := (mem_controlOf.mp (hpage.passedOn_subset hpassed)).2
    rw [happlication] at this
    cases this
  · rintro error rfl event hevent
    exact hkept event hevent List.not_mem_nil

/-- The loop of the coordinator with a log, from an empty log. -/
def tracedLoop (C : MatrixTransportCoordinator σ) (consume : MatrixControlEventConsumer σ)
    (env : σ → σ → Prop) (start : σ → Prop) :
    Machine (LoopRun (σ × List Call)) (LoopLabel (σ × List Call)) :=
  syncLoop C.traced (some (tracedConsumer consume)) (fun p q => env p.1 q.1 ∧ q.2 = p.2)
    fun p => start p.1 ∧ p.2 = []

/-- The invariant of a run: the events of the log were given out, and every turn is settled. -/
structure RunSettled (C : MatrixTransportCoordinator σ)
    (given : σ → Set ProcessedToDeviceEvent) (trace : List (LoopLabel (σ × List Call)))
    (p : σ × List Call) : Prop where
  released : ∀ event ∈ releases p.2, event ∈ given p.1
  passed : ∀ event ∈ consumptions p.2, event ∈ given p.1
  turns : ∀ s t synced, .turned s t synced ∈ trace → ∃ segment, t.2 = s.2 ++ segment ∧
    (∀ result, synced = .ok result → .saved result.nextBatch ∈ segment) ∧
    ∀ events, .received events ∈ segment → Settled C p.2 synced events

variable {env : σ → σ → Prop} {trace : List (LoopLabel (σ × List Call))}

/-- A step beside the turns settles nothing. -/
theorem RunSettled.elsewhere {p q : σ × List Call} {label : LoopLabel (σ × List Call)}
    (h : RunSettled C given trace p) (hkeeps : KeepsGiven given p.1 q.1) (hlog : q.2 = p.2)
    (hlabel : ∀ s t synced, label ≠ .turned s t synced) :
    RunSettled C given (label :: trace) q where
  released event hevent := hkeeps (h.released event (hlog ▸ hevent))
  passed event hevent := hkeeps (h.passed event (hlog ▸ hevent))
  turns := by
    intro s t synced hturn
    rcases List.mem_cons.mp hturn with hturn | hturn
    · exact absurd hturn.symm (hlabel s t synced)
    · rw [hlog]
      exact h.turns s t synced hturn

/-- A turn keeps the invariant: its events are new, so the log was about other ones. -/
theorem RunSettled.turn {p q : σ × List Call} {synced : Except ClientError MatrixSyncResult}
    (h : RunSettled C given trace p) (hturn : TurnOf C given p q synced) :
    RunSettled C given (.turned p q synced :: trace) q := by
  obtain ⟨hkeeps, events, page, hpage, hlog, hnodup, hnew⟩ := hturn
  have hreleases : ∀ event ∈ releases (page ++ deliveryLog synced), event ∈ events :=
    fun event hevent => hpage.releases_perm.mem_iff.mp hevent
  have hconsumptions : ∀ event ∈ consumptions (page ++ deliveryLog synced), event ∈ events := by
    intro event hevent
    rw [hpage.consumptions_eq] at hevent
    exact (mem_controlOf.mp (hpage.passedOn_subset hevent)).1
  refine ⟨?_, ?_, ?_⟩
  · intro event hevent
    rw [hlog, releases_append, List.mem_append] at hevent
    rcases hevent with hevent | hevent
    · exact hkeeps (h.released event hevent)
    · exact (hnew event (hreleases event hevent)).2
  · intro event hevent
    rw [hlog, consumptions_append, List.mem_append] at hevent
    rcases hevent with hevent | hevent
    · exact hkeeps (h.passed event hevent)
    · exact (hnew event (hconsumptions event hevent)).2
  · intro s t synced' hmem
    rcases List.mem_cons.mp hmem with heq | hmem
    · cases heq
      refine ⟨page ++ deliveryLog synced, hlog, ?_, fun events' hreceived => ?_⟩
      · rintro result rfl
        exact List.mem_append_left _ hpage.saved
      obtain rfl := hpage.eq_of_received hreceived
      rw [hlog]
      exact settled_turn hpage hnodup fun event hevent =>
        ⟨fun hold => (hnew event hevent).1 (h.released event hold),
          fun hold => (hnew event hevent).1 (h.passed event hold)⟩
    · obtain ⟨segment, hsegment, hsaved, hsettled⟩ := h.turns s t synced' hmem
      refine ⟨segment, hsegment, hsaved, fun events' hreceived => ?_⟩
      rw [hlog]
      refine (hsettled events' hreceived).extend fun event hold => ⟨?_, ?_⟩
      · exact fun hlater => (hnew event (hreleases event hlater)).1 (h.released event hold)
      · exact fun hlater => (hnew event (hconsumptions event hlater)).1 (h.released event hold)

/-- **Every run of the loop is settled**, by induction on its steps. -/
theorem runSettled_of_run (h : FreshEvents C given)
    (hconsume : ∀ result, (consume result).Respects (KeepsGiven given))
    (henv : ∀ s t, env s t → KeepsGiven given s t) {start : σ → Prop}
    {w : LoopRun (σ × List Call)} (hrun : (tracedLoop C consume env start).Run trace w) :
    RunSettled C given trace w.outside := by
  refine hrun.invariant (I := fun trace w => RunSettled C given trace w.outside) ?_ ?_
  · rintro w ⟨⟨-, hempty⟩, -⟩
    exact ⟨by simp [hempty], by simp [hempty], by simp⟩
  · intro trace w label w' _ hsettled hstep
    cases hstep with
    | turn hturn => exact hsettled.turn (loopTurn_traced h hconsume hturn)
    | stop => exact hsettled.elsewhere (.refl _) rfl (by rintro _ _ _ ⟨⟩)
    | elsewhere hother =>
      exact hsettled.elsewhere (henv _ _ hother.1) hother.2 (by rintro _ _ _ ⟨⟩)

/-- **Every event a turn got is settled.** In every run of the loop, whatever fails, every event
is released once; a control event is passed to the consumer once, before that, where the sync
of its turn stored the position and succeeded, and nothing else is passed on. -/
theorem events_settled (h : FreshEvents C given)
    (hconsume : ∀ result, (consume result).Respects (KeepsGiven given))
    (henv : ∀ s t, env s t → KeepsGiven given s t) {start : σ → Prop}
    {w : LoopRun (σ × List Call)} (hrun : (tracedLoop C consume env start).Run trace w)
    {s t : σ × List Call} {synced : Except ClientError MatrixSyncResult}
    (hturn : .turned s t synced ∈ trace) : ∃ segment, t.2 = s.2 ++ segment ∧
      (∀ result, synced = .ok result → .saved result.nextBatch ∈ segment) ∧
      ∀ events, .received events ∈ segment → Settled C w.outside.2 synced events :=
  (runSettled_of_run h hconsume henv hrun).turns s t synced hturn

/-! ## A flush that fails -/

/-- **The claim on the loop as it is**: what the machine gave out of a page whose position is
stored, and is no application message, is passed on once before it is released. -/
def StoredEventsPassed (C : MatrixTransportCoordinator σ) (consume : MatrixControlEventConsumer σ)
    (env : σ → σ → Prop) (start : σ → Prop) : Prop :=
  ∀ trace w, (tracedLoop C consume env start).Run trace w → ∀ s t synced,
    .turned s t synced ∈ trace → ∀ segment, t.2 = s.2 ++ segment → ∀ events token,
    .received events ∈ segment → .saved token ∈ segment → ∀ event ∈ events,
      isApplicationMessageDeliveredToDevice C.round event = false → PassedOnce w.outside.2 event

/-- A position as the service makes them. -/
def sampleToken : JsString :=
  js "sct1." ++ List.replicate 22 0x41 ++ js "." ++ List.replicate 43 0x41

/-- A page with nothing new but its position. -/
def samplePage : Json :=
  .obj [(js "next_batch", .str sampleToken), (js "to_device", .obj [(js "events", .arr [])]),
    (js "device_one_time_keys_count", .obj [(js "signed_curve25519", .num (.integer 50))]),
    (js "device_unused_fallback_key_types", .arr [])]

/-- The error of a request that got no reply. -/
def noReply : ClientError := .api ⟨.null, 0, none⟩

/-- The control event of a page. -/
def sampleEvent (n : ℕ) : ProcessedToDeviceEvent := ⟨n, .invalid, []⟩

/-- A machine that gives out one control event with every page and counts them; where the
network is down behind a page, the first request of the queue gets no reply. -/
def pageSample (online : Bool) : MatrixTransportCoordinator ℕ where
  machine :=
    { outgoingRequests :=
        pure (if online then [] else [⟨some (js "r"), .keysUpload, js "{}", none, none⟩])
      markRequestAsSent := fun _ _ _ => pure true
      receiveSyncChanges := fun _ _ _ _ _ n => (.ok [sampleEvent n], n + 1)
      freeRequest := fun _ n => n
      freeEvent := fun _ n => n }
  matrixDeviceId := js "D"
  transport :=
    { uploadKeys := fun _ => .fail noReply
      queryKeys := fun _ => .fail noReply
      claimKeys := fun _ _ => .fail noReply
      sendToDevice := fun _ _ _ => .fail noReply
      sync := fun _ _ => pure (some samplePage) }
  tokenStore :=
    { load := fun _ => pure none
      save := fun _ _ => pure ()
      clear := fun _ => pure () }
  round := fun _ => .negativeZero
  sha256 := id

/-- The events counted so far. -/
def counted (n : ℕ) : Set ProcessedToDeviceEvent := {event | event.wrapper < n}

/-- The SDK of the sample hands out each event once. -/
theorem pageSample_fresh (online : Bool) : FreshEvents (pageSample online) counted where
  fresh := by
    intro texts changed left counts types n t processed h
    cases h
    refine ⟨List.nodup_singleton _, fun event hevent => ?_⟩
    obtain rfl := List.mem_singleton.mp hevent
    exact ⟨lt_irrefl n, Nat.lt_succ_self n⟩
  receiveSyncChanges := by
    intro texts changed left counts types n y t h event hevent
    cases h
    exact Nat.lt_succ_of_lt hevent
  outgoingRequests := Effect.respects_pure KeepsGiven.refl _
  markRequestAsSent _ _ _ := Effect.respects_pure KeepsGiven.refl _
  freeRequest _ n := Set.Subset.refl (counted n)
  freeEvent _ n := Set.Subset.refl (counted n)
  uploadKeys _ := respects_fail KeepsGiven.refl noReply
  queryKeys _ := respects_fail KeepsGiven.refl noReply
  claimKeys _ _ := respects_fail KeepsGiven.refl noReply
  sendToDevice _ _ _ := respects_fail KeepsGiven.refl noReply
  sync _ _ := Effect.respects_pure KeepsGiven.refl _
  load _ := Effect.respects_pure KeepsGiven.refl _
  save _ _ := Effect.respects_pure KeepsGiven.refl _
  clear _ := Effect.respects_pure KeepsGiven.refl _

/-- A turn whose flush succeeds. -/
theorem loopTurn_online : (pageSample true).traced.loopTurn
    (some (tracedConsumer fun _ => pure ())) false LoopState.initial (0, []) =
      (.ok ⟨sampleToken, [sampleEvent 0], 0, 0⟩, .again LoopState.initial, (1,
        [.received [sampleEvent 0], .saved sampleToken, .consumed (sampleEvent 0),
          .freed (sampleEvent 0)])) := rfl

/-- A turn whose flush fails. -/
theorem loopTurn_offline : (pageSample false).traced.loopTurn
    (some (tracedConsumer fun _ => pure ())) false LoopState.initial (0, []) =
      (.error noReply, .after 500 ⟨1000, false⟩, (1,
        [.received [sampleEvent 0], .saved sampleToken, .freed (sampleEvent 0)])) := rfl

/-- A turn of a machine that gives out one event: it is passed on once. -/
theorem events_settled_online : ∃ trace w,
    (tracedLoop (pageSample true) (fun _ => pure ()) (fun _ _ => False) fun n => n = 0).Run
      trace w ∧ PassedOnce w.outside.2 (sampleEvent 0) := by
  have hrun := (Machine.Run.init (M := tracedLoop (pageSample true) (fun _ => pure ())
    (fun _ _ => False) fun n => n = 0) (s := ⟨(0, []), some LoopState.initial⟩)
    ⟨⟨rfl, rfl⟩, rfl⟩).step (.turn loopTurn_online)
  refine ⟨_, _, hrun, ?_⟩
  obtain ⟨segment, hsegment, -, hsettled⟩ := events_settled (pageSample_fresh true)
    (fun _ => Effect.respects_pure KeepsGiven.refl ())
    (fun _ _ hno => hno.elim) hrun List.mem_cons_self
  obtain rfl := (List.nil_append segment).symm.trans hsegment.symm
  exact (hsettled [sampleEvent 0] List.mem_cons_self).passed _ rfl (sampleEvent 0)
    (List.mem_singleton.mpr rfl) rfl

/-- **A flush that fails loses the events of a stored page**: they are released and the consumer
gets none of them. -/
theorem not_storedEventsPassed : ¬ StoredEventsPassed (pageSample false) (fun _ => pure ())
    (fun _ _ => False) (fun n => n = 0) := by
  intro hclaim
  have hrun := (Machine.Run.init (M := tracedLoop (pageSample false) (fun _ => pure ())
    (fun _ _ => False) fun n => n = 0) (s := ⟨(0, []), some LoopState.initial⟩)
    ⟨⟨rfl, rfl⟩, rfl⟩).step (.turn loopTurn_offline)
  have hpassed := hclaim _ _ hrun (0, []) _ _ List.mem_cons_self _ (List.nil_append _).symm
    [sampleEvent 0] sampleToken List.mem_cons_self
    (List.mem_cons_of_mem _ List.mem_cons_self) (sampleEvent 0) (List.mem_singleton.mpr rfl) rfl
  exact absurd hpassed.passed (by decide)

end MatrixTransportCoordinator

end Transport

end SinoChat
