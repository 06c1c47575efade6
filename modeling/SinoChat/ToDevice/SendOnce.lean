import SinoChat.ToDevice.Lineage
import SinoChat.ToDevice.Script
import Mathlib.Data.List.Perm.Subperm

/-!
# A send queues once, for all or for none

A send is known by its device, event type and transaction id (`SendKey`).
The record of a send is never deleted, so of all sends with one key only the
first queues anything, a repetition with the same content does nothing and
one with other content is refused (`OnceInv`). The targets of
a send are different devices, because the requested addresses are and a
device publishes one identity; so a queue that had room for one more event
stays within its limit (`WithinLimit`).
-/

namespace SinoChat

open Js

variable {env : Deployment}

/-! ## The targets of a send -/

/-- A resolved target is the device that published its address. -/
theorem resolveTarget_eq_ok {identityByAddress : JsMap (JsString × JsString) MatrixDeviceKey}
    {conversations : JsMap Uuid (Option Uuid)} {senderKey : JsString} {target : RequestedTarget}
    {resolved : ResolvedTarget}
    (h : resolveTarget identityByAddress conversations senderKey target = .ok resolved) :
    ∃ identity, JsMap.get? target.1 identityByAddress = some identity ∧
      resolved.deviceId = identity.deviceId := by
  unfold resolveTarget at h
  obtain ⟨identity, hidentity, h⟩ := bind_eq_ok.mp h
  obtain ⟨_, -, h⟩ := bind_eq_ok.mp h
  obtain ⟨_, -, h⟩ := bind_eq_ok.mp h
  obtain ⟨_, -, h⟩ := bind_eq_ok.mp h
  cases h
  exact ⟨identity, orThrow_eq_ok.mp hidentity, rfl⟩

/-- A map of as many entries as there are addresses, all of them keys, shows
the addresses to be different. -/
theorem nodup_of_length_eq {κ α : Type} [DecidableEq κ] {map : JsMap κ α} {keys : List κ}
    (hnodup : (map.map Prod.fst).Nodup) (hsub : map.map Prod.fst ⊆ keys)
    (hlength : map.length = keys.length) : keys.Nodup := by
  have hsubperm : (map.map Prod.fst).Subperm keys := hnodup.subperm hsub
  have hperm : (map.map Prod.fst).Perm keys :=
    hsubperm.perm_of_length_le (by rw [List.length_map, hlength])
  exact hperm.nodup_iff.mp hnodup

/-- What stands on the right of related lists is related to something on the left. -/
theorem exists_left_of_forall₂ {α β : Type} {R : α → β → Prop} {xs : List α} {ys : List β}
    (h : List.Forall₂ R xs ys) {y : β} (hy : y ∈ ys) : ∃ x ∈ xs, R x y := by
  induction h with
  | nil => simp at hy
  | @cons x z xs ys hxz _ ih =>
    rcases List.mem_cons.mp hy with rfl | hmem
    · exact ⟨x, List.mem_cons_self, hxz⟩
    · obtain ⟨x', hx', hR⟩ := ih hmem
      exact ⟨x', List.mem_cons_of_mem _ hx', hR⟩

/-- Items related to different ones are different. -/
theorem nodup_of_forall₂ {α β γ δ : Type} {R : α → β → Prop} {f : α → γ} {g : β → δ}
    {xs : List α} {ys : List β} (h : List.Forall₂ R xs ys) (hxs : (xs.map f).Nodup)
    (hinj : ∀ x x' y y', R x y → R x' y' → g y = g y' → f x = f x') : (ys.map g).Nodup := by
  induction h with
  | nil => simp
  | @cons x y xs ys hxy hrest ih =>
    simp only [List.map_cons, List.nodup_cons] at hxs ⊢
    refine ⟨?_, ih hxs.2⟩
    intro hmem
    obtain ⟨y', hy', heq⟩ := List.mem_map.mp hmem
    obtain ⟨x', hx', hR⟩ := exists_left_of_forall₂ hrest hy'
    exact hxs.1 (List.mem_map.mpr ⟨x', hx', hinj x' x y' y hR hxy heq⟩)

/-- The identities a request is matched against, by their addresses. -/
def identitiesByAddress (accounts : Accounts) (requested : List RequestedTarget) :
    JsMap (JsString × JsString) MatrixDeviceKey :=
  JsMap.ofEntries ((requestedIdentities accounts requested).map fun i => (matrixAddress i, i))

/-- An entry of that map is a published identity under its own address. -/
theorem mem_identitiesByAddress {accounts : Accounts} {requested : List RequestedTarget}
    {address : JsString × JsString} {identity : MatrixDeviceKey}
    (h : JsMap.get? address (identitiesByAddress accounts requested) = some identity) :
    identity ∈ requestedIdentities accounts requested ∧ address = matrixAddress identity := by
  rw [identitiesByAddress, JsMap.get?_ofEntries, Option.map_eq_some_iff] at h
  obtain ⟨entry, hfind, hvalue⟩ := h
  have hmem := List.mem_of_find?_eq_some hfind
  have haddress := List.find?_some hfind
  rw [List.mem_reverse, List.mem_map] at hmem
  obtain ⟨found, hfound, rfl⟩ := hmem
  simp only [decide_eq_true_eq] at haddress
  cases hvalue
  exact ⟨hfound, haddress.symm⟩

/-- Identities are found for addresses that were asked for. -/
theorem keys_identitiesByAddress (accounts : Accounts) (requested : List RequestedTarget) :
    (identitiesByAddress accounts requested).map Prod.fst ⊆ requested.map Prod.fst := by
  intro address haddress
  obtain ⟨entry, hentry, rfl⟩ := List.mem_map.mp haddress
  have hnodup := JsMap.nodup_keys_ofEntries
    ((requestedIdentities accounts requested).map fun i => (matrixAddress i, i))
  have hget : JsMap.get? entry.1 (identitiesByAddress accounts requested) = some entry.2 :=
    JsMap.get?_eq_some_of_mem hnodup hentry
  obtain ⟨hmem, haddr⟩ := mem_identitiesByAddress hget
  simp only [requestedIdentities, List.mem_filter, Bool.and_eq_true, List.any_eq_true,
    decide_eq_true_eq] at hmem
  obtain ⟨-, ⟨target, htarget, heq⟩, -⟩ := hmem
  exact List.mem_map.mpr ⟨target, htarget, by rw [heq, haddr]⟩

/-- **The resolved targets are as many as the requested ones and are
different devices.** -/
theorem resolveTargets_eq_ok {accounts : Accounts} {principal : SessionPrincipal}
    {request : MatrixToDeviceRequest} {senderKey : JsString} {now : ℕ}
    {targets : List ResolvedTarget}
    (h : resolveTargets accounts principal request senderKey now = .ok targets) :
    targets.length = (requestedTargets request).length ∧
      (targets.map ResolvedTarget.deviceId).Nodup := by
  unfold resolveTargets at h
  dsimp only at h
  obtain ⟨_, hlength, h⟩ := bind_eq_ok.mp h
  obtain ⟨current, -, h⟩ := bind_eq_ok.mp h
  obtain ⟨resolved, hresolved, h⟩ := bind_eq_ok.mp h
  cases h
  have hrelated := mapM_eq_ok hresolved
  change require ((identitiesByAddress accounts (requestedTargets request)).length ==
    (requestedTargets request).length) _ = .ok _ at hlength
  rw [require_eq_ok, beq_iff_eq] at hlength
  refine ⟨by rw [List.length_sortBy, hrelated.length_eq], ?_⟩
  have haddresses : ((requestedTargets request).map Prod.fst).Nodup :=
    nodup_of_length_eq (JsMap.nodup_keys_ofEntries _) (keys_identitiesByAddress accounts _)
      (by rw [List.length_map]; exact hlength)
  rw [((List.sortBy_perm _ resolved).map _).nodup_iff]
  refine nodup_of_forall₂ hrelated haddresses ?_
  -- two targets of one device have the address this device published
  intro target target' r r' hr hr' hdevice
  obtain ⟨identity, hget, hid⟩ := resolveTarget_eq_ok hr
  obtain ⟨identity', hget', hid'⟩ := resolveTarget_eq_ok hr'
  obtain ⟨hmem, haddress⟩ := mem_identitiesByAddress hget
  obtain ⟨hmem', haddress'⟩ := mem_identitiesByAddress hget'
  have heq : identity = identity' :=
    Table.eq_of_key_eq (t := accounts.deviceKeys) (List.mem_filter.mp hmem).1
      (List.mem_filter.mp hmem').1 (by rw [← hid, ← hid', hdevice])
  rw [haddress, haddress', heq]

/-- Every locked recipient has a cursor and room. -/
theorem lockRecipientCursors_eq_ok {db : Db} {targets : List ResolvedTarget} {now : ℕ}
    (h : lockRecipientCursors db targets now = .ok ()) :
    ∀ target ∈ targets, (db.queue.latestSequence target.deviceId).isSome ∧
      (db.queue.pending target.deviceId now).length < maxPendingToDeviceEventsPerDevice := by
  induction targets with
  | nil => simp
  | cons target rest ih =>
    obtain ⟨_, hone, hrest⟩ := bind_eq_ok.mp h
    unfold lockRecipientCursor at hone
    obtain ⟨_, havailable, hroom⟩ := bind_eq_ok.mp hone
    simp only [require_eq_ok, Bool.and_eq_true, decide_eq_true_eq] at havailable hroom
    intro other hother
    rcases List.mem_cons.mp hother with rfl | hmem
    · exact ⟨havailable.2, hroom⟩
    · exact ih hrest other hmem

/-! ## The key of a send -/

/-- What a send is known by. -/
structure SendKey where
  deviceId : Uuid
  eventType : JsString
  transactionId : JsString
  deriving DecidableEq

/-- The key of a call, where its session is bound to a device. -/
def SendCall.key (call : SendCall) : Option SendKey :=
  call.principal.deviceId.map fun deviceId =>
    ⟨deviceId, call.rawEventType, call.rawTransactionId⟩

/-- A step is a successful send under a key. -/
def carries (key : SendKey) : Action → Bool
  | .sent call _ => call.key == some key
  | _ => false

/-- The events the sends under one key queued. -/
def enqueuedUnder (key : SendKey) (trace : List Action) : List MatrixToDeviceEvent :=
  enqueued (trace.filter (carries key))

theorem enqueuedUnder_cons_of_carries {key : SendKey} {a : Action} {trace : List Action}
    (h : carries key a = true) :
    enqueuedUnder key (a :: trace) = enqueuedUnder key trace ++ queuedBy a := by
  simp [enqueuedUnder, h]

theorem enqueuedUnder_cons_of_not {key : SendKey} {a : Action} {trace : List Action}
    (h : carries key a = false) : enqueuedUnder key (a :: trace) = enqueuedUnder key trace := by
  simp [enqueuedUnder, h]

/-- The record of an earlier send under a key. -/
def Queue.recordOf (queue : Queue) (key : SendKey) : Option MatrixToDeviceTransaction :=
  queue.previous key.deviceId key.eventType key.transactionId

/-- A parsed request keeps the type and the transaction id it came under. -/
theorem parse_keeps {eventType transactionId : JsString} {value : Json}
    {request : MatrixToDeviceRequest}
    (h : parseMatrixToDeviceRequest eventType transactionId value = .ok request) :
    request.eventType = eventType ∧ request.transactionId = transactionId := by
  unfold parseMatrixToDeviceRequest at h
  obtain ⟨_, htype, h⟩ := bind_eq_ok.mp h
  obtain ⟨_, -, h⟩ := bind_eq_ok.mp h
  obtain ⟨_, -, h⟩ := bind_eq_ok.mp h
  obtain ⟨_, -, h⟩ := bind_eq_ok.mp h
  obtain ⟨_, -, h⟩ := bind_eq_ok.mp h
  obtain ⟨_, -, h⟩ := bind_eq_ok.mp h
  obtain ⟨_, -, h⟩ := bind_eq_ok.mp h
  obtain ⟨_, -, h⟩ := bind_eq_ok.mp h
  cases h
  simp only [require_eq_ok, beq_iff_eq] at htype
  exact ⟨htype.symm, rfl⟩

/-- A request has the key of its call. -/
theorem SendRequest.key {crypto : Crypto} {call : SendCall} {deviceId : Uuid}
    {request : MatrixToDeviceRequest} {hash : JsString}
    (h : SendRequest crypto call deviceId request hash) :
    call.key = some ⟨deviceId, request.eventType, request.transactionId⟩ := by
  obtain ⟨htype, hid⟩ := parse_keeps h.parsed
  rw [SendCall.key, h.device, htype, hid]
  rfl

/-! ## The records of a run -/

/-- What a send that succeeds does to the queue: nothing, where its record
was there, or a record and an event for every target. -/
inductive SendEffect (crypto : Crypto) (db : Db) (call : SendCall) (deviceId : Uuid)
    (request : MatrixToDeviceRequest) (hash : JsString) (db' : Db) :
    List MatrixToDeviceEvent → Prop
  | repeated : SendRepeats db deviceId request hash → db' = db →
      SendEffect crypto db call deviceId request hash db' []
  | queued {targets : List ResolvedTarget} {new : List MatrixToDeviceEvent} :
      SendQueues db call deviceId request targets →
      db' = { db with queue := db.queue.afterSend call deviceId request hash targets } →
      Enqueues call.rowId call.now targets
        (db.queue.record
          ⟨call.rowId, deviceId, request.transactionId, request.eventType, hash, call.now⟩)
        db'.queue new →
      SendEffect crypto db call deviceId request hash db' new

/-- **What a send did**, and when. -/
theorem ServiceStep.sent {w w' : World} {call : SendCall} {new : List MatrixToDeviceEvent}
    (h : ServiceStep env w (.sent call new) w') :
    call.now ≤ w.db.clock ∧ ∃ deviceId request hash,
      SendRequest env.crypto call deviceId request hash ∧
        SendEffect env.crypto w.db call deviceId request hash w'.db new := by
  cases h with
  | send hnow helig hfresh hsend hnew =>
    obtain ⟨deviceId, request, hash, hcall, ⟨hrepeats, rfl⟩ | ⟨targets, hqueues, rfl⟩⟩ :=
      send_cases hsend
    · have : new = [] := by simpa using hnew
      subst this
      exact ⟨hnow, deviceId, request, hash, hcall, .repeated hrepeats rfl⟩
    · obtain ⟨added, hadded⟩ := enqueues_afterSend w.db.queue call deviceId request hash targets
      have : added = new := List.append_cancel_left (hadded.events.symm.trans hnew)
      subst this
      exact ⟨hnow, deviceId, request, hash, hcall, .queued hqueues rfl hadded⟩

/-- Every step but a send leaves the records alone. -/
theorem ServiceStep.transactions {w w' : World} {a : Action} (h : ServiceStep env w a w')
    (hsent : ∀ call new, a ≠ .sent call new) :
    w'.db.queue.transactions = w.db.queue.transactions := by
  cases h with
  | send => exact absurd rfl (hsent _ _)
  | sync hcall hid hnames hsync =>
    obtain ⟨latest, selected, hsynced⟩ := sync_eq_ok hsync
    rw [hsynced.after]
    have hkind := hsynced.kind
    clear hsynced
    cases hkind <;> rfl
  | upload hnodup hfresh hupload =>
    obtain ⟨keys, rfl⟩ := uploadKeys_queue hupload
    rfl
  | claim hnow helig hfresh hclaim =>
    obtain ⟨keys, rfl⟩ := KeyClaim.run_queue hclaim
    rfl
  | sendFailed | syncBegin | syncFailed | uploadFailed | claimFailed | openCursor | registerList
  | publish | changeAccounts | purgeEvents | purgeBatches | tick => rfl

/-- A record depends on the transactions only. -/
theorem recordOf_congr {queue queue' : Queue} (h : queue'.transactions = queue.transactions)
    (key : SendKey) : queue'.recordOf key = queue.recordOf key := by
  simp only [Queue.recordOf, Queue.previous, h]

section Append

variable {queue queue' : Queue} {row previous : MatrixToDeviceTransaction} {key : SendKey}

/-- A record stays the record of its key. -/
theorem recordOf_append_of_some (h : queue'.transactions = queue.transactions ++ [row])
    (hprevious : queue.recordOf key = some previous) : queue'.recordOf key = some previous := by
  simp only [Queue.recordOf, Queue.previous] at hprevious ⊢
  rw [h, List.find?_append, hprevious]
  rfl

/-- A new record is the record of its key, where there was none. -/
theorem recordOf_append_self (h : queue'.transactions = queue.transactions ++ [row])
    (hnone : queue.recordOf key = none)
    (hkey : key = ⟨row.senderDeviceId, row.eventType, row.transactionId⟩) :
    queue'.recordOf key = some row := by
  subst hkey
  simp only [Queue.recordOf, Queue.previous] at hnone ⊢
  rw [h, List.find?_append, hnone]
  simp

end Append

/-- **What the records say of a run.** Under a key without record nothing was
queued; under any key no device got two events; and every send that
succeeded finds its own digest on record. -/
structure OnceInv (crypto : Crypto) (trace : List Action) (w : World) : Prop where
  unrecorded : ∀ key, w.db.queue.recordOf key = none → enqueuedUnder key trace = []
  once : ∀ key,
    ((enqueuedUnder key trace).map MatrixToDeviceEvent.recipientDeviceId).Nodup
  recorded : ∀ call new, Action.sent call new ∈ trace → ∀ deviceId request hash,
    SendRequest crypto call deviceId request hash → SendRepeats w.db deviceId request hash

/-- The invariant before the first call. -/
theorem OnceInv.init {crypto : Crypto} {w : World} : OnceInv crypto [] w where
  unrecorded := by simp [enqueuedUnder]
  once := by simp [enqueuedUnder]
  recorded := by simp

/-- A send has one request and one digest. -/
theorem SendRequest.unique {crypto : Crypto} {call : SendCall} {deviceId deviceId' : Uuid}
    {request request' : MatrixToDeviceRequest} {hash hash' : JsString}
    (h : SendRequest crypto call deviceId request hash)
    (h' : SendRequest crypto call deviceId' request' hash') :
    deviceId = deviceId' ∧ request = request' ∧ hash = hash' := by
  have hdevice : deviceId = deviceId' := Option.some.inj (h.device.symm.trans h'.device)
  have hrequest : request = request' := Except.ok.inj (h.parsed.symm.trans h'.parsed)
  subst hrequest
  exact ⟨hdevice, rfl, Except.ok.inj (h.hash.symm.trans h'.hash)⟩

/-- A step that is no send keeps the records and adds no event under any key. -/
theorem OnceInv.of_not_sent {trace : List Action} {w w' : World} {a : Action}
    (hinv : OnceInv env.crypto trace w) (h : ServiceStep env w a w')
    (hsent : ∀ call new, a ≠ .sent call new) : OnceInv env.crypto (a :: trace) w' := by
  have hrecord := recordOf_congr (h.transactions hsent)
  have hnot : ∀ key, carries key a = false := by
    intro key
    cases a with
    | sent call new => exact absurd rfl (hsent call new)
    | _ => rfl
  refine ⟨?_, ?_, ?_⟩
  · intro key hnone
    rw [enqueuedUnder_cons_of_not (hnot key)]
    exact hinv.unrecorded key (by rw [← hrecord, hnone])
  · intro key
    rw [enqueuedUnder_cons_of_not (hnot key)]
    exact hinv.once key
  · intro call new hmem deviceId request hash hcall
    rcases List.mem_cons.mp hmem with heq | hold
    · exact absurd heq.symm (hsent call new)
    · obtain ⟨previous, hprevious, hsame⟩ := hinv.recorded call new hold deviceId request hash hcall
      exact ⟨previous, (hrecord ⟨_, _, _⟩).trans hprevious, hsame⟩

/-- The invariant through a send. -/
theorem OnceInv.of_sent {trace : List Action} {w w' : World} {call : SendCall}
    {new : List MatrixToDeviceEvent} (hinv : OnceInv env.crypto trace w)
    (h : ServiceStep env w (.sent call new) w') :
    OnceInv env.crypto (.sent call new :: trace) w' := by
  obtain ⟨-, deviceId, request, hash, hcall, heffect⟩ := h.sent
  have hkey := hcall.key
  cases heffect with
  | repeated hrepeats hdb =>
    have hcons : ∀ key, enqueuedUnder key (.sent call [] :: trace) = enqueuedUnder key trace := by
      intro key
      cases hcarries : carries key (.sent call []) with
      | true => rw [enqueuedUnder_cons_of_carries hcarries]; simp [queuedBy]
      | false => exact enqueuedUnder_cons_of_not hcarries
    refine ⟨?_, ?_, ?_⟩
    · intro key hnone
      rw [hcons]
      exact hinv.unrecorded key (by rwa [hdb] at hnone)
    · intro key
      rw [hcons]
      exact hinv.once key
    · intro other new hmem deviceId' request' hash' hother
      rw [hdb]
      rcases List.mem_cons.mp hmem with heq | hold
      · cases heq
        obtain ⟨rfl, rfl, rfl⟩ := hcall.unique hother
        exact hrepeats
      · exact hinv.recorded other new hold deviceId' request' hash' hother
  | @queued targets new hqueues hdb henqueues =>
    have htransactions := henqueues.transactions
    rw [Queue.record] at htransactions
    have hunrecorded : w.db.queue.recordOf ⟨deviceId, request.eventType, request.transactionId⟩ =
      none := hqueues.previous
    have hfirst := hinv.unrecorded _ hunrecorded
    have hkept : ∀ key previous, w.db.queue.recordOf key = some previous →
        w'.db.queue.recordOf key = some previous := fun key previous =>
      recordOf_append_of_some htransactions
    have hnew := recordOf_append_self htransactions hunrecorded rfl
    obtain ⟨senderKey, hresolved⟩ := hqueues.resolved
    have hdistinct : (new.map MatrixToDeviceEvent.recipientDeviceId).Nodup := by
      rw [henqueues.recipients]
      exact (resolveTargets_eq_ok hresolved).2
    refine ⟨?_, ?_, ?_⟩
    · intro key hnone
      have hne : carries key (.sent call new) = false := by
        rw [carries, hkey, beq_eq_false_iff_ne]
        intro heq
        cases heq
        rw [hnew] at hnone
        cases hnone
      rw [enqueuedUnder_cons_of_not hne]
      refine hinv.unrecorded key ?_
      cases hbefore : w.db.queue.recordOf key with
      | none => rfl
      | some previous =>
        rw [hkept key previous hbefore] at hnone
        cases hnone
    · intro key
      cases hcarries : carries key (.sent call new) with
      | false =>
        rw [enqueuedUnder_cons_of_not hcarries]
        exact hinv.once key
      | true =>
        -- the first send under its key
        rw [carries, hkey, beq_iff_eq] at hcarries
        cases hcarries
        rw [enqueuedUnder_cons_of_carries (by simp [carries, hkey]), hfirst]
        simpa [queuedBy] using hdistinct
    · intro other added hmem deviceId' request' hash' hother
      rcases List.mem_cons.mp hmem with heq | hold
      · cases heq
        obtain ⟨rfl, rfl, rfl⟩ := hcall.unique hother
        exact ⟨_, hnew, rfl⟩
      · obtain ⟨previous, hprevious, hsame⟩ :=
          hinv.recorded other added hold deviceId' request' hash' hother
        exact ⟨previous, hkept ⟨_, _, _⟩ previous hprevious, hsame⟩

/-- **The records of every run.** -/
theorem onceInv {trace : List Action} {w : World} (h : (service env).Run trace w) :
    OnceInv env.crypto trace w := by
  refine h.invariant (fun _ _ => OnceInv.init) fun trace w a w' _ hinv hstep => ?_
  cases a with
  | sent call new => exact hinv.of_sent hstep
  | _ => exact hinv.of_not_sent hstep (by simp)

/-! ## The limit of a queue -/

/-- No device has more waiting events than the limit. -/
def WithinLimit (w : World) : Prop :=
  ∀ deviceId, (w.db.queue.pending deviceId w.db.clock).length ≤ maxPendingToDeviceEventsPerDevice

/-- Less is pending later. -/
theorem length_pending_le {queue queue' : Queue} {now now' : ℕ} (deviceId : Uuid)
    (hevents : queue'.events.Sublist queue.events) (hnow : now ≤ now') :
    (queue'.pending deviceId now').length ≤ (queue.pending deviceId now).length := by
  have hsub : (queue'.pending deviceId now').Sublist (queue.pending deviceId now') :=
    hevents.filter _
  refine hsub.length_le.trans (List.Sublist.length_le ?_)
  refine List.monotone_filter_right _ fun event hevent => ?_
  simp only [Bool.and_eq_true, decide_eq_true_eq] at hevent ⊢
  exact ⟨hevent.1, by omega⟩

/-- Without a send the queue only shrinks. -/
theorem LogChange.events_sublist {queue queue' : Queue} (h : LogChange queue queue' []) :
    queue'.events.Sublist queue.events := by
  cases h with
  | same _ hevents => rw [hevents]
  | queued _ hevents hqueued => rw [hqueued.events, hevents, List.append_nil]
  | dropped _ hevents =>
    obtain ⟨keep, hkeep⟩ := hevents
    rw [hkeep]
    exact List.filter_sublist
  | opened _ _ hevents => rw [hevents]

/-- Among events of different devices at most one is a given device's. -/
theorem length_eventsFor_le_one {events : List MatrixToDeviceEvent} (deviceId : Uuid)
    (h : (events.map MatrixToDeviceEvent.recipientDeviceId).Nodup) :
    (eventsFor deviceId events).length ≤ 1 := by
  have hcount : (eventsFor deviceId events).length =
      (events.map MatrixToDeviceEvent.recipientDeviceId).count deviceId := by
    rw [eventsFor, List.count, List.countP_map, List.countP_eq_length_filter]
    rfl
  rw [hcount]
  exact List.nodup_iff_count_le_one.mp h deviceId

/-- Every step keeps the queues within their limit. -/
theorem WithinLimit.step {w w' : World} {a : Action} (hinv : WithinLimit w)
    (h : ServiceStep env w a w') : WithinLimit w' := by
  intro deviceId
  have hclock := h.grows.clock
  by_cases hqueued : queuedBy a = []
  · have hchange := h.logChange
    rw [hqueued] at hchange
    exact (length_pending_le deviceId hchange.events_sublist hclock).trans (hinv deviceId)
  · cases a with
    | sent call new =>
      obtain ⟨hnow, sender, request, hash, hcall, heffect⟩ := h.sent
      cases heffect with
      | repeated => exact absurd rfl hqueued
      | @queued targets new hqueues hdb henqueues =>
        obtain ⟨senderKey, hresolved⟩ := hqueues.resolved
        have hlocked := lockRecipientCursors_eq_ok hqueues.locked
        have hsplit : w'.db.queue.pending deviceId w'.db.clock =
            w.db.queue.pending deviceId w'.db.clock ++
              new.filter fun event =>
                event.recipientDeviceId == deviceId && w'.db.clock < event.expiresAt := by
          rw [Queue.pending, henqueues.events, List.filter_append]
          rfl
        have hadded : (new.filter fun event =>
            event.recipientDeviceId == deviceId && w'.db.clock < event.expiresAt).Sublist
              (eventsFor deviceId new) :=
          List.monotone_filter_right _ fun event hevent => by
            rw [Bool.and_eq_true] at hevent
            exact hevent.1
        have hone : (eventsFor deviceId new).length ≤ 1 := by
          refine length_eventsFor_le_one deviceId ?_
          rw [henqueues.recipients]
          exact (resolveTargets_eq_ok hresolved).2
        have hold := length_pending_le deviceId (List.Sublist.refl w.db.queue.events) hclock
        rw [hsplit, List.length_append]
        have haddedLength := hadded.length_le
        cases hfor : eventsFor deviceId new with
        | nil =>
          have := hinv deviceId
          rw [hfor, List.length_nil] at haddedLength
          omega
        | cons event rest =>
          -- the device is a target, so its queue had room when the send looked
          have hmem : event ∈ eventsFor deviceId new := by rw [hfor]; exact List.mem_cons_self
          obtain ⟨hmemNew, hrecipient⟩ := mem_eventsFor.mp hmem
          have htarget : deviceId ∈ targets.map ResolvedTarget.deviceId := by
            rw [← henqueues.recipients, ← hrecipient]
            exact List.mem_map_of_mem hmemNew
          obtain ⟨target, hmemTarget, rfl⟩ := List.mem_map.mp htarget
          have hroom := (hlocked target hmemTarget).2
          have hthen := length_pending_le target.deviceId
            (List.Sublist.refl w.db.queue.events) (hnow.trans hclock)
          omega
    | _ => exact absurd rfl hqueued

/-- **No device has more pending than its limit.** -/
theorem withinLimit {trace : List Action} {w : World} (h : (service env).Run trace w) :
    WithinLimit w :=
  h.stateInvariant (fun w hinit deviceId => by simp [Queue.pending, hinit.queue])
    fun _ _ _ hinv hstep => hinv.step hstep

/-! ## Repetitions -/

/-- A call carries a request. -/
def SendCall.Parses (call : SendCall) (request : MatrixToDeviceRequest) : Prop :=
  parseMatrixToDeviceRequest call.rawEventType call.rawTransactionId call.value = .ok request

/-- A call without a digest fails. -/
theorem send_of_hash_error {crypto : Crypto} {call : SendCall} {db : Db} {deviceId : Uuid}
    {request : MatrixToDeviceRequest} {code : ErrorCode}
    (hdevice : call.principal.deviceId = some deviceId) (hparse : call.Parses request)
    (hhash : hashMatrixCanonicalJson crypto (matrixToDeviceHashInput request) = .error code) :
    send crypto call db = .error (.internal code) := by
  have hrequest : requestSha256 crypto request = .error (.internal code) := by
    rw [requestSha256, hhash]
  unfold send
  rw [requireBoundDevice, orThrow_eq_ok.mpr hdevice]
  simp only [bind, Except.bind, parseRequest_eq_ok.mpr hparse, hrequest]

/-- What the repetition of a recorded send finds. -/
theorem OnceInv.repetition {trace : List Action} {w : World} (hinv : OnceInv env.crypto trace w)
    (hrun : (service env).Run trace w) {first retry : SendCall} {new : List MatrixToDeviceEvent}
    (hfirst : Action.sent first new ∈ trace) (hkey : retry.key = first.key)
    {a b : MatrixToDeviceRequest} (ha : first.Parses a) (hb : retry.Parses b) :
    ∃ deviceId hash, retry.principal.deviceId = some deviceId ∧
      hashMatrixCanonicalJson env.crypto (matrixToDeviceHashInput a) = .ok hash ∧
      SendRepeats w.db deviceId b hash := by
  obtain ⟨later, earlier, t, t', rfl, -, hstep, -⟩ := hrun.of_mem hfirst
  obtain ⟨-, deviceId, request, hash, hcall, -⟩ := hstep.sent
  obtain rfl : request = a := Except.ok.inj (hcall.parsed.symm.trans ha)
  obtain ⟨previous, hprevious, hsame⟩ := hinv.recorded first new hfirst deviceId request hash hcall
  have hretryKey := hkey.trans hcall.key
  obtain ⟨htype, hid⟩ := parse_keeps hb
  rw [SendCall.key, Option.map_eq_some_iff] at hretryKey
  obtain ⟨device, hdevice, heq⟩ := hretryKey
  obtain ⟨rfl, hsameType, hsameId⟩ := SendKey.mk.inj heq
  exact ⟨device, hash, hdevice, hcall.hash, previous,
    by rw [htype, hid, hsameType, hsameId, hprevious], hsame⟩

/-! ## The result -/

/-- **What a run of the service does with sends.** -/
structure SendsOnce (env : Deployment) (trace : List Action) (w : World) : Prop where
  /-- Under one key no device is queued two events. -/
  once : ∀ key,
    ((enqueuedUnder key trace).map MatrixToDeviceEvent.recipientDeviceId).Nodup
  /-- A repetition with the same content succeeds and changes nothing. -/
  repeated : ∀ first new, Action.sent first new ∈ trace → ∀ retry a b, retry.key = first.key →
    first.Parses a → retry.Parses b → SameContent a b → send env.crypto retry w.db = .ok w.db
  /-- A repetition with other content is refused. -/
  refused : ∀ first new, Action.sent first new ∈ trace → ∀ retry a b, retry.key = first.key →
    first.Parses a → retry.Parses b → ¬ SameContent a b →
    NoCollision env.crypto (matrixToDeviceHashInput a) (matrixToDeviceHashInput b) →
    ∃ error, send env.crypto retry w.db = .error error
  /-- A send that succeeds queues nothing, or one event for every target it resolved. -/
  allOrNone : ∀ call new w', ServiceStep env w (.sent call new) w' →
    (new = [] ∧ w'.db = w.db) ∨
      ∃ request senderKey targets, call.Parses request ∧
        resolveTargets w.db.accounts call.principal request senderKey call.eligibilityNow =
          .ok targets ∧
        targets.length = (requestedTargets request).length ∧
        new.map MatrixToDeviceEvent.recipientDeviceId = targets.map ResolvedTarget.deviceId ∧
        w'.db.queue.events = w.db.queue.events ++ new
  /-- A send that fails changes nothing. -/
  failed : ∀ call error w', ServiceStep env w (.sendFailed call error) w' → w' = w
  /-- The sequences a device was ever given are those up to its cursor, once each. -/
  counted : Counted w.db.queue.latestSequence (enqueued trace)
  /-- No queue exceeds its limit. -/
  bounded : WithinLimit w

/-- **Exactly once, for all targets or for none.** -/
theorem send_exactly_once {trace : List Action} {w : World} (h : (service env).Run trace w) :
    SendsOnce env trace w where
  once := (onceInv h).once
  repeated := by
    intro first new hfirst retry a b hkey ha hb hsame
    obtain ⟨deviceId, hash, hdevice, hhash, hrepeats⟩ :=
      (onceInv h).repetition h hfirst hkey ha hb
    exact send_of_repeats ⟨hdevice, hb, by rw [← hash_eq_of_canonicalize hsame, hhash]⟩ hrepeats
  refused := by
    intro first new hfirst retry a b hkey ha hb hdiff hcollision
    obtain ⟨deviceId, hash, hdevice, hhash, previous, hprevious, hrecord⟩ :=
      (onceInv h).repetition h hfirst hkey ha hb
    cases hretry : hashMatrixCanonicalJson env.crypto (matrixToDeviceHashInput b) with
    | error code => exact ⟨_, send_of_hash_error hdevice hb hretry⟩
    | ok hash' =>
      have hne : previous.requestSha256 ≠ hash' := by
        rintro rfl
        rw [← hrecord] at hhash
        exact hdiff (canonicalize_eq_of_hash hcollision hhash hretry)
      exact ⟨_, send_of_conflict ⟨hdevice, hb, hretry⟩ hprevious hne⟩
  allOrNone := by
    intro call new w' hstep
    obtain ⟨-, deviceId, request, hash, hcall, heffect⟩ := hstep.sent
    cases heffect with
    | repeated _ hdb => exact .inl ⟨rfl, hdb⟩
    | @queued targets new hqueues hdb henqueues =>
      obtain ⟨senderKey, hresolved⟩ := hqueues.resolved
      exact .inr ⟨request, senderKey, targets, hcall.parsed, hresolved,
        (resolveTargets_eq_ok hresolved).1, henqueues.recipients, henqueues.events⟩
  failed := by
    intro call error w' hstep
    cases hstep
    rfl
  counted := (logInv h).counted
  bounded := withinLimit h

/-- The cashier's message: it is queued, and its repetitions change nothing. -/
theorem send_exactly_once_message :
    ∃ trace w, enqueued trace ≠ [] ∧ SendsOnce Sample.deployment trace w := by
  obtain ⟨trace, w, hrun, hqueued⟩ := Sample.exists_run Sample.sendScript
    (fun trace _ => !(enqueued trace).isEmpty) (by decide +kernel)
  exact ⟨trace, w, by simpa using hqueued, send_exactly_once hrun⟩

end SinoChat
