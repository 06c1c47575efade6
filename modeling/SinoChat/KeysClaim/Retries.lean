import SinoChat.KeysClaim.Script

/-!
# Attempts at a claim, one after the other

Whatever is lost, an attempt that completes has an answer of the service to every
sub-request (`attempts`), and an answer is what the record of the claim answers
from then on. So the merged response has each requested user once for whom the
record has a key (`merged_covers`), and since a device has one result of a record
and is of one user, no device has two results of a request (`results_apart`).

A user without a key is not in the response. The directory leaves out results
without a key, and it answers a repetition only while the caller may ask again.
-/

namespace SinoChat

open Js

namespace Transport

namespace MatrixTransportCoordinator

variable {σ : Type} {C : MatrixTransportCoordinator σ} {env : Deployment} {B : Backdrop σ}
  {deviceId : Uuid} {requests : KeysClaimRequest → Prop}

/-! ## What holds -/

/-- The target of a sub-request is authorised for a call, through the conversation of its record. -/
structure Authorised (env : Deployment) (deviceId : Uuid) (w : World) (call : ClaimCall)
    (user : JsString) : Prop where
  role : call.principal.role ≠ .admin
  device : call.principal.deviceId = some deviceId
  session : w.db.accounts.currentUserSession call.principal deviceId call.now = true
  scope : ∃ scope, relatedScope env.matrixServerName w.db.accounts call.principal deviceId user
      call.eligibilityNow = .ok scope ∧
    ∀ record, w.db.keys.previousClaim deviceId call.rawRequestId = some record →
      record.conversationId = scope.conversationId

/-- A claim is recorded, with a key for some device. -/
def HasKey (w : World) (deviceId : Uuid) (requestId : JsString) : Prop :=
  ∃ record, w.db.keys.previousClaim deviceId requestId = some record ∧
    ∃ result ∈ w.db.keys.claimResults, result.claimRequestId = record.id ∧
      (result.oneTimeKeyId.isSome = true ∨ result.fallbackKeyId.isSome = true)

/-- **A merged response covers a request**: it has each requested user for whom a key is
recorded, once and with the keys recorded for it, and nobody else. -/
structure Covers (C : MatrixTransportCoordinator σ) (deviceId : Uuid) (request : KeysClaimRequest)
    (w : World) (merged : ClaimResponse) : Prop where
  failures : merged.failures = []
  once : (Json.keys merged.oneTimeKeys).Nodup
  users : ∀ user, user ∈ Json.keys merged.oneTimeKeys ↔
    user ∈ request.users ∧ HasKey w deviceId (C.subRequestId request user)
  keys : ∀ user devices, (user, devices) ∈ merged.oneTimeKeys →
    claimedObject (recordedAnswer w deviceId (C.subRequestId request user)) = [(user, devices)]

/-- A result of a sub-request for a user. -/
def IsResultOf (C : MatrixTransportCoordinator σ) (deviceId : Uuid) (request : KeysClaimRequest)
    (w : World) (user : JsString) (result : MatrixKeyClaimResult) : Prop :=
  ∃ record ∈ w.db.keys.claimRequests, record.id = result.claimRequestId ∧
    record.name = (deviceId, C.subRequestId request user)

/-- **Claims are retried without harm.** -/
structure RetrySafe (env : Deployment) (C : MatrixTransportCoordinator σ) (B : Backdrop σ)
    (deviceId : Uuid) (requests : KeysClaimRequest → Prop) (trace : List ClaimEvent) (s : σ) :
    Prop where
  /-- The service takes the id of a sub-request. -/
  accepted : ∀ request, requests request → ∀ user ∈ request.users,
    parseMatrixClaimRequestId (C.subRequestId request user) = .ok (C.subRequestId request user)
  /-- The sub-requests have different ids. -/
  apart : ∀ a b, requests a → requests b → ∀ user ∈ a.users, ∀ user' ∈ b.users,
    C.subRequestId a user = C.subRequestId b user' → a = b ∧ user = user'
  /-- A repetition that is answered has the keys of the first answer and takes none. -/
  replayed : ∀ request, requests request → ∀ user ∈ request.users, ∀ claim keys,
    Action.claimed claim keys ∈ B.log s →
    claim.key = some (deviceId, C.subRequestId request user) →
    ∀ again : KeyClaim, again.key = claim.key → ∀ db' keys',
      again.run env (B.world s).db = .ok (db', keys') → db' = (B.world s).db ∧ keys' = keys
  /-- It is answered while the target is authorised through the same conversation. -/
  answered : ∀ request, requests request → ∀ entry ∈ request.entries, ∀ claim keys,
    Action.claimed claim keys ∈ B.log s →
    claim.key = some (deviceId, C.subRequestId request entry.1) →
    ∀ call : ClaimCall, call.rawRequestId = C.subRequestId request entry.1 →
      call.value = .obj (request.subRequestBody entry) →
      Authorised env deviceId (B.world s) call entry.1 →
      (KeyClaim.related call).run env (B.world s).db = .ok ((B.world s).db, keys)
  /-- The merged response of an attempt that completed covers the request. -/
  covered : ∀ request, requests request → ∀ merged, .attempted request (.ok merged) ∈ trace →
    Covers C deviceId request (B.world s) merged
  /-- No device has two results of a request. -/
  consumed : ∀ request, requests request →
    (B.world s).db.keys.claimResults.Pairwise fun first second =>
      ∀ user ∈ request.users, ∀ user' ∈ request.users,
        IsResultOf C deviceId request (B.world s) user first →
        IsResultOf C deviceId request (B.world s) user' second →
        first.recipientDeviceId ≠ second.recipientDeviceId
  /-- The results of a sub-request are of devices of its user. -/
  recipients : ∀ request, requests request → ∀ user ∈ request.users,
    ∀ result ∈ (B.world s).db.keys.claimResults,
      IsResultOf C deviceId request (B.world s) user result →
      ∃ row ∈ (B.world s).db.accounts.deviceKeys, row.deviceId = result.recipientDeviceId ∧
        row.matrixUserId = user

/-! ## Runs -/

theorem goes_of_step (hfrom : C.ClaimsFrom env B deviceId) {s t : σ} {event : ClaimEvent}
    (h : (C.claiming env B).step s event t) : ∃ actions, B.Goes env s actions t := by
  cases event with
  | elsewhere => exact h
  | attempted request outcome => exact sendKeysClaim_goes hfrom _ _ _ _ _ h

/-- **The service is in a reachable state.** -/
theorem service_run (hfrom : C.ClaimsFrom env B deviceId) {trace : List ClaimEvent} {s : σ}
    (h : (C.claiming env B).Run trace s) : (service env).Run (B.log s) (B.world s) := by
  refine h.stateInvariant (I := fun s => (service env).Run (B.log s) (B.world s))
    (fun _ hinit => hinit) ?_
  intro s event t hrun hstep
  obtain ⟨actions, hsteps, hlog⟩ := goes_of_step hfrom hstep
  rw [hlog]
  exact hrun.append hsteps

/-- The answers an attempt has merged. -/
def Merges (C : MatrixTransportCoordinator σ) (deviceId : Uuid) (request : KeysClaimRequest)
    (log : List Action) (merged : ClaimResponse) : Prop :=
  ∃ answers : List ClaimedKeys,
    List.Forall₂ (fun entry keys => C.Answers deviceId request log entry keys ∧
      ∀ user ∈ keys.map Prod.fst, user = entry.1) request.entries answers ∧
    merged.failures = [] ∧ merged.oneTimeKeys.Perm (assignable (answers.flatMap claimedObject))

theorem Merges.mono {request : KeysClaimRequest} {log log' : List Action} {merged : ClaimResponse}
    (hsub : log ⊆ log') (h : C.Merges deviceId request log merged) :
    C.Merges deviceId request log' merged := by
  obtain ⟨answers, hanswers, hrest⟩ := h
  exact ⟨answers, hanswers.imp fun _ _ h => ⟨h.1.mono hsub, h.2⟩, hrest⟩

/-- An attempt that completes has merged an answer for every user. -/
theorem sendKeysClaim_merges (hfrom : C.ClaimsFrom env B deviceId) {request : KeysClaimRequest}
    {merged : ClaimResponse} {s t : σ}
    (h : C.sendKeysClaim request.id request.body s = (.ok merged, t)) :
    C.Merges deviceId request (B.log t) merged := by
  unfold sendKeysClaim at h
  obtain ⟨entries, u, hentries, hloop⟩ := Effect.bind_eq_ok.mp h
  obtain ⟨hrequested, rfl⟩ := check_eq_ok.mp hentries
  have hread : entries = request.entries := by
    unfold requestedEntries at hrequested
    obtain ⟨_, -, hrequested⟩ := bind_eq_ok.mp hrequested
    obtain ⟨read, hread, hrequested⟩ := bind_eq_ok.mp hrequested
    obtain ⟨_, -, hrequested⟩ := bind_eq_ok.mp hrequested
    obtain rfl := Except.ok.inj hrequested
    rw [KeysClaimRequest.entries, claimEntries, orThrow_eq_ok.mp hread, Option.getD_some]
  subst hread
  obtain ⟨actions, hgoes, answers, hanswers, hfailures, hperm⟩ := sendClaimsOf_eq_ok hfrom hloop
  refine Merges.mono ?_ ⟨answers, hanswers, hfailures, hperm⟩
  rw [hgoes.2]
  exact List.subset_append_left _ _

/-- **The attempts of a run** that completed have merged answers of the service. -/
theorem attempts (hfrom : C.ClaimsFrom env B deviceId) {trace : List ClaimEvent} {s : σ}
    (h : (C.claiming env B).Run trace s) {request : KeysClaimRequest} {merged : ClaimResponse}
    (hmem : .attempted request (.ok merged) ∈ trace) :
    C.Merges deviceId request (B.log s) merged := by
  obtain ⟨later, earlier, t, t', -, -, hstep, hsteps⟩ := h.of_mem hmem
  have hgrows : B.log t' ⊆ B.log s := by
    refine hsteps.rel (R := fun s t => B.log s ⊆ B.log t) (fun _ _ h => h)
      (fun _ _ _ h h' _ hin => h' (h hin)) ?_
    intro s event t hstep
    obtain ⟨actions, -, hlog⟩ := goes_of_step hfrom hstep
    rw [hlog]
    exact List.subset_append_right _ _
  exact (sendKeysClaim_merges hfrom hstep).mono hgrows

/-! ## The merged response -/

/-- A claim is answered with a key where its record has one. -/
theorem recordedAnswer_ne_nil {w : World} (hinv : DirectoryInv w) {requestId : JsString} :
    recordedAnswer w deviceId requestId ≠ [] ↔ HasKey w deviceId requestId := by
  unfold recordedAnswer HasKey
  cases hrecord : w.db.keys.previousClaim deviceId requestId with
  | none => simp
  | some record =>
    rw [ne_eq, buildClaimResponse_eq_nil]
    constructor
    · intro h
      push Not at h
      obtain ⟨result, hresult, hid, hkey⟩ := h
      refine ⟨record, rfl, result, hresult, hid, ?_⟩
      rw [ne_eq, claimedKey_eq_none hinv hresult, not_and_or] at hkey
      simpa [← Option.isSome_iff_ne_none] using hkey
    · rintro ⟨_, heq, result, hresult, hid, hkey⟩ hall
      obtain rfl := Option.some.inj heq
      obtain ⟨honeTime, hfallback⟩ :=
        (claimedKey_eq_none hinv hresult).mp (hall result hresult hid)
      simp [honeTime, hfallback] at hkey

/-- What is recorded of a sub-request names its user at most, and once. -/
theorem claimedObject_recordedAnswer {w : World} {requestId user : JsString}
    (h : ∀ name ∈ (recordedAnswer w deviceId requestId).map Prod.fst, name = user) :
    recordedAnswer w deviceId requestId = [] ∨
      ∃ devices, claimedObject (recordedAnswer w deviceId requestId) = [(user, devices)] := by
  have hnodup : ((recordedAnswer w deviceId requestId).map Prod.fst).Nodup := by
    unfold recordedAnswer
    split
    · exact nodup_buildClaimResponse _ _ _
    · exact List.nodup_nil
  generalize recordedAnswer w deviceId requestId = keys at h hnodup ⊢
  cases keys with
  | nil => exact .inl rfl
  | cons first rest =>
    cases rest with
    | nil => exact .inr ⟨_, by rw [claimedObject, List.map_singleton, h first.1 (by simp)]⟩
    | cons second rest =>
      have hsame : first.1 = second.1 := (h _ (by simp)).trans (h _ (by simp)).symm
      simp [hsame] at hnodup

/-- Lists of which each has the name of its entry at most. -/
theorem keys_flatMap {entries : JsonObject} {f : JsString × Json → JsonObject}
    (h : ∀ entry ∈ entries, f entry = [] ∨ ∃ value, f entry = [(entry.1, value)]) :
    (Json.keys (entries.flatMap f)).Sublist (Json.keys entries) := by
  induction entries with
  | nil => exact .slnil
  | cons entry rest ih =>
    have hrest := ih fun e he => h e (List.mem_cons_of_mem _ he)
    rw [List.flatMap_cons, Json.keys, List.map_append]
    rcases h entry List.mem_cons_self with hnil | ⟨value, hone⟩
    · rw [hnil]
      exact hrest.cons _
    · rw [hone]
      exact hrest.cons_cons _

theorem mem_flatMap_single {entries : JsonObject} {f : JsString × Json → JsonObject}
    (h : ∀ entry ∈ entries, f entry = [] ∨ ∃ value, f entry = [(entry.1, value)])
    {key : JsString} {value : Json} : (key, value) ∈ entries.flatMap f ↔
      ∃ entry ∈ entries, entry.1 = key ∧ f entry = [(key, value)] := by
  rw [List.mem_flatMap]
  constructor
  · rintro ⟨entry, hentry, hin⟩
    rcases h entry hentry with hnil | ⟨value', hone⟩
    · rw [hnil] at hin
      cases hin
    · rw [hone] at hin
      obtain ⟨rfl, rfl⟩ := Prod.mk.inj (List.mem_singleton.mp hin)
      exact ⟨entry, hentry, rfl, hone⟩
  · rintro ⟨entry, hentry, -, hone⟩
    exact ⟨entry, hentry, by rw [hone]; exact List.mem_singleton_self _⟩

/-- **The service answers a sub-request with what is recorded**, and for a user id only. -/
theorem Answers.recorded {log : List Action} {w : World} (hrun : (service env).Run log w)
    {request : KeysClaimRequest} {entry : JsString × Json} {keys : ClaimedKeys}
    (h : C.Answers deviceId request log entry keys) :
    keys = recordedAnswer w deviceId (C.subRequestId request entry.1) ∧
      isMatrixUserId entry.1 = true := by
  obtain ⟨call, hmem, hdevice, hid, hvalue⟩ := h
  obtain ⟨_, parsed, _, hanswered⟩ := answered_of_mem hrun hmem
  refine ⟨?_, ?_⟩
  · have heq := recordedAnswer_of_mem hrun hmem hdevice
    rwa [show (KeyClaim.related call).call.rawRequestId = _ from hid] at heq
  · have hparses := hanswered.asks.names.2
    rw [KeyClaim.Parses, show (KeyClaim.related call).call.value = _ from hvalue] at hparses
    exact (parses_subRequestBody hparses).1

/-- The answers to all sub-requests. -/
theorem answers_recorded {log : List Action} {w : World} (hrun : (service env).Run log w)
    {request : KeysClaimRequest} {entries : JsonObject} {answers : List ClaimedKeys}
    (h : List.Forall₂ (fun entry keys => C.Answers deviceId request log entry keys ∧
      ∀ user ∈ keys.map Prod.fst, user = entry.1) entries answers) :
    answers = entries.map (fun entry =>
        recordedAnswer w deviceId (C.subRequestId request entry.1)) ∧
      ∀ entry ∈ entries, isMatrixUserId entry.1 = true ∧
        ∀ user ∈ (recordedAnswer w deviceId (C.subRequestId request entry.1)).map Prod.fst,
          user = entry.1 := by
  induction h with
  | nil => exact ⟨rfl, by simp⟩
  | cons hfirst _ ih =>
    obtain ⟨rfl, huser⟩ := hfirst.1.recorded hrun
    obtain ⟨hanswers, hrest⟩ := ih
    exact ⟨by rw [hanswers, List.map_cons], List.forall_mem_cons.mpr ⟨⟨huser, hfirst.2⟩, hrest⟩⟩

/-- **A merged response covers its request.** -/
theorem merged_covers {log : List Action} {w : World} (hrun : (service env).Run log w)
    {request : KeysClaimRequest} {merged : ClaimResponse}
    (h : C.Merges deviceId request log merged) : Covers C deviceId request w merged := by
  obtain ⟨answers, hanswers, hfailures, hperm⟩ := h
  obtain ⟨rfl, hentries⟩ := answers_recorded hrun hanswers
  have hone : ∀ entry ∈ request.entries,
      recordedAnswer w deviceId (C.subRequestId request entry.1) = [] ∨ ∃ devices,
        claimedObject (recordedAnswer w deviceId (C.subRequestId request entry.1)) =
          [(entry.1, devices)] := fun entry hentry =>
    claimedObject_recordedAnswer (hentries entry hentry).2
  have hlists : ∀ entry ∈ request.entries,
      claimedObject (recordedAnswer w deviceId (C.subRequestId request entry.1)) = [] ∨
        ∃ devices, claimedObject (recordedAnswer w deviceId (C.subRequestId request entry.1)) =
          [(entry.1, devices)] := fun entry hentry =>
    (hone entry hentry).imp_left fun hnil => by rw [hnil]; rfl
  -- every user is a user id, so every entry is a property of the merged object
  have hproto : isMatrixUserId (js "__proto__") = false := by decide
  rw [List.flatMap_map, assignable, List.filter_eq_self.mpr] at hperm
  · have hmem : ∀ user devices, (user, devices) ∈ merged.oneTimeKeys ↔
        ∃ entry ∈ request.entries, entry.1 = user ∧
          claimedObject (recordedAnswer w deviceId (C.subRequestId request entry.1)) =
            [(user, devices)] := fun user devices => by
      rw [hperm.mem_iff]
      exact mem_flatMap_single hlists
    refine ⟨hfailures, ?_, ?_, ?_⟩
    · rw [Json.keys, (hperm.map Prod.fst).nodup_iff]
      exact request.usersDistinct.sublist (keys_flatMap hlists)
    · intro user
      rw [← recordedAnswer_ne_nil (directoryInv hrun)]
      constructor
      · intro hin
        obtain ⟨⟨user, devices⟩, hpair, rfl⟩ := List.mem_map.mp hin
        obtain ⟨entry, hentry, rfl, hsingle⟩ := (hmem user devices).mp hpair
        refine ⟨List.mem_map.mpr ⟨entry, hentry, rfl⟩, fun hnil => ?_⟩
        rw [hnil] at hsingle
        cases hsingle
      · rintro ⟨huser, hkey⟩
        obtain ⟨entry, hentry, rfl⟩ := List.mem_map.mp huser
        obtain ⟨devices, hsingle⟩ := (hone entry hentry).resolve_left hkey
        exact List.mem_map.mpr
          ⟨(entry.1, devices), (hmem entry.1 devices).mpr ⟨entry, hentry, rfl, hsingle⟩, rfl⟩
    · intro user devices hpair
      obtain ⟨entry, -, rfl, hsingle⟩ := (hmem user devices).mp hpair
      exact hsingle
  · intro pair hpair
    obtain ⟨entry, hentry, hname, -⟩ := (mem_flatMap_single hlists).mp hpair
    rw [decide_eq_true_eq, ← hname]
    intro heq
    rw [← heq, (hentries entry hentry).1] at hproto
    cases hproto

/-! ## What is consumed -/

/-- A result of a sub-request is of a device of its user. -/
theorem result_user {log : List Action} {w : World} (hrun : (service env).Run log w)
    (honly : C.ClaimsOnly deviceId requests log) {request : KeysClaimRequest}
    (hrequest : requests request) {user : JsString} (huser : user ∈ request.users)
    {result : MatrixKeyClaimResult} (hresult : result ∈ w.db.keys.claimResults)
    (h : IsResultOf C deviceId request w user result) :
    ∃ row ∈ w.db.accounts.deviceKeys, row.deviceId = result.recipientDeviceId ∧
      row.matrixUserId = user := by
  obtain ⟨entry, hentry, rfl⟩ := List.mem_map.mp huser
  obtain ⟨record, hrecord, hid, hname⟩ := h
  obtain ⟨claim, keys, hmem, hkey, hrows⟩ := (recordsInv hrun).made record hrecord
  obtain ⟨row, hrow, hdevice, parsed, devices, hparses, hasked, -⟩ :=
    hrows result hresult hid.symm
  refine ⟨row, hrow, hdevice, ?_⟩
  rw [KeyClaim.Parses, honly.value hrequest hentry hmem (hname ▸ hkey)] at hparses
  obtain ⟨-, devices', heq⟩ := parses_subRequestBody hparses
  rw [heq, List.mem_singleton] at hasked
  exact (Prod.mk.inj hasked).1

/-- **No device has two results of a request.** -/
theorem results_apart {log : List Action} {w : World} (hrun : (service env).Run log w)
    (honly : C.ClaimsOnly deviceId requests log) {request : KeysClaimRequest}
    (hrequest : requests request) :
    w.db.keys.claimResults.Pairwise fun first second =>
      ∀ user ∈ request.users, ∀ user' ∈ request.users, IsResultOf C deviceId request w user first →
        IsResultOf C deviceId request w user' second →
        first.recipientDeviceId ≠ second.recipientDeviceId := by
  have hinv := recordsInv hrun
  refine hinv.once.imp_of_mem fun {first second} hfirst hsecond honce => ?_
  intro user huser user' huser' hof hof' hdevice
  obtain ⟨row, hrow, hrowDevice, rfl⟩ := result_user hrun honly hrequest huser hfirst hof
  obtain ⟨row', hrow', hrowDevice', rfl⟩ := result_user hrun honly hrequest huser' hsecond hof'
  -- the device is of one user, so both results are of one sub-request
  obtain rfl : row = row' :=
    List.inj_on_of_nodup_map w.db.accounts.deviceKeys.nodup (Table.mem_def.mp hrow)
      (Table.mem_def.mp hrow') (hrowDevice.trans (hdevice.trans hrowDevice'.symm))
  obtain ⟨record, hrecord, hid, hname⟩ := hof
  obtain ⟨record', hrecord', hid', hname'⟩ := hof'
  obtain rfl : record = record' :=
    List.inj_on_of_nodup_map hinv.names hrecord hrecord' (hname.trans hname'.symm)
  exact honce (hid.symm.trans hid') hdevice

/-! ## The answer to a repetition -/

/-- **A repetition is answered** while the target is authorised as before. -/
theorem repetition_answered {log : List Action} {w : World} (hrun : (service env).Run log w)
    {claim : KeyClaim} {keys : ClaimedKeys} (hmem : Action.claimed claim keys ∈ log)
    {request : KeysClaimRequest} {entry : JsString × Json} {call : ClaimCall}
    (hkey : claim.key = some (deviceId, call.rawRequestId))
    (hsame : claim.call.value = call.value)
    (hvalue : call.value = .obj (request.subRequestBody entry))
    (h : Authorised env deviceId w call entry.1) :
    (KeyClaim.related call).run env w.db = .ok (w.db, keys) := by
  obtain ⟨deviceId', parsed, previous, hanswered⟩ := answered_of_mem hrun hmem
  have hname := hanswered.asks.names.1
  rw [hkey, Option.some.injEq, Prod.mk.injEq] at hname
  obtain ⟨rfl, hid⟩ := hname
  have hid' : claim.call.rawRequestId = call.rawRequestId := by
    obtain ⟨_, -, hpair⟩ := Option.map_eq_some_iff.mp hkey
    exact (Prod.mk.inj hpair).2
  have hparses := hanswered.asks.parses
  rw [hid', hsame] at hparses
  have hcontent := hanswered.asks.names.2
  rw [KeyClaim.Parses, hsame, hvalue] at hcontent
  obtain ⟨-, devices, husers⟩ := parses_subRequestBody hcontent
  obtain ⟨scope, hscope, hconversation⟩ := h.scope
  have hprevious := hanswered.record
  rw [← hid] at hprevious
  have hdevice : requireDirectoryDevice call.principal = .ok deviceId := by
    refine bind_eq_ok.mpr ⟨(), ?_, orThrow_eq_ok.mpr h.device⟩
    exact require_eq_ok.mpr (by simpa using h.role)
  have hclaim : runClaim w.db deviceId scope parsed previous.requestSha256 (some deviceId)
      call.rowId call.now = .ok (w.db, keys) := by
    have hcheck : (previous.conversationId == scope.conversationId &&
        previous.requestSha256 == previous.requestSha256) = true := by
      simpa using hconversation previous hprevious
    rw [hid] at hprevious
    simp only [runClaim, hprevious]
    exact bind_eq_ok.mpr ⟨(), require_eq_ok.mpr hcheck, by rw [hanswered.response]; rfl⟩
  simp only [KeyClaim.run, claimRelatedKeys]
  refine bind_eq_ok.mpr ⟨deviceId, hdevice, bind_eq_ok.mpr ⟨parsed, hparses, ?_⟩⟩
  rw [husers]
  refine bind_eq_ok.mpr ⟨_, hanswered.asks.hash, ?_⟩
  refine bind_eq_ok.mpr ⟨(), require_eq_ok.mpr h.session, ?_⟩
  exact bind_eq_ok.mpr ⟨scope, hscope, hclaim⟩

/-! ## The result -/

/-- **The key claims of a device are retried without harm.** -/
theorem key_claims_retry_safe (hfrom : C.ClaimsFrom env B deviceId) {trace : List ClaimEvent}
    {s : σ} (hrun : (C.claiming env B).Run trace s)
    (honly : C.ClaimsOnly deviceId requests (B.log s)) :
    RetrySafe env C B deviceId requests trace s where
  accepted := fun request _ user _ => subRequestId_accepted hfrom.digest request.id user
  apart := fun _ _ ha hb _ huser _ huser' heq => honly.apart ha hb huser huser' heq
  replayed := by
    intro request _ user _ claim keys hmem _ again hkey db' keys' hagain
    exact (repetition_of_run (service_run hfrom hrun) hmem hkey hagain).2
  answered := by
    intro request hrequest entry hentry claim keys hmem hkey call hid hvalue hauthorised
    have hclaim := honly.value hrequest hentry hmem hkey
    exact repetition_answered (service_run hfrom hrun) hmem (hid ▸ hkey)
      (hclaim.trans hvalue.symm) hvalue hauthorised
  covered := fun request _ merged hmem =>
    merged_covers (service_run hfrom hrun) (attempts hfrom hrun hmem)
  consumed := fun request hrequest => results_apart (service_run hfrom hrun) honly hrequest
  recipients := fun request hrequest user huser result hresult hof =>
    result_user (service_run hfrom hrun) honly hrequest huser hresult hof

end MatrixTransportCoordinator

end Transport

/-! ## Two attempts -/

namespace Sample

open Transport MatrixTransportCoordinator

/-- The rows of the calls. -/
def firstRow : Uuid := uuidOf 0x0f000000000040008000000000000006
def secondRow : Uuid := uuidOf 0x0f000000000040008000000000000007
def thirdRow : Uuid := uuidOf 0x0f000000000040008000000000000008

/-- The client has a key. The answer to the first sub-request is lost and the second is not sent;
the next attempt is answered. -/
def lostAnswer : List Fate :=
  [.meanwhile (.upload client (upload (uuidOf 0x0f000000000040008000000000000001))),
    .reached firstRow false, .reached secondRow true, .reached thirdRow true]

/-- The answer to the first sub-request is lost and the cashier is suspended. -/
def suspendedMeanwhile : List Fate :=
  [.reached firstRow false, .meanwhile (.changeAccounts suspended)]

/-- A change of the accounts. -/
def changesAccounts : Action → Bool
  | .accountsChanged => true
  | _ => false

/-- A claim of a log is refused now. -/
def refusedNow (s : ScriptState) : Action → Bool
  | .claimed claim _ => !(claim.run claimDeployment s.world.db).toOption.isSome
  | _ => false

/-- The merged response of an attempt meets a condition. -/
def completesWith (s : ScriptState) (check : ClaimResponse → Bool) : Bool :=
  match (attempt s).1 with
  | .ok merged => check merged
  | .error _ => false

theorem exists_merged (s : ScriptState) (check : ClaimResponse → Bool)
    (h : completesWith s check = true) :
    ∃ merged, (attempt s).1 = .ok merged ∧ check merged = true := by
  unfold completesWith at h
  split at h
  · rename_i merged hmerged
    exact ⟨merged, hmerged, h⟩
  · cases h

/-- The attempt behind a lost answer has the client's key and nothing of the cashier. -/
theorem lostAnswer_attempted :
    completesWith (attempted (start lostAnswer) 1)
      (fun merged => Json.keys merged.oneTimeKeys = [clientKeys.matrixUserId]) = true ∧
    completesWith (attempted (start lostAnswer) 1)
      (fun merged => (Json.keys merged.oneTimeKeys).count cashierKeys.matrixUserId = 0) = true ∧
    ((attempted (start lostAnswer) 2).world.db.keys.claimResults.map
      fun result => result.oneTimeKeyId.isSome) = [true] ∧
    onlySubRequests (Transport.ScriptState.backdrop.log (attempted (start lostAnswer) 2)) = true ∧
    (attempted (start lostAnswer) 2).log.all (fun a => !changesAccounts a) = true := by
  decide +kernel

/-- A claim behind a suspension is refused now. -/
theorem suspendedMeanwhile_attempted :
    (attempted (start suspendedMeanwhile) 2).log.any
      (refusedNow (attempted (start suspendedMeanwhile) 2)) = true ∧
    onlySubRequests (Transport.ScriptState.backdrop.log (attempted (start suspendedMeanwhile) 2)) =
      true := by
  decide +kernel

end Sample

/-- The answer to the client's sub-request is lost; the attempt behind it has the client's key, of
which one is taken, and nothing for the device that is gone. -/
theorem key_claims_retry_safe_lost : ∃ trace s merged,
    (Sample.coordinator.claiming Sample.claimDeployment Transport.ScriptState.backdrop).Run
      trace s ∧
    trace.length = 2 ∧
    Transport.MatrixTransportCoordinator.ClaimEvent.attempted Sample.claimRequest (.ok merged) ∈
      trace ∧
    Json.keys merged.oneTimeKeys = [Sample.clientKeys.matrixUserId] ∧
    (s.world.db.keys.claimResults.map fun result => result.oneTimeKeyId.isSome) = [true] ∧
    Transport.MatrixTransportCoordinator.RetrySafe Sample.claimDeployment Sample.coordinator
      Transport.ScriptState.backdrop Sample.cashierDevice (· = Sample.claimRequest) trace s := by
  have hrun := Sample.attempted_run Sample.lostAnswer 2
  obtain ⟨hcompletes, -, hresults, honly, -⟩ := Sample.lostAnswer_attempted
  obtain ⟨merged, hmerged, hkeys⟩ := Sample.exists_merged
    (Sample.attempted (Sample.start Sample.lostAnswer) 1)
    (fun merged => Json.keys merged.oneTimeKeys = [Sample.clientKeys.matrixUserId]) hcompletes
  refine ⟨_, _, merged, hrun, rfl, ?_, of_decide_eq_true hkeys, hresults, ?_⟩
  · exact List.mem_cons.mpr (.inl (by rw [← hmerged]))
  · exact Transport.MatrixTransportCoordinator.key_claims_retry_safe Sample.coordinator_claimsFrom
      hrun (Sample.claimsOnly_of_log honly)

/-- **The claim as it is**: an attempt that completes has nothing for a device that is gone, and
a sub-request that was committed is not answered when the cashier is suspended. -/
theorem key_claims_leave_users_out :
    (¬ ∀ (C : Transport.MatrixTransportCoordinator Transport.ScriptState) (env : Deployment)
      (B : Transport.Backdrop Transport.ScriptState) (deviceId : Uuid)
      (requests : Transport.KeysClaimRequest → Prop)
      (trace : List Transport.MatrixTransportCoordinator.ClaimEvent) (s : Transport.ScriptState),
      C.ClaimsFrom env B deviceId → (C.claiming env B).Run trace s →
      C.ClaimsOnly deviceId requests (B.log s) → (∀ a ∈ B.log s, a ≠ .accountsChanged) →
      ∀ request merged, requests request → .attempted request (.ok merged) ∈ trace →
        ∀ user ∈ request.users, (Json.keys merged.oneTimeKeys).count user = 1) ∧
    ¬ ∀ (C : Transport.MatrixTransportCoordinator Transport.ScriptState) (env : Deployment)
      (B : Transport.Backdrop Transport.ScriptState) (deviceId : Uuid)
      (requests : Transport.KeysClaimRequest → Prop)
      (trace : List Transport.MatrixTransportCoordinator.ClaimEvent) (s : Transport.ScriptState),
      C.ClaimsFrom env B deviceId → (C.claiming env B).Run trace s →
      C.ClaimsOnly deviceId requests (B.log s) →
      ∀ claim keys, Action.claimed claim keys ∈ B.log s → ∃ db,
        claim.run env (B.world s).db = .ok (db, keys) := by
  constructor
  · intro h
    obtain ⟨-, hcompletes, -, honly, hall⟩ := Sample.lostAnswer_attempted
    obtain ⟨merged, hmerged, hkeys⟩ := Sample.exists_merged
      (Sample.attempted (Sample.start Sample.lostAnswer) 1)
      (fun merged => (Json.keys merged.oneTimeKeys).count Sample.cashierKeys.matrixUserId = 0)
      hcompletes
    have hkept : ∀ a ∈ Transport.ScriptState.backdrop.log
        (Sample.attempted (Sample.start Sample.lostAnswer) 2), a ≠ .accountsChanged := by
      intro a ha heq
      rw [Transport.ScriptState.backdrop_log] at ha
      have hnot := List.all_eq_true.mp hall a ha
      rw [heq] at hnot
      cases hnot
    have hone := h _ _ _ _ _ _ _ Sample.coordinator_claimsFrom
      (Sample.attempted_run Sample.lostAnswer 2) (Sample.claimsOnly_of_log honly) hkept
      Sample.claimRequest merged rfl (List.mem_cons.mpr (.inl (by rw [← hmerged])))
      Sample.cashierKeys.matrixUserId (by decide +kernel)
    rw [of_decide_eq_true hkeys] at hone
    cases hone
  · intro h
    obtain ⟨hany, honly⟩ := Sample.suspendedMeanwhile_attempted
    obtain ⟨a, hmem, hrefused⟩ := List.any_eq_true.mp hany
    cases a with
    | claimed claim keys =>
      obtain ⟨db, hok⟩ := h _ _ _ _ _ _ _ Sample.coordinator_claimsFrom
        (Sample.attempted_run Sample.suspendedMeanwhile 2)
        (Sample.claimsOnly_of_log honly) claim keys hmem
      have hrun : claim.run Sample.claimDeployment
          (Sample.attempted (Sample.start Sample.suspendedMeanwhile) 2).world.db = .ok (db, keys) :=
        hok
      rw [Sample.refusedNow, hrun] at hrefused
      cases hrefused
    | _ => cases hrefused

end SinoChat
