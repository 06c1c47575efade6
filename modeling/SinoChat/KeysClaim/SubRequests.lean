import SinoChat.Client.KeyQueries
import SinoChat.Common.Base64Url
import SinoChat.KeysClaim.Records
import SinoChat.Model.KeysClaim

/-!
# The sub-requests of a claim

The id of a sub-request is base64url of a digest, so the service takes it
(`subRequestId_accepted`), and two ids are the same where the digests are
(`subRequestId_inj`). The text that is digested begins with the request's id up to
the first NUL, so it tells the request and the user (`subRequestText_inj`).

The loop of an attempt that succeeds has an answer of the service to every
sub-request, and merges them (`sendClaimsOf_eq_ok`).
-/

namespace SinoChat

open Js

namespace Transport

/-! ## Ids -/

theorem unpadded_map_base64UrlUnit (text : JsString) :
    unpadded (text.map base64UrlUnit) = (unpadded text).map base64UrlUnit := by
  have hpad : ∀ u : UInt16, (base64UrlUnit u == 0x3D) = (u == 0x3D) := by
    intro u
    unfold base64UrlUnit
    split_ifs with hplus hslash
    · subst hplus
      rfl
    · subst hslash
      rfl
    · rfl
  unfold unpadded List.rdropWhile
  rw [← List.map_reverse, List.dropWhile_map, ← List.map_reverse]
  congr 4
  exact funext hpad

theorem deriveClaimSubRequestId_eq (sha256 : List UInt8 → List UInt8) (id user : JsString) :
    deriveClaimSubRequestId sha256 id user =
      js "claim_" ++ toBase64Url (sha256 (utf8 (id ++ [0] ++ user))) := by
  rw [toBase64Url, ← unpadded_map_base64UrlUnit]
  rfl

/-- **The service takes the id of a sub-request.** -/
theorem subRequestId_accepted {sha256 : List UInt8 → List UInt8}
    (hdigest : ∀ bytes, (sha256 bytes).length = 32) (id user : JsString) :
    parseMatrixClaimRequestId (deriveClaimSubRequestId sha256 id user) =
      .ok (deriveClaimSubRequestId sha256 id user) := by
  have hlength : (toBase64Url (sha256 (utf8 (id ++ [0] ++ user)))).length = 43 := by
    rw [length_toBase64Url, hdigest]
  have hunits : ∀ u ∈ js "claim_" ++ toBase64Url (sha256 (utf8 (id ++ [0] ++ user))),
      (isAlphanumeric u || u == 0x2E || u == 0x5F || u == 0x7E || u == 0x2D) = true := by
    intro u hu
    rcases List.mem_append.mp hu with hu | hu
    · have hname : (js "claim_").all (fun u =>
          isAlphanumeric u || u == 0x2E || u == 0x5F || u == 0x7E || u == 0x2D) = true := by
        decide
      exact List.all_eq_true.mp hname u hu
    · have hdigit := isBase64Url_of_mem hu
      simp only [isBase64Url, Bool.or_eq_true, beq_iff_eq] at hdigit ⊢
      tauto
  have hlen : (js "claim_" ++ toBase64Url (sha256 (utf8 (id ++ [0] ++ user)))).length = 49 := by
    rw [List.length_append, hlength]
    rfl
  have htest : isClaimRequestId (deriveClaimSubRequestId sha256 id user) = true := by
    rw [deriveClaimSubRequestId_eq, isClaimRequestId, run, hlen, List.all_eq_true.mpr hunits]
    rfl
  simp [parseMatrixClaimRequestId, htest, require, bind, Except.bind, pure, Except.pure]

/-- **The same id is the same digest.** -/
theorem subRequestId_inj {sha256 : List UInt8 → List UInt8} {id id' user user' : JsString}
    (h : deriveClaimSubRequestId sha256 id user = deriveClaimSubRequestId sha256 id' user') :
    sha256 (utf8 (id ++ [0] ++ user)) = sha256 (utf8 (id' ++ [0] ++ user')) := by
  rw [deriveClaimSubRequestId_eq, deriveClaimSubRequestId_eq] at h
  exact toBase64Url_injective (List.append_cancel_left h)

/-- A list is cut at the first of a value in one way. -/
theorem append_cons_inj {α : Type} {x : α} {a b c d : List α} (ha : x ∉ a) (hb : x ∉ b)
    (h : a ++ x :: c = b ++ x :: d) : a = b ∧ c = d := by
  induction a generalizing b with
  | nil =>
    cases b with
    | nil => exact ⟨rfl, (List.cons.inj h).2⟩
    | cons y b => exact absurd (List.cons.inj h).1 fun heq => hb (heq ▸ List.mem_cons_self)
  | cons z a ih =>
    cases b with
    | nil => exact absurd (List.cons.inj h).1 fun heq => ha (heq ▸ List.mem_cons_self)
    | cons y b =>
      obtain ⟨rfl, hrest⟩ := List.cons.inj h
      obtain ⟨rfl, rfl⟩ := ih (fun hmem => ha (List.mem_cons_of_mem _ hmem))
        (fun hmem => hb (List.mem_cons_of_mem _ hmem)) hrest
      exact ⟨rfl, rfl⟩

namespace KeysClaimRequest

/-- **The text that is digested tells the id and the user.** -/
theorem subRequestText_inj {a b : KeysClaimRequest} {user user' : JsString}
    (huser : user ∈ a.users) (huser' : user' ∈ b.users)
    (h : a.subRequestText user = b.subRequestText user') : a.id = b.id ∧ user = user' := by
  have hzero : WellFormed ([0] : JsString) := by
    refine wellFormed_of_forall fun u hu => ?_
    rw [List.mem_singleton.mp hu]
    exact ⟨rfl, rfl⟩
  have htext := utf8_injective
    ((a.idWellFormed.append hzero).append (a.usersWellFormed user huser))
    ((b.idWellFormed.append hzero).append (b.usersWellFormed user' huser')) h
  rw [List.append_assoc, List.append_assoc] at htext
  exact append_cons_inj a.idPlain b.idPlain htext

end KeysClaimRequest

theorem Backdrop.Goes.trans {σ : Type} {B : Backdrop σ} {env : Deployment} {s t u : σ}
    {actions later : List Action} (h : B.Goes env s actions t) (h' : B.Goes env t later u) :
    B.Goes env s (later ++ actions) u :=
  ⟨h.1.append h'.1, by rw [h'.2, h.2, List.append_assoc]⟩

namespace MatrixTransportCoordinator

variable {σ : Type} {C : MatrixTransportCoordinator σ} {env : Deployment} {B : Backdrop σ}
  {deviceId : Uuid} {requests : KeysClaimRequest → Prop}

/-- **Different sub-requests of a device have different ids.** -/
theorem ClaimsOnly.apart {log : List Action} (h : C.ClaimsOnly deviceId requests log)
    {a b : KeysClaimRequest} (ha : requests a) (hb : requests b) {user user' : JsString}
    (huser : user ∈ a.users) (huser' : user' ∈ b.users)
    (heq : C.subRequestId a user = C.subRequestId b user') : a = b ∧ user = user' := by
  obtain ⟨hid, hname⟩ := KeysClaimRequest.subRequestText_inj huser huser'
    (h.digests a b ha hb user huser user' huser' (subRequestId_inj heq))
  exact ⟨h.ids a b ha hb hid, hname⟩

/-- The claims of the device under the id of a sub-request are this sub-request. -/
theorem ClaimsOnly.value {log : List Action} (h : C.ClaimsOnly deviceId requests log)
    {request : KeysClaimRequest} (hrequest : requests request) {entry : JsString × Json}
    (hentry : entry ∈ request.entries) {claim : KeyClaim} {keys : ClaimedKeys}
    (hmem : Action.claimed claim keys ∈ log)
    (hkey : claim.key = some (deviceId, C.subRequestId request entry.1)) :
    claim.call.value = .obj (request.subRequestBody entry) := by
  obtain ⟨device, hdevice, hpair⟩ := Option.map_eq_some_iff.mp hkey
  obtain ⟨rfl, hid⟩ := Prod.mk.inj hpair
  obtain ⟨other, hother, entry', hentry', hid', hvalue⟩ := h.claims claim keys hmem hdevice
  obtain ⟨rfl, huser⟩ := h.apart hrequest hother (List.mem_map_of_mem hentry)
    (List.mem_map_of_mem hentry') (hid.symm.trans hid')
  have hsame : entry = entry' :=
    List.inj_on_of_nodup_map request.usersDistinct hentry hentry' huser
  rw [hsame]
  exact hvalue

/-! ## What a sub-request asks for -/

/-- A sub-request asks for its user alone. -/
theorem parses_subRequestBody {request : KeysClaimRequest} {entry : JsString × Json}
    {parsed : MatrixKeysClaim}
    (h : parseMatrixKeysClaim (.obj (request.subRequestBody entry)) = .ok parsed) :
    isMatrixUserId entry.1 = true ∧ ∃ devices, parsed.oneTimeKeys = [(entry.1, devices)] := by
  unfold parseMatrixKeysClaim at h
  obtain ⟨body, hbody, h⟩ := bind_eq_ok.mp h
  obtain rfl := Except.ok.inj hbody
  obtain ⟨_, -, h⟩ := bind_eq_ok.mp h
  obtain ⟨users, husers, h⟩ := bind_eq_ok.mp h
  obtain rfl : [entry] = users := Except.ok.inj husers
  obtain ⟨_, -, h⟩ := bind_eq_ok.mp h
  obtain ⟨oneTimeKeys, hkeys, h⟩ := bind_eq_ok.mp h
  obtain ⟨_, -, h⟩ := bind_eq_ok.mp h
  obtain ⟨timeout, -, h⟩ := bind_eq_ok.mp h
  obtain rfl := Except.ok.inj h
  obtain ⟨user, rawDevices⟩ := entry
  rw [parseClaimUsers] at hkeys
  obtain ⟨_, huser, hkeys⟩ := bind_eq_ok.mp hkeys
  obtain ⟨devices, -, hkeys⟩ := bind_eq_ok.mp hkeys
  obtain ⟨_, -, hkeys⟩ := bind_eq_ok.mp hkeys
  obtain ⟨parsedDevices, -, hkeys⟩ := bind_eq_ok.mp hkeys
  obtain ⟨rest, hrest, hkeys⟩ := bind_eq_ok.mp hkeys
  obtain rfl := Except.ok.inj hrest
  obtain rfl := Except.ok.inj hkeys
  exact ⟨require_eq_ok.mp huser, parsedDevices, rfl⟩

/-! ## The loop -/

/-- The service answered the sub-request for a user with these keys. -/
def Answers (C : MatrixTransportCoordinator σ) (deviceId : Uuid) (request : KeysClaimRequest)
    (log : List Action) (entry : JsString × Json) (keys : ClaimedKeys) : Prop :=
  ∃ call, Action.claimed (.related call) keys ∈ log ∧ call.principal.deviceId = some deviceId ∧
    call.rawRequestId = C.subRequestId request entry.1 ∧
    call.value = .obj (request.subRequestBody entry)

/-- A merge leaves nothing out but what is no property. -/
theorem mergeRecord_perm {target source merged : JsonObject}
    (h : mergeRecord target source = .ok merged) : merged.Perm (target ++ assignable source) := by
  induction source generalizing target with
  | nil =>
    obtain rfl := Except.ok.inj h
    simp [assignable]
  | cons entry source ih =>
    obtain ⟨_, -, h⟩ := bind_eq_ok.mp h
    refine (ih h).trans (((assign_perm target entry).append_right _).trans ?_)
    rw [List.append_assoc]
    refine List.Perm.append_left _ ?_
    rw [assignable, assignable, assignable, ← List.filter_append]
    exact List.Perm.refl _

/-- **A reply that passes is about the user alone**, and is merged as it is. -/
theorem mergeClaimResponse_eq_ok {user : JsString} {merged response merged' : ClaimResponse}
    (h : mergeClaimResponse user merged response = .ok merged') :
    (∀ key ∈ Json.keys response.oneTimeKeys, key = user) ∧ merged'.failures = merged.failures ∧
      merged'.oneTimeKeys.Perm (merged.oneTimeKeys ++ assignable response.oneTimeKeys) := by
  unfold mergeClaimResponse at h
  obtain ⟨_, husers, h⟩ := bind_eq_ok.mp h
  obtain ⟨_, hempty, h⟩ := bind_eq_ok.mp h
  obtain ⟨failures, hfailures, h⟩ := bind_eq_ok.mp h
  obtain ⟨oneTimeKeys, hkeys, h⟩ := bind_eq_ok.mp h
  obtain rfl := Except.ok.inj h
  refine ⟨?_, ?_, mergeRecord_perm hkeys⟩
  · intro key hkey
    have hall := List.all_eq_true.mp (require_eq_ok.mp husers) key hkey
    simpa using hall
  · rw [List.isEmpty_iff.mp (require_eq_ok.mp hempty)] at hfailures
    exact (Except.ok.inj hfailures).symm

/-- A turn that succeeds has an answer of the service and merges it. -/
theorem sendClaimOf_eq_ok (hfrom : C.ClaimsFrom env B deviceId) {request : KeysClaimRequest}
    {entry : JsString × Json} {merged merged' : ClaimResponse} {s t : σ}
    (h : C.sendClaimOf request.id (timeoutOf request.body) entry merged s = (.ok merged', t)) :
    ∃ actions, B.Goes env s actions t ∧ ∃ keys, C.Answers deviceId request actions entry keys ∧
      (∀ user ∈ keys.map Prod.fst, user = entry.1) ∧ merged'.failures = merged.failures ∧
      merged'.oneTimeKeys.Perm (merged.oneTimeKeys ++ assignable (claimedObject keys)) := by
  unfold sendClaimOf at h
  obtain ⟨reply, u, hreply, h⟩ := Effect.bind_eq_ok.mp h
  obtain ⟨response, v, hresponse, h⟩ := Effect.bind_eq_ok.mp h
  obtain ⟨hparse, rfl⟩ := check_eq_ok.mp hresponse
  obtain ⟨hmerge, rfl⟩ := check_eq_ok.mp h
  obtain ⟨actions, hgoes, hok⟩ := hfrom.claimKeys _ _ _ _ _ hreply
  obtain ⟨call, keys, hmem, hdevice, hid, hvalue, rfl⟩ := hok reply rfl
  obtain rfl : ClaimResponse.mk [] (claimedObject keys) = response := Except.ok.inj hparse
  obtain ⟨husers, hfailures, hperm⟩ := mergeClaimResponse_eq_ok hmerge
  refine ⟨actions, hgoes, keys, ⟨call, hmem, hdevice, hid, hvalue⟩, ?_, hfailures, hperm⟩
  intro user huser
  refine husers user ?_
  simpa [Json.keys, claimedObject] using huser

theorem Answers.mono {request : KeysClaimRequest} {log log' : List Action}
    {entry : JsString × Json} {keys : ClaimedKeys} (hsub : log ⊆ log')
    (h : C.Answers deviceId request log entry keys) :
    C.Answers deviceId request log' entry keys := by
  obtain ⟨call, hmem, hrest⟩ := h
  exact ⟨call, hsub hmem, hrest⟩

/-- **The loop that succeeds** has an answer for every user and merges them. -/
theorem sendClaimsOf_eq_ok (hfrom : C.ClaimsFrom env B deviceId) {request : KeysClaimRequest}
    {rest : JsonObject} {merged merged' : ClaimResponse} {s t : σ}
    (h : C.sendClaimsOf request.id (timeoutOf request.body) rest merged s = (.ok merged', t)) :
    ∃ actions, B.Goes env s actions t ∧ ∃ answers : List ClaimedKeys,
      List.Forall₂ (fun entry keys => C.Answers deviceId request actions entry keys ∧
        ∀ user ∈ keys.map Prod.fst, user = entry.1) rest answers ∧
      merged'.failures = merged.failures ∧
      merged'.oneTimeKeys.Perm
        (merged.oneTimeKeys ++ assignable (answers.flatMap claimedObject)) := by
  induction rest generalizing merged s with
  | nil =>
    obtain ⟨rfl, rfl⟩ := Effect.pure_eq_ok.mp h
    exact ⟨[], ⟨.refl, rfl⟩, [], .nil, rfl, by simp [assignable]⟩
  | cons entry rest ih =>
    obtain ⟨first, u, hfirst, hloop⟩ := Effect.bind_eq_ok.mp h
    obtain ⟨actions, hgoes, keys, hanswer, husers, hfailures, hperm⟩ :=
      sendClaimOf_eq_ok hfrom hfirst
    obtain ⟨later, hlater, answers, hanswers, hfailures', hperm'⟩ := ih hloop
    refine ⟨later ++ actions, hgoes.trans hlater, keys :: answers, .cons ?_ ?_,
      hfailures'.trans hfailures, ?_⟩
    · exact ⟨hanswer.mono (List.subset_append_right _ _), husers⟩
    · exact hanswers.imp fun _ _ h => ⟨h.1.mono (List.subset_append_left _ _), h.2⟩
    · refine hperm'.trans ((hperm.append_right _).trans ?_)
      rw [List.append_assoc, List.flatMap_cons, assignable, assignable, assignable,
        List.filter_append]

/-- **An attempt**, however it ends, leaves the service a reachable state. -/
theorem sendKeysClaim_goes (hfrom : C.ClaimsFrom env B deviceId) (id : JsString)
    (body : JsonObject) :
    (C.sendKeysClaim id body).Respects fun s t => ∃ actions, B.Goes env s actions t := by
  have hrefl : ∀ s, ∃ actions, B.Goes env s actions s := fun s => ⟨[], .refl, rfl⟩
  have htrans : ∀ s t u, (∃ actions, B.Goes env s actions t) →
      (∃ actions, B.Goes env t actions u) → ∃ actions, B.Goes env s actions u :=
    fun _ _ _ ⟨_, h⟩ ⟨_, h'⟩ => ⟨_, h.trans h'⟩
  have hloop : ∀ timeout rest merged,
      (C.sendClaimsOf id timeout rest merged).Respects fun s t =>
        ∃ actions, B.Goes env s actions t := by
    intro timeout rest
    induction rest with
    | nil => exact fun merged => Effect.respects_pure hrefl merged
    | cons entry rest ih =>
      intro merged
      refine Effect.Respects.bind htrans ?_ ih
      refine Effect.Respects.bind htrans ?_ fun _ =>
        (respects_check hrefl _).bind htrans fun _ => respects_check hrefl _
      intro s y t hcall
      obtain ⟨actions, hgoes, -⟩ := hfrom.claimKeys _ _ _ _ _ hcall
      exact ⟨actions, hgoes⟩
  exact (respects_check hrefl _).bind htrans fun _ => hloop _ _ _

end MatrixTransportCoordinator

end Transport

end SinoChat
