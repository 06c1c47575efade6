import SinoChat.KeyUpload.Agreement
import SinoChat.Quarantine.Served
import SinoChat.SasToDevice.Exact

/-!
# What is read back from storage

The request of a flow is stored as `JSONB` and read again by the parser that took it. A
column may give the keys of an object in another order; the parser reads them as it read
the first time (`storedRequest_of_openedBy`), so that no later reader of a row refuses it.
-/

namespace SinoChat

open Js

namespace Quarantine

open CrossSigning (MatrixCrossSigningIdentity)
open KeyUpload (deviceKeysJson onlyDeviceKeys SignedDevice)
open MessagePayload (matrixDeviceIdFromUuid)
open MatrixDeviceVerificationService (scopeOf contentOf)
open MatrixDeviceVerificationInboxService (storedRequest)
open SasToDevice (ContentOf FieldsOf Fits MadeOf MatrixSasExpectation MatrixSasToDeviceRequest
  Verification bodyJson parseMatrixSasToDeviceRequest)

variable {env : Env} {principal : SessionPrincipal}

/-! ## The keys of a candidate -/

/-- The order in which a column gives the keys of an object does not show. -/
theorem same_of_stored {value stored : Json} {c : Canonical} (hsame : Same value stored)
    (hdistinct : value.Distinct) (hc : canonicalize value = some c) : Same stored value :=
  same_of_canonicalize_eq stored (canonicalize_eq_of_same hsame hdistinct hc) hc

/-! ## The request of a flow -/

section Request

variable {scope : MatrixSasExpectation} {content : List (JsString × Json)}

/-- The members of a request are texts, an array of texts and a number: the same value is the
value itself. -/
theorem eq_of_same_member (h : ContentOf scope .request content) :
    ∀ member ∈ content, ∀ found, Same found member.2 → found = member.2 := by
  obtain ⟨rest, hrest, rfl⟩ := h
  cases hrest with
  | request time htime =>
    intro member hmember found hsame
    simp only [List.mem_cons, List.not_mem_nil, or_false] at hmember
    rcases hmember with rfl | rfl | rfl | rfl
    · exact same_str_iff.mp hsame
    · exact same_str_iff.mp hsame
    · exact same_texts_iff.mp hsame
    · exact same_num_iff.mp hsame

/-- **A stored request has the members it had**, in some order. -/
theorem perm_of_stored (h : ContentOf scope .request content) {stored : Json}
    (hsame : Same (.obj content) stored) : ∃ raw, stored = .obj raw ∧ raw.Perm content := by
  obtain ⟨hdistinct, c, hc⟩ := h.regular
  have hback := same_of_stored hsame hdistinct hc
  obtain ⟨raw, rfl, hexact, hmembers⟩ := (same_obj_iff h.nodup).mp hback
  refine ⟨raw, rfl, (perm_iff_get? h.nodup).mpr ⟨?_, fun member hmember => ?_⟩⟩
  · exact keys_perm_of_exactKeys h.nodup hexact
  · obtain ⟨found, hfound, hsame⟩ := hmembers member hmember
    rw [hfound, eq_of_same_member h member hmember found hsame]

/-- The content of what was parsed. -/
theorem contentOf_eq {crypto : Crypto} {eventType transactionId : JsString}
    {request : MatrixSasToDeviceRequest}
    (h : MadeOf crypto eventType transactionId scope content request) :
    contentOf request scope = .obj content := by
  have hmessages : request.messages.record? =
      some [(scope.userId, .obj [(scope.recipientDeviceId, .obj content)])] := by
    rw [h.messages]
    rfl
  rw [contentOf, hmessages]
  simp [Json.record?, Json.get?]

end Request

theorem storedRequest_of_parse {identity : MatrixCrossSigningIdentity} {c : MatrixDeviceCandidate}
    {f : MatrixDeviceVerificationFlow} {request : MatrixSasToDeviceRequest}
    {parsed : KeyUpload.MatrixDeviceCandidate}
    (hsnapshot : publicSnapshot env c MatrixDeviceVerificationInboxService.conflict = .ok parsed)
    (hrequest : parseMatrixSasToDeviceRequest env.crypto Verification.request.eventType
      f.requestTransactionId (bodyJson (.obj [(c.matrixUserId,
        .obj [(c.matrixDeviceId, f.requestContent)])]))
      (scopeOf identity c.trustedDeviceId c f.flowId) = .ok request)
    (hsha : request.canonicalSha256 = f.requestSha256) :
    storedRequest env identity c f =
      .ok (request, contentOf request (scopeOf identity c.trustedDeviceId c f.flowId)) := by
  refine bind_eq_ok.mpr ⟨parsed, hsnapshot, bind_eq_ok.mpr ⟨request, ?_, ?_⟩⟩
  · exact orThrow_eq_ok.mpr (congrArg Except.toOption hrequest)
  · exact bind_eq_ok.mpr ⟨(), require_eq_ok.mpr (beq_iff_eq.mpr hsha), rfl⟩

/-- What a flow keeps of its admission. -/
structure StoredRequest (env : Env) (identity : MatrixCrossSigningIdentity) (body : Json)
    (c : MatrixDeviceCandidate) (f : MatrixDeviceVerificationFlow)
    (request : MatrixSasToDeviceRequest) (content : Json) : Prop where
  read : storedRequest env identity c f = .ok (request, content)
  transactionId : request.transactionId = f.requestTransactionId
  senderDeviceId : request.senderDeviceId = matrixDeviceIdFromUuid c.trustedDeviceId
  recipientDeviceId : request.recipientDeviceId = c.matrixDeviceId
  body : Same body (bodyJson (.obj [(c.matrixUserId, .obj [(c.matrixDeviceId, content)])]))
  early : timestampOf content ≤ f.createdAt + 300000
  late : f.expiresAt ≤ timestampOf content + 600000

/-- **A stored request is read as it was admitted**: the content is that of the body. -/
theorem storedRequest_of_openedBy {backdrop : Backdrop} {body : Json} {c : MatrixDeviceCandidate}
    {f : MatrixDeviceVerificationFlow} {identity : MatrixCrossSigningIdentity}
    (h : OpenedBy env backdrop principal body c f) (hbody : body.Distinct)
    (hidentity : backdrop.identities.find? principal.id = some identity) :
    ∃ request content, StoredRequest env identity body c f request content := by
  obtain ⟨found, request, hfound, -, -, -, hparsed, hcontent, hsha, hearly, hlate⟩ := h.request
  obtain rfl := Option.some.inj (hidentity.symm.trans hfound)
  obtain ⟨kind, content, raw, hfits, hperm, rfl, hmade⟩ :=
    (SasToDevice.parse_eq_ok hbody).mp hparsed
  obtain rfl : kind = .request := by
    have htype := hfits.eventType
    cases kind <;> first | rfl | exact absurd htype (by decide)
  have hof := contentOf_eq hmade
  obtain ⟨hdistinct, canonical, hcanonical⟩ := hfits.content.regular
  rw [hof] at hcontent hearly hlate
  obtain ⟨raw', hraw', hperm'⟩ := perm_of_stored hfits.content (env.jsonb_same _ hdistinct)
  refine ⟨request, .obj content, ?_, hmade.transactionId, hmade.senderDeviceId,
    hmade.recipientDeviceId, ?_, hearly, hlate⟩
  · obtain ⟨parsed, hsnapshot⟩ := h.snapshot
    have hdistinct' := (env.jsonb_same _ hdistinct).distinct hdistinct
    rw [hraw'] at hdistinct'
    have hbody' : (bodyJson (SasToDevice.messagesJson
        (scopeOf identity c.trustedDeviceId c f.flowId) raw')).Distinct :=
      ⟨List.nodup_singleton _, ⟨List.nodup_singleton _, ⟨List.nodup_singleton _, hdistinct',
        trivial⟩, trivial⟩, trivial⟩
    have hreread :=
      (SasToDevice.parse_eq_ok hbody').mpr ⟨_, content, raw', hfits, hperm', rfl, hmade⟩
    rw [← hof]
    refine storedRequest_of_parse (publicSnapshot_eq_ok.mpr (publicSnapshot_eq_ok.mp hsnapshot)) ?_
      hsha.symm
    rw [hcontent, hraw']
    exact hreread
  · -- the body lists the members of the content in an order of its own
    obtain ⟨-, b, hb⟩ := hfits.content.body_regular
    exact same_of_canonicalize_eq _ ((hfits.canonicalize_eq hperm).trans hb) hb

end Quarantine

end SinoChat
