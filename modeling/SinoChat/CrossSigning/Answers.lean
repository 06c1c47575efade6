import SinoChat.CrossSigning.Identity

/-!
# What a bootstrap is not answered

A first request is never refused for a change of the identity, and neither is
the request that is stored, when it comes again.
-/

namespace SinoChat

open Js

namespace CrossSigning

variable {env : Deployment} {scheme : SignatureScheme}

/-! ## The parser -/

/-- The code of a request with another identity than the one that is pinned. -/
def IsChange (code : ErrorCode) : Prop := code = "MATRIX_CROSS_SIGNING_IDENTITY_CHANGE_FORBIDDEN"

instance : DecidablePred IsChange := fun code => inferInstanceAs (Decidable (code = _))

theorem avoids_record (value : Option Json) : Avoids IsChange (record value) :=
  (avoids_orThrow (by decide)).bind fun _ _ =>
    (avoids_require (by decide)).bind fun _ _ => avoids_ok _

theorem avoids_exactRecord (value : Option Json) (expected : List JsString) :
    Avoids IsChange (exactRecord value expected) :=
  (avoids_record value).bind fun _ _ =>
    (avoids_require (by decide)).bind fun _ _ => avoids_ok _

theorem avoids_exactArray (value : Option Json) (expected : List JsString) :
    Avoids IsChange (exactArray value expected) :=
  (avoids_orThrow (by decide)).bind fun _ _ => avoids_require (by decide)

theorem avoids_base64 (value : Option Json) (bytes : ℕ) : Avoids IsChange (base64 value bytes) :=
  (avoids_orThrow (by decide)).bind fun _ _ => (avoids_require (by decide)).bind fun _ _ =>
    (avoids_require (by decide)).bind fun _ _ => avoids_ok _

theorem avoids_canonicalBase64 {value : JsString} {expectedBytes : ℕ} {errorCode : ErrorCode}
    (h : ¬ IsChange errorCode) :
    Avoids IsChange (canonicalBase64 value expectedBytes errorCode) :=
  (avoids_require h).bind fun _ _ => (avoids_require h).bind fun _ _ => avoids_ok _

theorem avoids_assertMatrixEd25519PublicKey {key : JsString} {errorCode : ErrorCode}
    (h : ¬ IsChange errorCode) :
    Avoids IsChange (assertMatrixEd25519PublicKey scheme key errorCode) :=
  (avoids_canonicalBase64 h).bind fun _ _ => avoids_require h

theorem avoids_encodeMatrixCanonicalJson (value : Json) :
    Avoids IsChange (encodeMatrixCanonicalJson value) := by
  intro error herror
  unfold encodeMatrixCanonicalJson at herror
  split at herror <;> cases herror
  decide

theorem avoids_verifyMatrixSignedObject {core : List (JsString × Json)} {signatures : Signatures}
    {keyId publicKey : JsString} {errorCode : ErrorCode} (h : ¬ IsChange errorCode) :
    Avoids IsChange (verifyMatrixSignedObject scheme core signatures keyId publicKey errorCode) :=
  (avoids_orThrow (by decide)).bind fun _ _ => (avoids_canonicalBase64 (by decide)).bind fun _ _ =>
    (avoids_canonicalBase64 (by decide)).bind fun _ _ => (avoids_require h).bind fun _ _ =>
    (avoids_require h).bind fun _ _ => (avoids_encodeMatrixCanonicalJson _).bind fun _ _ =>
    avoids_require h

theorem avoids_readSignatures (signer : List (JsString × Json)) (keyIds : List JsString) :
    Avoids IsChange (readSignatures signer keyIds) := by
  induction keyIds with
  | nil => exact avoids_ok _
  | cons keyId rest ih =>
    exact (avoids_base64 _ _).bind fun _ _ => ih.bind fun _ _ => avoids_ok _

theorem avoids_parseSignatures (value : Option Json) (userId : JsString) (keyIds : List JsString) :
    Avoids IsChange (parseSignatures value userId keyIds) :=
  (avoids_exactRecord _ _).bind fun _ _ => (avoids_exactRecord _ _).bind fun _ _ =>
    avoids_readSignatures _ _

theorem avoids_parseKey (value : Option Json) (usage : CrossSigningUsage)
    (userId signingKeyId : JsString) :
    Avoids IsChange (parseKey scheme value usage userId signingKeyId) :=
  (avoids_exactRecord _ _).bind fun _ _ => (avoids_require (by decide)).bind fun _ _ =>
    (avoids_exactArray _ _).bind fun _ _ => (avoids_record _).bind fun _ _ =>
    (avoids_orThrow (by decide)).bind fun _ _ => (avoids_base64 _ _).bind fun _ _ =>
    (avoids_require (by decide)).bind fun _ _ =>
    (avoids_assertMatrixEd25519PublicKey (by decide)).bind fun _ _ =>
    (avoids_parseSignatures _ _ _).bind fun _ _ => avoids_ok _

theorem avoids_parseDevice (value : Option Json) (userId deviceId signingKeyId : JsString) :
    Avoids IsChange (parseDevice value userId deviceId signingKeyId) :=
  (avoids_exactRecord _ _).bind fun _ _ => (avoids_require (by decide)).bind fun _ _ =>
    (avoids_exactArray _ _).bind fun _ _ => (avoids_exactRecord _ _).bind fun _ _ =>
    (avoids_base64 _ _).bind fun _ _ => (avoids_base64 _ _).bind fun _ _ =>
    (avoids_parseSignatures _ _ _).bind fun _ _ => avoids_ok _

/-- The keys of a first request. -/
theorem avoids_parseSigningKeys (value : Option Json)
    (expected : MatrixCrossSigningBootstrapExpectation) (original : MatrixDeviceKeys) :
    Avoids IsChange (parseSigningKeys scheme value expected original none) :=
  (avoids_exactRecord _ _).bind fun _ _ => (avoids_parseKey _ _ _ _).bind fun _ _ =>
    (avoids_parseKey _ _ _ _).bind fun _ _ => (avoids_parseKey _ _ _ _).bind fun _ _ =>
    (avoids_require (by decide)).bind fun _ _ =>
    -- without a pinned identity this check cannot fail
    Avoids.bind (fun _ herror => by cases herror) fun _ _ =>
    (avoids_verifyMatrixSignedObject (by decide)).bind fun _ _ =>
    (avoids_verifyMatrixSignedObject (by decide)).bind fun _ _ =>
    (avoids_verifyMatrixSignedObject (by decide)).bind fun _ _ =>
    (avoids_verifyMatrixSignedObject (by decide)).bind fun _ _ => avoids_ok _

theorem avoids_parseCertificate (value : Option Json)
    (expected : MatrixCrossSigningBootstrapExpectation) (original : MatrixDeviceKeys)
    (selfSigningKey : JsString) :
    Avoids IsChange (parseCertificate scheme value expected original selfSigningKey) :=
  (avoids_exactRecord _ _).bind fun _ _ => (avoids_exactRecord _ _).bind fun _ _ =>
    (avoids_parseDevice _ _ _ _).bind fun _ _ =>
    (avoids_encodeMatrixCanonicalJson _).bind fun _ _ =>
    (avoids_encodeMatrixCanonicalJson _).bind fun _ _ => (avoids_require (by decide)).bind fun _ _ =>
    (avoids_verifyMatrixSignedObject (by decide)).bind fun _ _ => avoids_ok _

/-- **A first request is not a change of the identity.** -/
theorem avoids_parseBootstrap (signingKeys deviceSignatures : Option Json)
    (userId deviceId : JsString) (registered : Json) :
    Avoids IsChange (parseBootstrap scheme signingKeys deviceSignatures
      ⟨userId, deviceId, registered, none⟩) :=
  (avoids_require (by decide)).bind fun _ _ =>
    ((avoids_parseDevice _ _ _ _).bind fun _ _ =>
      (avoids_verifyMatrixSignedObject (by decide)).bind fun _ _ => avoids_ok _).bind fun _ _ =>
    (avoids_ok none).bind fun pinned hpinned => by
      obtain rfl := Except.ok.inj hpinned
      exact (avoids_parseSigningKeys _ _ _).bind fun _ _ =>
        (avoids_parseCertificate _ _ _ _).bind fun _ _ => avoids_ok _

/-! ## The service -/

/-- A refusal for another identity, or other content, than what is stored. -/
def IsIdentityConflict (error : HttpException) : Prop :=
  error = conflict "MATRIX_CROSS_SIGNING_REPLAY_MISMATCH" ∨
    error = conflict "MATRIX_CROSS_SIGNING_IDENTITY_CHANGE_FORBIDDEN"

theorem conflict_inj {code code' : ErrorCode} (h : conflict code = conflict code') :
    js code = js code' := by
  injection h with _ hbody
  injection hbody with hentries
  injection hentries with hcode
  injection hcode with _ hcode
  injection hcode

theorem not_isIdentityConflict {error : HttpException}
    (h : (error.status == 409) = false) : ¬ IsIdentityConflict error := by
  rintro (rfl | rfl) <;> cases h

theorem not_isIdentityConflict_conflict {code : ErrorCode}
    (hreplay : js code ≠ js "MATRIX_CROSS_SIGNING_REPLAY_MISMATCH")
    (hchange : js code ≠ js "MATRIX_CROSS_SIGNING_IDENTITY_CHANGE_FORBIDDEN") :
    ¬ IsIdentityConflict (conflict code) := by
  rintro (h | h)
  · exact hreplay (conflict_inj h)
  · exact hchange (conflict_inj h)

theorem avoids_orHttp {α : Type} {toException : ErrorCode → HttpException}
    {kind : HttpException → Prop} {result : Except ErrorCode α}
    (h : ∀ code, result = .error code → ¬ kind (toException code)) :
    Avoids kind (orHttp toException result) := by
  intro error herror
  cases result with
  | ok a => cases herror
  | error code =>
    cases herror
    exact h code rfl

theorem avoids_hash {crypto : Crypto} {value : Json} :
    Avoids IsIdentityConflict
      (orHttp (fun code => .internal code) (hashMatrixCanonicalJson crypto value)) :=
  avoids_orHttp fun _ _ => not_isIdentityConflict rfl

/-- A first request is parsed, or refused for another reason. -/
theorem avoids_parseAndHash (crypto : Crypto) (body : Json × Json) (context : IdentityContext) :
    Avoids IsIdentityConflict (parseAndHash crypto scheme body context none) := by
  refine Avoids.bind (avoids_orHttp fun code hcode => ?_) fun _ _ =>
    avoids_hash.bind fun _ _ => avoids_hash.bind fun _ _ => avoids_ok _
  have hchange : code ≠ "MATRIX_CROSS_SIGNING_IDENTITY_CHANGE_FORBIDDEN" :=
    avoids_parseBootstrap _ _ _ _ _ code hcode
  rw [validationError, if_neg hchange]
  exact not_isIdentityConflict rfl

theorem avoids_createIdentity (call : IdentityCall) (context : IdentityContext)
    (request : HashedBootstrap) (db : Directory) :
    Avoids IsIdentityConflict (createIdentity call context request db) := by
  intro error herror
  unfold createIdentity at herror
  split_ifs at herror <;> cases herror <;>
    exact not_isIdentityConflict_conflict (by decide) (by decide)

theorem avoids_openContext (serverName : JsString) (call : IdentityCall) (db : Directory) :
    Avoids IsIdentityConflict (openContext serverName call db) := by
  have hforbidden : ∀ message, ¬ IsIdentityConflict (.forbidden message) :=
    fun _ => not_isIdentityConflict rfl
  have hunauthorized : ∀ message, ¬ IsIdentityConflict (.unauthorized message) :=
    fun _ => not_isIdentityConflict rfl
  refine (avoids_require (hforbidden _)).bind fun _ _ =>
    (avoids_orThrow (hforbidden _)).bind fun _ _ =>
    (avoids_require (hforbidden _)).bind fun _ _ => Avoids.bind ?_ fun _ _ =>
    (avoids_require (hunauthorized _)).bind fun _ _ =>
    (avoids_require (hunauthorized _)).bind fun _ _ =>
    (avoids_orThrow (hforbidden _)).bind fun _ _ =>
    (avoids_orThrow (hforbidden _)).bind fun _ _ => avoids_ok _
  unfold lockSubscription
  split
  · exact avoids_orThrow (hforbidden _)
  · exact avoids_ok _

theorem avoids_requireStoredCertificate (db : Directory) (userId deviceId bootstrapDeviceId : Uuid) :
    Avoids IsIdentityConflict (requireStoredCertificate db userId deviceId bootstrapDeviceId) :=
  (avoids_require (not_isIdentityConflict_conflict (by decide) (by decide))).bind fun _ _ =>
    avoids_orThrow (not_isIdentityConflict_conflict (by decide) (by decide))

/-- A bootstrap avoids what its operation avoids. -/
theorem avoids_bootstrap {call : IdentityCall} {value : Json} {db : Directory}
    (h : ∀ body context, parseBody value = .ok body →
      openContext env.matrixServerName call db = .ok context →
      Avoids IsIdentityConflict (bootstrapFor env.crypto scheme call body context db
        (db.identities.find? call.principal.id))) :
    Avoids IsIdentityConflict (bootstrap env scheme call value db) := by
  have hbad : ∀ message, ¬ IsIdentityConflict (.badRequest message) :=
    fun _ => not_isIdentityConflict rfl
  have hbody : Avoids IsIdentityConflict (parseBody value) :=
    (avoids_orThrow (hbad _)).bind fun _ _ => (avoids_require (hbad _)).bind fun _ _ =>
      (avoids_orThrow (hbad _)).bind fun _ _ => (avoids_orThrow (hbad _)).bind fun _ _ => avoids_ok _
  exact (avoids_require (not_isIdentityConflict rfl)).bind fun _ _ =>
    hbody.bind fun body hparsed =>
    (avoids_openContext _ _ _).bind fun context hcontext =>
    ((avoids_require (not_isIdentityConflict_conflict (by decide) (by decide))).bind fun _ _ =>
      h body context hparsed hcontext).bind fun _ _ =>
    (avoids_require (not_isIdentityConflict rfl)).bind fun _ _ => avoids_ok _

variable {db : Directory} {row : MatrixCrossSigningIdentity}
  {certificate : MatrixDeviceCrossSigning} {body : Json × Json} {request : HashedBootstrap}

/-- **A first request** is not refused for what is stored. -/
theorem avoids_first_bootstrap {call : IdentityCall} {value : Json}
    (hnone : db.identities.find? call.principal.id = none) :
    Avoids IsIdentityConflict (bootstrap env scheme call value db) := by
  refine avoids_bootstrap fun body context _ _ => ?_
  rw [hnone]
  exact (avoids_parseAndHash _ _ _).bind fun _ _ =>
    (avoids_createIdentity _ _ _ _).bind fun _ _ => avoids_ok _

/-- **The stored request** is not refused for what is stored. -/
theorem Inv.avoids_again (h : Inv env scheme db) {call : IdentityCall} {value : Json}
    (hrow : db.identities.find? call.principal.id = some row)
    (hstored : Stored env scheme db row certificate body request)
    (hbody : parseBody value = .ok body) :
    Avoids IsIdentityConflict (bootstrap env scheme call value db) := by
  refine avoids_bootstrap fun body' context hbody' hcontext => ?_
  obtain rfl := Except.ok.inj (hbody.symm.trans hbody')
  have hagain := h.parse_again hrow hstored (openContext_eq_ok hcontext)
  obtain ⟨hbootstrap, hcertificate⟩ := hstored.hashes_of_sameContent hagain hstored.sameContent
  rw [hrow]
  refine Avoids.bind (fun error herror => ?_) fun request' hrequest' => ?_
  · rw [hagain] at herror
    cases herror
  · obtain rfl := Except.ok.inj (hagain.symm.trans hrequest')
    refine (avoids_requireStoredCertificate _ _ _ _).bind fun found hfound => ?_
    obtain ⟨_, hdevice, hfound⟩ := bind_eq_ok.mp hfound
    rw [require_eq_ok, decide_eq_true_eq] at hdevice
    have hsame := (Option.filter_eq_some_iff.mp (orThrow_eq_ok.mp hfound)).1
    rw [hdevice, hstored.found] at hsame
    cases hsame
    refine Avoids.bind (fun error herror => ?_) fun _ _ => avoids_ok _
    rw [hbootstrap, hcertificate] at herror
    simp [require] at herror

end CrossSigning

end SinoChat
