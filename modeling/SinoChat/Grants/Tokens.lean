import SinoChat.Client.MessageContent
import SinoChat.Contracts.Identifiers
import SinoChat.Model.Grants

/-!
# The tokens of upload grants

`verify` reads a token by its first three parts between points: the payload, a
signature, and nothing. Base64url and JSON are read as they are written, so a token
gives back the grant it was made for (`TokenLaw.roundTrip`), and a text with the
signature of a token has its payload, if the digests tell the two apart. But an empty
third part passes for a missing one, and what is behind it is not looked at: such a
text is accepted too, and these are the only others (`TokenLaw.oneForm`). Who has the
secret can sign other payloads that are read as grants; but for these two kinds, every
text that is accepted is one that was made (`ServiceLaw.produced`).
-/

namespace SinoChat

open Js

namespace Grants

variable {round : JsString → JsNumber} {hmac : Hmac} {isGrant : Json → Bool}
variable {invalid expired : HttpException} {grant value : Json} {expiresAt now : ℕ}
variable {token t payload : JsString}

/-! ## Parts -/

/-- A signature has forty-three digits. -/
theorem length_sign (payload : JsString) : (sign hmac payload).length = 43 := by
  rw [sign, length_toBase64Url, hmac.length_digest]

/-- **What `verify` reads**: a payload with its signature, behind which nothing stands, or
an empty part. -/
theorem readToken_eq_ok : readToken round hmac invalid t = .ok value ↔
    ∃ payload tail, t.splitOn 0x2E = payload :: sign hmac payload :: tail ∧ payload ≠ [] ∧
      tail.headD [] = [] ∧
      parseJson round (bufferToString (bufferFromBase64 payload)) = some value := by
  constructor
  · intro h
    obtain ⟨_, hparts, h⟩ := bind_eq_ok.mp h
    obtain ⟨_, -, h⟩ := bind_eq_ok.mp h
    obtain ⟨_, hsignature, h⟩ := bind_eq_ok.mp h
    simp only [require_eq_ok, Bool.and_eq_true, decide_eq_true_eq] at hparts hsignature
    have hvalue := orThrow_eq_ok.mp h
    rcases hsplit : t.splitOn 0x2E with _ | ⟨payload, _ | ⟨signature, tail⟩⟩
    · exact absurd hsplit (List.splitOn_ne_nil _ _)
    · rw [hsplit] at hparts
      exact absurd rfl hparts.1.2
    · rw [hsplit] at hparts hsignature hvalue
      have hback : toBase64Url (bufferFromBase64 signature) = signature := hsignature.1.1
      have hsame : bufferFromBase64 (sign hmac payload) = bufferFromBase64 signature :=
        hsignature.2
      have hsign : signature = sign hmac payload := by
        rw [← hback, ← hsame, sign, bufferFromBase64_toBase64Url]
      refine ⟨payload, tail, by rw [hsign], hparts.1.1, ?_, hvalue⟩
      have hextra : ((payload :: signature :: tail)[2]?).getD [] = [] := hparts.2
      cases tail with
      | nil => rfl
      | cons extra rest => exact hextra
  · rintro ⟨payload, tail, hsplit, hpayload, hextra, hvalue⟩
    have hsignature : sign hmac payload ≠ [] := List.ne_nil_of_length_pos (by
      rw [length_sign]
      decide)
    have hform : fixed (times 43 isBase64Url) (sign hmac payload) = true :=
      fixed_times.mpr ⟨length_sign payload, fun u hu => isBase64Url_of_mem hu⟩
    have hback : toBase64Url (bufferFromBase64 (sign hmac payload)) = sign hmac payload := by
      rw [sign, bufferFromBase64_toBase64Url]
    have hthird : ((payload :: sign hmac payload :: tail)[2]?).getD [] = [] := by
      cases tail with
      | nil => rfl
      | cons extra rest => exact hextra
    unfold readToken
    rw [hsplit]
    refine bind_eq_ok.mpr ⟨(), require_eq_ok.mpr ?_, bind_eq_ok.mpr ⟨(), require_eq_ok.mpr hform,
      bind_eq_ok.mpr ⟨(), require_eq_ok.mpr ?_, orThrow_eq_ok.mpr hvalue⟩⟩⟩
    · rw [Bool.and_eq_true, Bool.and_eq_true, decide_eq_true_eq, decide_eq_true_eq,
        decide_eq_true_eq]
      exact ⟨⟨hpayload, hsignature⟩, hthird⟩
    · simp only [List.headD_cons, List.getElem?_cons_succ, List.getElem?_cons_zero,
        Option.getD_some, hback]
      simp

/-! ## Grants that are issued -/

/-- **A grant that `create` makes**, by what is needed to read it back. -/
structure Issued (isGrant : Json → Bool) (grant : Json) (expiresAt : ℕ) : Prop where
  record : ∃ entries, grant = .obj entries
  safe : grant.Safe
  own : grant.own = grant
  isGrant : isGrant grant = true
  expiresAt : (grant.record?.bind (Json.get? (js "expiresAt"))).bind Json.num? =
    some (.integer expiresAt)

/-- The payload is read back. -/
theorem Issued.parse (h : Issued isGrant grant expiresAt) :
    parseJson round (bufferToString (bufferFromBase64 (payloadOf grant))) = some grant := by
  rw [payloadOf, bufferFromBase64_toBase64Url,
    bufferToString_of_decodeUtf8 (decodeUtf8_stringify h.safe), parseJson,
    readText_stringify h.safe, Option.map_some, h.own]

/-- What `verify` does with a value that it has read. -/
theorem verifyToken_eq_ok : verifyToken isGrant invalid expired round hmac now t = .ok value ↔
    readToken round hmac invalid t = .ok value ∧ isGrant value = true ∧
      ((value.record?.bind (Json.get? (js "expiresAt"))).bind Json.num?).any (JsNumber.leInt now) =
        false := by
  constructor
  · intro h
    obtain ⟨read, hread, h⟩ := bind_eq_ok.mp h
    obtain ⟨_, hguard, h⟩ := bind_eq_ok.mp h
    obtain rfl := Except.ok.inj h
    simp only [require_eq_ok, Bool.and_eq_true, Bool.not_eq_true'] at hguard
    exact ⟨hread, hguard⟩
  · rintro ⟨hread, hguard, htime⟩
    refine bind_eq_ok.mpr ⟨value, hread, bind_eq_ok.mpr ⟨(), require_eq_ok.mpr ?_, rfl⟩⟩
    rw [hguard, htime]
    rfl

/-! ## Texts with the signature of a token -/

/-- **The text carries the signature of a grant's token**, and the digests tell its payload
from the grant's. -/
structure Carries (hmac : Hmac) (grant : Json) (t : JsString) : Prop where
  signature : (t.splitOn 0x2E)[1]? = some (sign hmac (payloadOf grant))
  separates :
    hmac.digest (utf8 ((t.splitOn 0x2E).headD [])) = hmac.digest (utf8 (payloadOf grant)) →
      utf8 ((t.splitOn 0x2E).headD []) = utf8 (payloadOf grant)

/-- What follows a token in another text that `verify` reads like it: a point, and then
nothing or another point. -/
def Dotted (token t : JsString) : Prop :=
  ∃ rest, t = token ++ js "." ++ rest ∧ (rest = [] ∨ ∃ junk, rest = js "." ++ junk)

/-- A token with more points is another one. -/
theorem Dotted.ne (h : Dotted token t) : t ≠ token := by
  obtain ⟨rest, rfl, -⟩ := h
  intro heq
  have hlength := congrArg List.length heq
  have hpoint : (js ".").length = 1 := by decide
  simp only [List.length_append, hpoint] at hlength
  omega

/-- **The text has the parts of a live grant**: a payload that reads as one, its own
signature, and behind it nothing, or an empty part. -/
structure Parts (round : JsString → JsNumber) (hmac : Hmac) (isGrant : Json → Bool) (now : ℕ)
    (t payload : JsString) (tail : List JsString) : Prop where
  split : t.splitOn 0x2E = payload :: sign hmac payload :: tail
  nonempty : payload ≠ []
  extra : tail.headD [] = []
  live : ∃ value, parseJson round (bufferToString (bufferFromBase64 payload)) = some value ∧
    isGrant value = true ∧
    ((value.record?.bind (Json.get? (js "expiresAt"))).bind Json.num?).any (JsNumber.leInt now) =
      false

/-- **A token that is read is let in until it expires.** -/
theorem Issued.verify (h : Issued isGrant grant expiresAt)
    (hread : readToken round hmac invalid t = .ok grant) :
    verifyToken isGrant invalid expired round hmac now t =
      if now < expiresAt then .ok grant else .error expired := by
  rw [verifyToken, hread]
  show (require (isGrant grant && !((grant.record?.bind (Json.get? (js "expiresAt"))).bind
    Json.num?).any (JsNumber.leInt now)) expired >>= fun _ => pure grant) = _
  rw [h.isGrant, h.expiresAt]
  by_cases hnow : now < expiresAt
  · have hle : ¬ expiresAt ≤ now := by omega
    simp [JsNumber.leInt, require, hnow, hle, bind, Except.bind, pure, Except.pure]
  · have hle : expiresAt ≤ now := by omega
    simp [JsNumber.leInt, require, hnow, hle, bind, Except.bind]

/-- And what has them is accepted. -/
theorem Parts.verify {tail : List JsString} (h : Parts round hmac isGrant now t payload tail) :
    ∃ value, verifyToken isGrant invalid expired round hmac now t = .ok value := by
  obtain ⟨value, hvalue, hguard, htime⟩ := h.live
  exact ⟨value, verifyToken_eq_ok.mpr ⟨readToken_eq_ok.mpr
    ⟨payload, tail, h.split, h.nonempty, h.extra, hvalue⟩, hguard, htime⟩⟩

/-- A pattern of wider classes accepts what another does. -/
theorem fixed_mono {cs ds : List CharClass} {s : JsString}
    (h : List.Forall₂ (fun c d => ∀ u, c u = true → d u = true) cs ds)
    (hs : fixed cs s = true) : fixed ds s = true := by
  induction h generalizing s with
  | nil => exact hs
  | cons hclass _ ih =>
    cases s with
    | nil => simp at hs
    | cons u us =>
      obtain ⟨hu, hus⟩ := fixed_cons.mp hs
      exact fixed_cons.mpr ⟨hclass u hu, ih hus⟩

/-- The ids that are made are of the form that is asked for. -/
theorem isReservationId (id : RandomUuid) : fixed reservationIdPattern id.text = true := by
  have hhex : ∀ n, List.Forall₂ (fun c d : CharClass => ∀ u, c u = true → d u = true)
      (times n isLowerHex) (times n MessageContent.isHex) := fun n => by
    induction n with
    | zero => exact .nil
    | succ n ih => exact .cons (fun u hu => by simp [MessageContent.isHex, hu]) ih
  have hlit : ∀ text : String, List.Forall₂
      (fun c d : CharClass => ∀ u, c u = true → d u = true) (lit text) (lit text) := fun text =>
    List.forall₂_same.mpr fun _ _ _ hu => hu
  have hvariant : List.Forall₂ (fun c d : CharClass => ∀ u, c u = true → d u = true)
      [MessagePayload.isUuidVariant] [MessageContent.isVariant] := by
    refine .cons (fun u hu => ?_) .nil
    simp only [MessagePayload.isUuidVariant, Bool.or_eq_true] at hu
    simp only [MessageContent.isVariant, Bool.or_eq_true]
    tauto
  refine fixed_mono ?_ id.valid
  exact List.rel_append (List.rel_append (List.rel_append (List.rel_append (List.rel_append
    (List.rel_append (List.rel_append (List.rel_append (List.rel_append (hhex 8) (hlit _))
    (hhex 4)) (hlit _)) (hhex 3)) (hlit _)) hvariant) (hhex 3)) (hlit _)) (hhex 12)

/-- A digest in lower case. -/
theorem isSha256_toLowerCase {text : JsString}
    (h : fixed (times 64 MessageContent.isHex) text = true) :
    fixed (times 64 isLowerHex) (MessageContent.toLowerCase text) = true := by
  obtain ⟨hlength, hdigits⟩ := fixed_times.mp h
  refine fixed_times.mpr ⟨by simp [MessageContent.toLowerCase, hlength], fun v hv => ?_⟩
  obtain ⟨u, hu, rfl⟩ := List.mem_map.mp hv
  have hkelvin : u ≠ 0x212A := by
    rintro rfl
    exact absurd (hdigits _ hu) (by decide)
  have hlower : SinoChat.lowerUnit u = MessageContent.lowerUnit u := by
    simp [SinoChat.lowerUnit, MessageContent.lowerUnit, hkelvin]
  rw [← hlower]
  exact Contracts.isLowerHex_lowerUnit (hdigits u hu)

/-- The grants of uploads are issued so. -/
theorem UploadGrantService.issued (hmac : Hmac) (reservationId : RandomUuid)
    (userId conversationId : JsString) (input : RequestUploadDto) (date : JsDate) :
    let grant := (create hmac reservationId userId conversationId input date).1
    Issued UploadGrantService.isGrant grant.toJson grant.expiresAt where
  record := ⟨_, rfl⟩
  safe := by
    have := input.plaintextBounds
    have := input.ciphertextBounds
    have := date.valid
    simp only [create, UploadGrant.toJson, Json.Safe, SafeEntries, Json.ofNat, grantLifetime]
    refine ⟨by decide, trivial, trivial, trivial, trivial, trivial, ?_, ?_, trivial, ?_, trivial⟩
    all_goals
      simp only [Int.natAbs_natCast]
      omega
  own := own_obj rfl rfl rfl
  isGrant := by
    have hid := isReservationId reservationId
    have hsha := isSha256_toLowerCase input.isSha256
    have hkey : (js "ephemeral/messages/").isPrefixOf
        (js "ephemeral/messages/" ++ reservationId.text) = true :=
      List.isPrefixOf_iff_prefix.mpr (List.prefix_append _ _)
    have hmime : imageMimeTypes.contains input.declaredMimeType = true :=
      List.contains_iff_mem.mpr input.isMimeType
    show ((true && fixed reservationIdPattern reservationId.text && true &&
      (js "ephemeral/messages/").isPrefixOf (js "ephemeral/messages/" ++ reservationId.text) &&
      fixed (times 64 isLowerHex) (MessageContent.toLowerCase input.ciphertextSha256) && true) &&
      true && imageMimeTypes.contains input.declaredMimeType && true && true) = true
    rw [hid, hsha, hkey, hmime]
    rfl
  expiresAt := rfl

/-- So are those of evidence. -/
theorem EvidenceGrantService.issued (hmac : Hmac) (reservationId : RandomUuid)
    (clientUserId assignmentId conversationId : JsString) (input : RequestEvidenceUploadDto)
    (date : JsDate) :
    let grant := (create hmac reservationId clientUserId assignmentId conversationId input date).1
    Issued EvidenceGrantService.isGrant grant.toJson grant.expiresAt where
  record := ⟨_, rfl⟩
  safe := by
    have hcipher := input.ciphertextBounds
    have := input.manifestBounds
    have := date.valid
    simp only [maxReportEvidenceBytes] at hcipher
    simp only [create, EvidenceUploadGrant.toJson, Json.Safe, SafeEntries, Json.ofNat,
      grantLifetime]
    refine ⟨by decide, trivial, trivial, trivial, trivial, trivial, trivial, ?_, trivial, trivial,
      ?_, ?_, trivial⟩
    all_goals
      simp only [Int.natAbs_natCast]
      omega
  own := own_obj rfl rfl rfl
  isGrant := by
    have hid := isReservationId reservationId
    have hsha := isSha256_toLowerCase input.isSha256
    have hkey : (js "investigations/report-evidence/").isPrefixOf
        (js "investigations/report-evidence/" ++ reservationId.text) = true :=
      List.isPrefixOf_iff_prefix.mpr (List.prefix_append _ _)
    have hsize : ((JsNumber.integer input.ciphertextByteSize).isSafeInteger &&
        !(JsNumber.integer input.ciphertextByteSize).leInt 0 &&
        (JsNumber.integer input.ciphertextByteSize).leInt maxReportEvidenceBytes) = true := by
      have hcipher := input.ciphertextBounds
      simp only [maxReportEvidenceBytes] at hcipher
      simp only [JsNumber.isSafeInteger, JsNumber.leInt, maxReportEvidenceBytes, Int.natAbs_natCast,
        Bool.and_eq_true, decide_eq_true_eq, Bool.not_eq_true', decide_eq_false_iff_not]
      exact ⟨⟨by omega, by omega⟩, decide_eq_true (by exact_mod_cast hcipher.2)⟩
    have hmanifest : (!(JsNumber.integer input.manifestVersion).leInt 0) = true := by
      have := input.manifestBounds
      simp [JsNumber.leInt]
      omega
    show ((true && fixed reservationIdPattern reservationId.text && true &&
      (js "investigations/report-evidence/").isPrefixOf
        (js "investigations/report-evidence/" ++ reservationId.text) &&
      fixed (times 64 isLowerHex) (MessageContent.toLowerCase input.ciphertextSha256) && true) &&
      true && true && true &&
      ((JsNumber.integer input.ciphertextByteSize).isSafeInteger &&
        !(JsNumber.integer input.ciphertextByteSize).leInt 0 &&
        (JsNumber.integer input.ciphertextByteSize).leInt maxReportEvidenceBytes) &&
      run isCipherSuiteUnit 3 64 input.cipherSuite &&
      (true && !(JsNumber.integer input.manifestVersion).leInt 0)) = true
    rw [hid, hsha, hkey, hsize, hmanifest, input.isCipherSuite]
    rfl
  expiresAt := rfl

/-! ## Both services -/

namespace Sample

/-- The id of the reservation. -/
def reservationId : RandomUuid := ⟨js "00000000-0000-4000-8000-000000000001", by decide⟩

/-- The request of an upload. -/
def input : RequestUploadDto where
  declaredMimeType := js "image/png"
  plaintextByteSize := 100
  ciphertextByteSize := 150
  ciphertextSha256 := List.replicate 64 0x62
  isMimeType := by decide
  plaintextBounds := by decide
  ciphertextBounds := by decide
  isSha256 := by decide

/-- A grant of the start of 1970. -/
def uploadGrant : UploadGrant where
  reservationId := reservationId.text
  userId := js "00000000-0000-4000-8000-000000000002"
  conversationId := js "00000000-0000-4000-8000-000000000003"
  objectKey := js "ephemeral/messages/00000000-0000-4000-8000-000000000001"
  declaredMimeType := js "image/png"
  plaintextByteSize := 100
  ciphertextByteSize := 150
  ciphertextSha256 := List.replicate 64 0x62
  expiresAt := 600000

/-- The digest of its payload under a secret of 32 times `s`. -/
def digest : List UInt8 :=
  [0xBC, 0x91, 0x8A, 0x2D, 0x8D, 0x67, 0x72, 0x77, 0xE0, 0x5B, 0x02, 0xA9, 0x1E, 0x87, 0x56,
    0x76, 0xCA, 0x34, 0x02, 0xE6, 0xA6, 0x7D, 0x80, 0x36, 0xA4, 0x79, 0x5C, 0x7E, 0xE4, 0xB2,
    0xBC, 0xFC]

/-- A digest of the payload alone. -/
def sampleHmac : Hmac where
  digest message :=
    if message = utf8 (payloadOf uploadGrant.toJson) then digest else List.replicate 32 0
  length_digest message := by split_ifs <;> rfl

/-- What the service makes of the request. -/
def creation : UploadGrant × JsString :=
  UploadGrantService.create sampleHmac reservationId uploadGrant.userId
    uploadGrant.conversationId input ⟨0, by decide⟩

/-- The grant of the sample and its token. -/
theorem created : creation = (uploadGrant, tokenOf sampleHmac uploadGrant.toJson) := by
  have hgrant : creation.1 = uploadGrant := by decide +kernel
  have htoken : creation.2 = tokenOf sampleHmac uploadGrant.toJson := by
    rw [← hgrant]
    rfl
  exact Prod.ext hgrant htoken

/-- A token of the sample, verified. -/
def verified (t : JsString) : Except HttpException Json :=
  UploadGrantService.verify (fun _ => .negativeZero) sampleHmac 1 t

end Sample

end Grants

end SinoChat
