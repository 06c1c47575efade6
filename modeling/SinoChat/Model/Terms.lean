import Mathlib.Algebra.Order.Ring.Int
import Mathlib.Data.Prod.Lex
import SinoChat.Common.Calendar
import SinoChat.Common.Evolve
import SinoChat.Common.Sorting
import SinoChat.Common.Timeline
import SinoChat.Common.Utf8
import SinoChat.Common.Run
import SinoChat.Model.Account
import SinoChat.Model.Rows

/-!
# The terms of use

`publish-terms.ts` with its input (`operational-input.ts`), the documents as they are served
(`legal-documents.service.ts`, its controller and the client's `loadTermsDocument`), and the
part of a registration that accepts them (`auth.service.ts`), with the triggers of the two
tables. Publication and registration hold one advisory lock from before their first query to
their commit and run serializably, so each is a step.

A time is in milliseconds and may lie before 1970.
-/

namespace SinoChat

open Js

namespace Terms

/-! ## Rows -/

/-- `text/markdown` or `text/plain`. -/
inductive SourceType where
  | markdown | plain
  deriving DecidableEq

/-- The media type as it is served. -/
def SourceType.text : SourceType → JsString
  | markdown => js "text/markdown"
  | plain => js "text/plain"

/-- A row of `terms_documents`; an old one may have no content. -/
structure TermsDocument where
  id : Uuid
  version : JsString
  contentHash : JsString
  contentType : Option SourceType
  content : Option (List UInt8)
  byteSize : Option ℕ
  effectiveAt : ℤ
  retiredAt : Option ℤ
  createdAt : ℤ
  deriving DecidableEq

/-- A row of the acceptances. -/
structure TermsAcceptance where
  id : Uuid
  userId : Uuid
  termsDocumentId : Uuid
  acceptedAt : ℤ
  ipHash : Option JsString
  deriving DecidableEq

/-- The documents, who accepted which, and the accounts. -/
structure Db where
  documents : Table Uuid TermsDocument TermsDocument.id
  acceptances : Table Uuid TermsAcceptance TermsAcceptance.id
  users : Table Uuid User User.id

/-- `sha256Hex`. -/
structure Digest where
  sha256Hex : List UInt8 → JsString
  format : ∀ bytes, fixed (times 64 isLowerHex) (sha256Hex bytes) = true

/-! ## The input of a publication -/

/-- What a command raises: the text of a plain `Error`. -/
abbrev Failure := JsString

/-- An option of the command, by its flag and its variable. -/
structure OptionDefinition where
  flag : JsString
  environmentName : JsString
  required : Bool

/-- The flag and the inline value of an argument. -/
def splitArgument (token : JsString) : JsString × Option JsString :=
  match token.dropWhile fun u => u != 0x3D with
  | [] => (token, none)
  | _ :: value => (token.takeWhile fun u => u != 0x3D, some value)

/-- The loop of `parseOptions` over the arguments. -/
def collectArguments (definitions : List OptionDefinition) :
    List JsString → List (JsString × JsString) → Except Failure (List (JsString × JsString))
  | [], found => .ok found
  | token :: rest, found =>
    if token = js "--help" ∨ token = js "-h" then collectArguments definitions rest found
    else if !(js "--").isPrefixOf token then
      .error (js "Argumento posicional inesperado: " ++ token)
    else
      let flag := (splitArgument token).1
      match definitions.find? fun d => js "--" ++ d.flag = flag with
      | none => .error (js "Argumento desconocido: " ++ flag)
      | some d =>
        if found.any fun entry => entry.1 = d.flag then
          .error (js "El argumento " ++ flag ++ js " está repetido.")
        else
          match (splitArgument token).2, rest with
          | some value, rest =>
            if value = [] then .error (js "Falta el valor de " ++ flag ++ js ".")
            else collectArguments definitions rest (found ++ [(d.flag, value)])
          | none, [] => .error (js "Falta el valor de " ++ flag ++ js ".")
          | none, value :: rest =>
            if value = [] ∨ (js "--").isPrefixOf value then
              .error (js "Falta el valor de " ++ flag ++ js ".")
            else collectArguments definitions rest (found ++ [(d.flag, value)])

/-- The value of a key. -/
def valueOf (entries : List (JsString × JsString)) (key : JsString) : Option JsString :=
  (entries.find? fun entry => entry.1 = key).map Prod.snd

/-- The value of one option, from the arguments or from the environment. -/
def resolveOption (found : List (JsString × JsString)) (environment : JsString → Option JsString)
    (d : OptionDefinition) : Except Failure (Option JsString) := do
  let argument := valueOf found d.flag
  let fromEnvironment := environment d.environmentName
  require (!(argument.isSome && fromEnvironment.any (· != []) && argument != fromEnvironment))
    (js "--" ++ d.flag ++ js " y " ++ d.environmentName ++ js " contienen valores diferentes.")
  let value := argument <|> fromEnvironment
  require (!(d.required && value.all fun v => trim v = []))
    (js "Debes indicar --" ++ d.flag ++ js " o " ++ d.environmentName ++ js ".")
  match value.filter (· != []) with
  | none => return none
  | some v => do
    require (v == trim v)
      (js "El valor de --" ++ d.flag ++ js " no puede tener espacios exteriores.")
    return some v

/-- `parseOptions`. -/
def parseOptions (argv : List JsString) (definitions : List OptionDefinition)
    (environment : JsString → Option JsString) : Except Failure (List (JsString × JsString)) := do
  let found ← collectArguments definitions argv []
  let resolved ← definitions.mapM fun d => do
    let value ← resolveOption found environment d
    return value.map fun v => (d.flag, v)
  return resolved.filterMap id

/-- The year `Date.UTC` takes a number for. -/
def utcYear (year : ℕ) : ℕ := if year ≤ 99 then 1900 + year else year

/-- The milliseconds of the digits behind the decimal point. -/
def fractionMs (digits : JsString) : ℕ := ofDigits ((digits ++ js "000").take 3)

/-- A fraction of a second and the zone: `(?:\.(\d{1,3}))?(Z|([+-])(\d{2}):(\d{2}))`. -/
structure InstantTail where
  ms : ℕ
  negative : Bool
  offsetHour : ℕ
  offsetMinute : ℕ

/-- The zone of an instant: `Z`, or an offset. -/
def zone? (ms : ℕ) (text : JsString) : Option InstantTail :=
  if text = js "Z" then some ⟨ms, false, 0, 0⟩
  else if fixed ([fun u => u == 0x2B || u == 0x2D] ++ times 2 isDigit ++ lit ":" ++
      times 2 isDigit) text then
    some ⟨ms, text.head? == some 0x2D, ofDigits ((text.drop 1).take 2), ofDigits (text.drop 4)⟩
  else none

/-- What follows the seconds: a fraction, and the zone. -/
def instantTail? : JsString → Option InstantTail
  | [] => none
  | u :: rest =>
    if u = 0x2E then
      let digits := rest.takeWhile isDigit
      if 1 ≤ digits.length ∧ digits.length ≤ 3 then
        zone? (fractionMs digits) (rest.dropWhile isDigit)
      else none
    else zone? 0 (u :: rest)

/-- `parseStrictInstant`. -/
def parseStrictInstant (raw label : JsString) : Except Failure ℤ := do
  let tail ← orThrow
    (if fixed dateTimePattern (raw.take 19) then instantTail? (raw.drop 19) else none)
    (label ++ js " debe usar ISO 8601 con Z u offset explícito.")
  let number (start width : ℕ) : ℕ := ofDigits ((raw.drop start).take width)
  let year := number 0 4
  let month := number 5 2
  let day := number 8 2
  let hour := number 11 2
  let minute := number 14 2
  let second := number 17 2
  require (1 ≤ month && month ≤ 12 && 1 ≤ day &&
      day ≤ daysInMonth (isLeapYear (utcYear year)) month && hour ≤ 23 && minute ≤ 59 &&
      second ≤ 59 && tail.offsetHour ≤ 14 && tail.offsetMinute ≤ 59 &&
      (tail.offsetHour != 14 || tail.offsetMinute == 0))
    (label ++ js " contiene una fecha u hora inválida.")
  let offset : ℤ := (tail.offsetHour * 60 + tail.offsetMinute) * 60000
  return (CivilDate.mk year month day).number * msPerDay + hour * 3600000 + minute * 60000 +
    second * 1000 + tail.ms - (if tail.negative then -offset else offset)

/-- The options of a publication, checked. -/
structure TermsPublicationInput where
  file : JsString
  version : JsString
  sourceType : SourceType
  effectiveAt : ℤ
  expectedSha256 : Option JsString

/-- The options of a publication. -/
def termsOptions : List OptionDefinition :=
  [⟨js "file", js "TERMS_DOCUMENT_FILE", true⟩,
    ⟨js "version", js "TERMS_DOCUMENT_VERSION", true⟩,
    ⟨js "type", js "TERMS_DOCUMENT_TYPE", true⟩,
    ⟨js "effective-at", js "TERMS_DOCUMENT_EFFECTIVE_AT", true⟩,
    ⟨js "expected-sha256", js "TERMS_DOCUMENT_EXPECTED_SHA256", false⟩]

/-- `/^[A-Za-z0-9][A-Za-z0-9._-]{0,31}$/`. -/
def isVersion (text : JsString) : Bool :=
  text.head?.any isAlphanumeric &&
    run (fun u => isAlphanumeric u || u == 0x2E || u == 0x5F || u == 0x2D) 0 31 text.tail

/-- `/^[a-f0-9]{64}$/`. -/
def isSha256 (text : JsString) : Bool := fixed (times 64 isLowerHex) text

/-- The source type of an option. -/
def sourceType? (text : JsString) : Option SourceType :=
  [SourceType.markdown, .plain].find? fun t => t.text = text

/-- The version is not one. -/
def invalidVersion : Failure :=
  js "La versión debe tener entre 1 y 32 caracteres alfanuméricos, punto, guion o guion bajo."

/-- `parseTermsPublicationInput`. -/
def parseTermsPublicationInput (argv : List JsString) (environment : JsString → Option JsString) :
    Except Failure TermsPublicationInput := do
  let values ← parseOptions argv termsOptions environment
  let required (flag : JsString) : JsString := (valueOf values flag).getD []
  let version := required (js "version")
  require (isVersion version) invalidVersion
  let sourceType ← orThrow (sourceType? (required (js "type")))
    (js "El tipo debe ser text/markdown o text/plain.")
  let expectedSha256 := valueOf values (js "expected-sha256")
  require (expectedSha256.all isSha256)
    (js "El SHA-256 esperado debe contener 64 caracteres hexadecimales minúsculos.")
  let effectiveAt ← parseStrictInstant (required (js "effective-at")) (js "La fecha efectiva")
  return { file := required (js "file"), version, sourceType, effectiveAt, expectedSha256 }

/-- `MAX_TERMS_BYTES`. -/
def maxTermsBytes : ℕ := 5 * 1024 * 1024

/-- `new TextDecoder("utf-8", { fatal: true }).decode(bytes)`, without a byte order mark. -/
def decodeText (bytes : List UInt8) : Option JsString :=
  (decodeUtf8 bytes).map fun text => if text.head? = some 0xFEFF then text.tail else text

/-- What is known of a document that was read. -/
structure Inspected where
  byteSize : ℕ
  sha256 : JsString

/-- `validateTermsDocument`. -/
def validateTermsDocument (digest : Digest) (bytes : List UInt8) : Except Failure Inspected := do
  require (bytes.length != 0 && bytes.length ≤ maxTermsBytes)
    (js "El documento debe ocupar entre 1 byte y 5242880 bytes.")
  let content ← orThrow (decodeText bytes) (js "El documento no contiene UTF-8 válido.")
  require (trim content != []) (js "El documento legal no puede estar vacío.")
  require (!content.contains 0) (js "El documento legal no puede contener bytes NUL.")
  return ⟨bytes.length, digest.sha256Hex bytes⟩

/-! ## The tables -/

namespace TermsDocument

/-- The document has its content. -/
def complete (d : TermsDocument) : Bool :=
  d.content.isSome && d.contentType.isSome && d.byteSize.isSome

/-- `effectiveAt <= now` and not retired at `now`. -/
def inForce (t : ℤ) : TermsDocument → Bool :=
  Timeline.covers effectiveAt retiredAt t

/-- The row after its retirement. -/
def retire (e : ℤ) (d : TermsDocument) : TermsDocument := { d with retiredAt := some e }

end TermsDocument

namespace Db

variable (db : Db)

/-- `findUnique({ where: { version } })`. -/
def findVersion (version : JsString) : Option TermsDocument :=
  db.documents.rows.find? fun d => d.version = version

/-- `orderBy: [{ effectiveAt: "desc" }, { createdAt: "desc" }]`. -/
def newestFirst (rows : List TermsDocument) : List TermsDocument :=
  rows.sortBy fun d => toLex (OrderDual.toDual d.effectiveAt, OrderDual.toDual d.createdAt)

/-- The acceptances of a document lie in its interval: the check of
`sinochat_protect_terms_acceptances_on_document_change`. -/
def protects (d : TermsDocument) : Bool :=
  db.acceptances.rows.all fun a => a.termsDocumentId != d.id || d.inForce a.acceptedAt

/-- An insertion with the constraints of the table. -/
def insertDocument (d : TermsDocument) : Except Failure Db :=
  if h : db.documents.find? d.id = none then do
    require (db.documents.rows.all fun other => other.version != d.version)
      (js "Unique constraint failed: version")
    require (db.documents.rows.all fun other => other.contentHash != d.contentHash)
      (js "Unique constraint failed: content_hash")
    require (isSha256 d.contentHash && d.content.any fun bytes => d.byteSize = some bytes.length &&
        1 ≤ bytes.length && bytes.length ≤ maxTermsBytes)
      (js "terms_documents_exact_content_check")
    require (db.protects d) (js "terms document change would invalidate an existing acceptance")
    return { db with documents := db.documents.insert d h }
  else .error (js "Unique constraint failed: id")

theorem retire_id (e : ℤ) (d : TermsDocument) : (d.retire e).id = d.id := rfl

/-- The retirement of a document that is open, with the triggers of the table. -/
def retireDocument (id : Uuid) (e : ℤ) : Except Failure Db := do
  let d ← orThrow ((db.documents.find? id).filter fun d => d.retiredAt = none)
    (js "La versión anterior cambió durante la publicación.")
  require (d.effectiveAt < e) (js "published terms content is immutable")
  require (db.protects (d.retire e))
    (js "terms document change would invalidate an existing acceptance")
  return { db with documents := db.documents.update id (TermsDocument.retire e) (retire_id e) }

end Db

/-! ## The publication -/

/-- What the command reports. -/
structure PublicationResult where
  created : Bool
  document : TermsDocument
  previousRetired : Option TermsDocument

/-- The row of a new document. -/
def newDocument (digest : Digest) (input : TermsPublicationInput) (bytes : List UInt8) (id : Uuid)
    (createdAt : ℤ) : TermsDocument where
  id := id
  version := input.version
  contentHash := digest.sha256Hex bytes
  contentType := some input.sourceType
  content := some bytes
  byteSize := some bytes.length
  effectiveAt := input.effectiveAt
  retiredAt := none
  createdAt := createdAt

/-- The version exists with these bytes and this date. -/
def samePublication (input : TermsPublicationInput) (bytes : List UInt8) (inspected : Inspected)
    (d : TermsDocument) : Bool :=
  d.contentHash == inspected.sha256 && d.contentType == some input.sourceType &&
    d.byteSize == some inspected.byteSize && d.content == some bytes &&
    d.effectiveAt == input.effectiveAt

/-- The retirement of the open document. -/
def retireOpen (db : Db) (openDocument : Option TermsDocument) (e : ℤ) :
    Except Failure (Db × Option TermsDocument) :=
  match openDocument with
  | none => .ok (db, none)
  | some d => do
    require (d.effectiveAt < e) (js "El retiro debe ser posterior a la activación anterior.")
    let db' ← db.retireDocument d.id e
    return (db', some (d.retire e))

/-- The history has overlapping windows. -/
def multipleOpen : Failure :=
  js "Hay más de una versión abierta o superpuesta; corrige el historial antes de publicar."

/-- The transaction of `publishTerms` behind the check of the version. -/
def publishNew (db : Db) (d : TermsDocument) : Except Failure (Db × PublicationResult) := do
  let e := d.effectiveAt
  match db.documents.rows.find? fun other => other.contentHash = d.contentHash with
  | some same =>
    .error (js "El mismo contenido ya fue publicado como versión " ++ same.version ++ js ".")
  | none =>
    let latest := (Db.newestFirst db.documents.rows).head?
    let openDocuments := (Db.newestFirst (db.documents.rows.filter fun other =>
      other.retiredAt = none)).take 2
    let overlapping := db.documents.count (TermsDocument.inForce e)
    require (openDocuments.length ≤ 1 && overlapping ≤ 1) multipleOpen
    require (latest.all fun l => l.effectiveAt < e)
      (js "La fecha efectiva debe ser posterior a la última versión publicada.")
    require (latest.all fun l => openDocuments.head?.all fun o => l.id == o.id)
      (js "La versión sin retiro no es la última del historial.")
    require (latest.all fun l => l.retiredAt.all (· ≤ e))
      (js "La nueva vigencia se superpone con un retiro ya inmutable.")
    let retired ← retireOpen db openDocuments.head? e
    let db' ← retired.1.insertDocument d
    return (db', ⟨true, d, retired.2⟩)

/-- The transaction of `publishTerms`. -/
def publishVersion (digest : Digest) (db : Db) (input : TermsPublicationInput) (bytes : List UInt8)
    (inspected : Inspected) (id : Uuid) (createdAt : ℤ) : Except Failure (Db × PublicationResult) :=
  match db.findVersion input.version with
  | some existing =>
    if samePublication input bytes inspected existing then .ok (db, ⟨false, existing, none⟩)
    else .error (js "La versión ya existe con otro hash o fecha efectiva.")
  | none => publishNew db (newDocument digest input bytes id createdAt)

/-- `publishTerms`, of the bytes of the file. -/
def publishTerms (digest : Digest) (db : Db) (input : TermsPublicationInput) (bytes : List UInt8)
    (id : Uuid) (createdAt : ℤ) : Except Failure (Db × PublicationResult) := do
  let inspected ← validateTermsDocument digest bytes
  require (input.expectedSha256.all (· == inspected.sha256))
    (js "El SHA-256 calculado no coincide con TERMS_DOCUMENT_EXPECTED_SHA256.")
  publishVersion digest db input bytes inspected id createdAt

/-! ## The documents as they are served -/

/-- A document as the API serves it. -/
structure ServedTermsDocument where
  version : JsString
  contentHash : JsString
  contentType : SourceType
  content : List UInt8
  byteSize : ℕ
  effectiveAt : ℤ
  retiredAt : Option ℤ
  deriving DecidableEq

/-- `assertComplete`. -/
def assertComplete (d : TermsDocument) : Except HttpException ServedTermsDocument :=
  match d.contentType, d.content, d.byteSize with
  | some contentType, some content, some byteSize =>
    if content.length = byteSize then
      .ok { version := d.version, contentHash := d.contentHash, contentType, content, byteSize,
            effectiveAt := d.effectiveAt, retiredAt := d.retiredAt }
    else .error (.withMessage 503 "El documento legal publicado está incompleto.")
  | _, _, _ => .error (.withMessage 503 "El documento legal publicado está incompleto.")

/-- The document in force: the query of `currentTerms` and of `currentTermsInTransaction`. -/
def Db.termsInForce (db : Db) (now : ℤ) : Option TermsDocument :=
  (Db.newestFirst (db.documents.rows.filter fun d => d.complete && d.inForce now)).head?

/-- No document is in force yet. -/
def notPublished : HttpException :=
  .withMessage 503 "Los términos vigentes todavía no fueron publicados."

/-- There is no such version. -/
def notAvailable : HttpException :=
  .withMessage 404 "La versión de términos no está disponible."

/-- `currentTerms`. -/
def currentTerms (db : Db) (now : ℤ) : Except HttpException ServedTermsDocument := do
  let document ← orThrow (db.termsInForce now) notPublished
  assertComplete document

/-- `termsByVersion`. -/
def termsByVersion (db : Db) (version : JsString) : Except HttpException ServedTermsDocument := do
  let document ← orThrow ((db.findVersion version).filter fun d => d.content.isSome) notAvailable
  assertComplete document

/-- What the client reads of a response. -/
structure TermsResponse where
  version : Option JsString
  sha256 : Option JsString
  body : List UInt8

/-- `send`. -/
def send (document : ServedTermsDocument) : TermsResponse :=
  ⟨some document.version, some document.contentHash, document.content⟩

/-- What the client raises: a text, a status and a code. -/
structure ApiError where
  message : JsString
  status : ℕ
  code : JsString
  deriving DecidableEq

/-- A document as the client shows it. -/
structure PublicTermsDocument where
  content : JsString
  contentHash : JsString
  version : JsString
  deriving DecidableEq

/-- `loadTermsDocument`, of a successful response. -/
def loadTermsDocument (digest : Digest) (response : TermsResponse) :
    Except ApiError PublicTermsDocument := do
  let unverifiable := ApiError.mk
    (js "El documento de términos no incluye una identidad verificable.") 503
    (js "TERMS_IDENTITY_UNAVAILABLE")
  let version ← orThrow (response.version.filter isVersion) unverifiable
  let expectedHash ← orThrow (response.sha256.filter isSha256) unverifiable
  require (digest.sha256Hex response.body == expectedHash)
    ⟨js "La verificación de integridad de los términos falló.", 503, js "TERMS_INTEGRITY_FAILED"⟩
  let content ← orThrow (decodeText response.body)
    ⟨js "El documento de términos no contiene texto UTF-8 válido.", 503,
      js "TERMS_ENCODING_INVALID"⟩
  return ⟨content, expectedHash, version⟩

/-! ## The registration -/

/-- Who registers. -/
inductive Registrant where
  | cashier | client
  deriving DecidableEq

/-- The role of the account that is made. -/
def Registrant.role : Registrant → UserRole
  | cashier => .cashier
  | client => .client

/-- The account as it is created. -/
def Registrant.account (registrant : Registrant) (id : Uuid) : User where
  id := id
  role := registrant.role
  status := match registrant with
    | .cashier => .pending
    | .client => .active
  passwordResetRequired := false
  sessionVersion := 1

/-- What a registration says of the terms. -/
structure TermsInput where
  termsAccepted : Bool
  termsVersion : JsString
  termsContentHash : JsString
  deriving DecidableEq

/-- `TERMS_DOCUMENT_CHANGED`. -/
def termsChanged : HttpException :=
  .withBody 409 (.obj [(js "code", .str (js "TERMS_DOCUMENT_CHANGED")), (js "message", .str
    (js "Los términos cambiaron. Carga, lee y acepta la versión vigente antes de registrarte."))])

/-- `assertAcceptedTerms`. -/
def assertAcceptedTerms (current : TermsDocument) (input : TermsInput) :
    Except HttpException Unit :=
  require (current.version == input.termsVersion && current.contentHash == input.termsContentHash)
    termsChanged

/-- `acceptedTermsIdentity`. -/
def Db.acceptedTermsIdentity (db : Db) (version : JsString) : Option TermsDocument :=
  db.documents.rows.find? fun d => d.version = version && d.complete

/-- The answer where there is no such document. -/
def Registrant.unavailable : Registrant → HttpException
  | cashier => .badRequest "La invitación no es válida o el registro no está disponible."
  | client => .badRequest "El registro está temporalmente deshabilitado."

/-- What a registration asks of the terms before its transaction. -/
def checkTerms (db : Db) (registrant : Registrant) (input : TermsInput) :
    Except HttpException Unit := do
  require input.termsAccepted (.badRequest "Debes aceptar los términos.")
  let terms ← orThrow (db.acceptedTermsIdentity input.termsVersion) registrant.unavailable
  assertAcceptedTerms terms input

/-- An acceptance, with the trigger and the constraints of the table. -/
def Db.accept (db : Db) (a : TermsAcceptance) : Except HttpException Db :=
  if h : db.acceptances.find? a.id = none then do
    let d ← orThrow (db.documents.find? a.termsDocumentId)
      (.internal "referenced terms document does not exist")
    require (d.inForce a.acceptedAt)
      (.internal "terms acceptance must fall inside [effective_at, retired_at)")
    require (db.acceptances.rows.all fun other =>
        other.userId != a.userId || other.termsDocumentId != a.termsDocumentId)
      (.internal "Unique constraint failed.")
    return { db with acceptances := db.acceptances.insert a h }
  else .error (.internal "Unique constraint failed.")

/-- The ids of the rows of a registration and the hash of its address. -/
structure RegistrationIds where
  userId : Uuid
  acceptanceId : Uuid
  ipHash : Option JsString

/-- The transaction of `registerCashier` and `registerClient`: the terms, the account and its
acceptance, and what the rest of the transaction raises. -/
def register (db : Db) (registrant : Registrant) (input : TermsInput)
    (rest : Except HttpException Unit) (now : ℤ) (ids : RegistrationIds) :
    Except HttpException Db := do
  let terms ← orThrow (db.termsInForce now)
    (.badRequest "El registro está temporalmente deshabilitado.")
  assertAcceptedTerms terms input
  let users ← db.users.create (registrant.account ids.userId)
  let db' ← { db with users }.accept
    { id := ids.acceptanceId, userId := ids.userId, termsDocumentId := terms.id,
      acceptedAt := now, ipHash := ids.ipHash }
  rest
  return db'

/-! ## The machine -/

/-- What happens: the other services change the accounts, a command publishes, or somebody
registers. -/
inductive Event where
  | accounts
  | published (input : TermsPublicationInput) (bytes : List UInt8)
      (outcome : Except Failure PublicationResult)
  | registered (registrant : Registrant) (input : TermsInput) (now : ℤ) (userId : Uuid)
      (outcome : Except HttpException Unit)

/-- The other services create administrators and keep every account and its role. -/
def KeepsAccounts (users users' : Table Uuid User User.id) : Prop :=
  users.Evolves (fun u u' => u'.role = u.role) (fun u => u.role = .admin) users'

/-- The state after a transaction. -/
def committed {ε α : Type} (db : Db) : Except ε (Db × α) → Db
  | .ok (db', _) => db'
  | .error _ => db

/-- A step of the lifecycle. -/
inductive Step (digest : Digest) : Db → Event → Db → Prop
  | accounts {db : Db} {users : Table Uuid User User.id} : KeepsAccounts db.users users →
      Step digest db .accounts { db with users }
  | published {db : Db} {argv : List JsString} {environment : JsString → Option JsString}
      {input : TermsPublicationInput} {bytes : List UInt8} {id : Uuid} {createdAt : ℤ}
      {outcome : Except Failure (Db × PublicationResult)} :
      parseTermsPublicationInput argv environment = .ok input →
      publishTerms digest db input bytes id createdAt = outcome →
      Step digest db (.published input bytes (outcome.map Prod.snd)) (committed db outcome)
  | registered {db : Db} {registrant : Registrant} {input : TermsInput}
      {rest : Except HttpException Unit} {now : ℤ} {ids : RegistrationIds}
      {outcome : Except HttpException Db} :
      register db registrant input rest now ids = outcome →
      Step digest db (.registered registrant input now ids.userId (outcome.map fun _ => ()))
        (committed db (outcome.map fun db' => (db', ())))

/-- The lifecycle of the terms, from tables without rows but administrators. -/
def lifecycle (digest : Digest) : Machine Db Event where
  init db := db.documents = Table.empty ∧ db.acceptances = Table.empty ∧
    ∀ u ∈ db.users, u.role = .admin
  step := Step digest

end Terms

end SinoChat
