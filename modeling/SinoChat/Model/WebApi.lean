import SinoChat.Model.Http

/-!
# HTTP, from the service to the web client

What the framework makes of an exception, and `apiRequest` of the web
client: a reply becomes its JSON value or an error. The values the client
reads out of an error body are JavaScript values; `none` is `undefined`.
-/

namespace SinoChat

open Js

/-! ## The framework -/

/-- The phrase of a status the framework puts into its own bodies. -/
def reasonPhrase : ℕ → Option String
  | 400 => some "Bad Request"
  | 401 => some "Unauthorized"
  | 403 => some "Forbidden"
  | 409 => some "Conflict"
  | _ => none

/-- The body of an exception: the object it was raised with, or one around its text. -/
def HttpException.body : HttpException → Json
  | .withBody _ body => body
  | .withMessage status message =>
    .obj ([(js "message", .str (js message))] ++
      (match reasonPhrase status with
        | some phrase => [(js "error", .str (js phrase))]
        | none => []) ++
      [(js "statusCode", Json.ofNat status)])
  | .internal _ =>
    .obj [(js "statusCode", Json.ofNat 500), (js "message", .str (js "Internal server error"))]

/-- What a request comes back with. -/
inductive HttpReply where
  /-- The caller gave up. -/
  | aborted
  | unreachable
  /-- A status and the body, where it is JSON. -/
  | answered (status : ℕ) (body : Option Json)

/-- The error as it is answered. -/
def HttpException.reply (error : HttpException) : HttpReply :=
  .answered error.status (some error.body)

/-! ## The client -/

/-- An `ApiError`; `message` is the value its text is made of. -/
structure ApiError where
  message : Json
  status : ℕ
  code : Option Json

/-- What a client operation throws: an abort, an `ApiError`, or an error of
the Matrix transport. -/
inductive ClientError where
  | abort
  | api (error : ApiError)
  | transport (code : ErrorCode)

/-- `payload?.key`. -/
def readProperty (key : JsString) : Option Json → Option Json
  | some (.obj entries) => Json.get? key entries
  | _ => none

/-- The left side of `??` counts. -/
def notNullish : Option Json → Option Json
  | some .null => none
  | value => value

/-- The left side of `||` counts. -/
def truthy : Option Json → Option Json
  | none | some .null | some (.bool false) | some (.num (.integer 0))
  | some (.num .negativeZero) | some (.str []) => none
  | value => value

/-- `payload.code ?? payload.error`. -/
def payloadCode (payload : Option Json) : Option Json :=
  match notNullish (readProperty (js "code") payload) with
  | some code => some code
  | none => readProperty (js "error") payload

/-- The message of the payload, the first one of several. -/
def payloadMessage (payload : Option Json) : Option Json :=
  match readProperty (js "message") payload with
  | some (.arr messages) => messages.head?
  | message => message

/-- **`apiRequest`**, for a request without a body. -/
def apiRequest : HttpReply → Except ClientError (Option Json)
  | .aborted => .error .abort
  | .unreachable =>
    .error (.api ⟨.str (js "No pudimos conectar con SinoChat. Revisa tu conexión."), 0,
      some (.str (js "NETWORK_ERROR"))⟩)
  | .answered status body =>
    if ¬ (200 ≤ status ∧ status ≤ 299) then
      .error (.api ⟨(truthy (payloadMessage body)).getD
        (.str (js "No pudimos completar la solicitud.")), status, payloadCode body⟩)
    else if status = 204 then .ok none
    else
      match body with
      | some value => .ok (some value)
      | none =>
        .error (.api ⟨.str (js "El servidor devolvió una respuesta inesperada."), status,
          some (.str (js "INVALID_RESPONSE"))⟩)

end SinoChat
