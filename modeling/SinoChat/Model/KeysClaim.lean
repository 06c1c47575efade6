import SinoChat.Common.Run
import SinoChat.Common.Utf8
import SinoChat.Model.Coordinator
import SinoChat.Model.Service

/-!
# The key claims of a device

What lies between `sendKeysClaim` of the web client and `claimRelatedKeys`. The
crypto machine of a device gives out requests for keys of several users; the
client sends a sub-request for each user, under an id derived from both, and
merges the answers. A request that was not answered is given out again as it was.

A call of the client may be lost on the way to the service or back, and before,
between and during the calls the service makes any steps at all. A client that
stops while it waits for a call sends nothing behind it, as where the call fails.
-/

namespace SinoChat

open Js

namespace Transport

/-- The users and devices a body asks for. -/
def claimEntries (body : JsonObject) : JsonObject :=
  ((Json.get? (js "one_time_keys") body).bind Json.record?).getD []

/-- **A request of the crypto machine.** Its texts are Unicode, its id has no NUL, and its body
is a parsed object, which has a key once. -/
structure KeysClaimRequest where
  id : JsString
  body : JsonObject
  idWellFormed : WellFormed id
  idPlain : (0 : UInt16) ∉ id
  usersWellFormed : ∀ user ∈ Json.keys (claimEntries body), WellFormed user
  usersDistinct : (Json.keys (claimEntries body)).Nodup

namespace KeysClaimRequest

/-- The users of the body with their devices. -/
def entries (request : KeysClaimRequest) : JsonObject := claimEntries request.body

/-- The users of the body. -/
def users (request : KeysClaimRequest) : List JsString := Json.keys request.entries

/-- The body of the sub-request for a user. -/
def subRequestBody (request : KeysClaimRequest) (entry : JsString × Json) : JsonObject :=
  (js "one_time_keys", .obj [entry]) :: timeoutOf request.body

/-- What the id of the sub-request for a user is the digest of. -/
def subRequestText (request : KeysClaimRequest) (user : JsString) : List UInt8 :=
  utf8 (request.id ++ [0] ++ user)

end KeysClaimRequest

/-! ## The reply -/

/-- The keys of an answer, by user and device. -/
def claimedObject (keys : ClaimedKeys) : JsonObject :=
  keys.map fun user => (user.1, .obj (user.2.map fun device => (device.1, .obj [device.2])))

/-- The body of a reply to a claim. -/
def claimReply (keys : ClaimedKeys) : Json :=
  .obj [(js "failures", .obj []), (js "one_time_keys", .obj (claimedObject keys))]

/-! ## The service behind the client -/

/-- The service in a state of all there is, and what it did so far, the latest first. -/
structure Backdrop (σ : Type) where
  world : σ → World
  log : σ → List Action

/-- The service makes some steps. -/
def Backdrop.Goes {σ : Type} (B : Backdrop σ) (env : Deployment) (s : σ) (actions : List Action)
    (t : σ) : Prop :=
  (service env).Steps (B.world s) actions (B.world t) ∧ B.log t = actions ++ B.log s

namespace MatrixTransportCoordinator

variable {σ : Type} (C : MatrixTransportCoordinator σ)

/-- The id of the sub-request for a user. -/
def subRequestId (request : KeysClaimRequest) (user : JsString) : JsString :=
  deriveClaimSubRequestId C.sha256 request.id user

/-- **The endpoint is `claimRelatedKeys`**, called from a device: a call that is answered is a
claim of the service, and what else happens meanwhile is up to the service. -/
structure ClaimsFrom (env : Deployment) (B : Backdrop σ) (deviceId : Uuid) : Prop where
  digest : ∀ bytes, (C.sha256 bytes).length = 32
  claimKeys : ∀ requestId body s y t, C.transport.claimKeys requestId body s = (y, t) →
    ∃ actions, B.Goes env s actions t ∧ ∀ reply, y = .ok reply →
      ∃ call keys, Action.claimed (.related call) keys ∈ actions ∧
        call.principal.deviceId = some deviceId ∧ call.rawRequestId = requestId ∧
        call.value = .obj body ∧ reply = some (claimReply keys)

/-- **The claims of a device come from its crypto machine**: each is a sub-request, requests are
told apart by their ids, and the digest by which sub-requests are told apart has no collision
among them. -/
structure ClaimsOnly (deviceId : Uuid) (requests : KeysClaimRequest → Prop) (log : List Action) :
    Prop where
  ids : ∀ a b, requests a → requests b → a.id = b.id → a = b
  digests : ∀ a b, requests a → requests b → ∀ user ∈ a.users, ∀ user' ∈ b.users,
    C.sha256 (a.subRequestText user) = C.sha256 (b.subRequestText user') →
    a.subRequestText user = b.subRequestText user'
  claims : ∀ claim keys, Action.claimed claim keys ∈ log →
    claim.call.principal.deviceId = some deviceId → ∃ request, requests request ∧
      ∃ entry ∈ request.entries, claim.call.rawRequestId = C.subRequestId request entry.1 ∧
        claim.call.value = .obj (request.subRequestBody entry)

/-- What happens: something of which the client knows nothing, or an attempt at a request, with
what it ends with. -/
inductive ClaimEvent where
  | elsewhere
  | attempted (request : KeysClaimRequest) (outcome : Except ClientError ClaimResponse)

/-- **Attempts and all around them**, from any reachable state of the service. -/
def claiming (env : Deployment) (B : Backdrop σ) : Machine σ ClaimEvent where
  init s := (service env).Run (B.log s) (B.world s)
  step s event t :=
    match event with
    | .elsewhere => ∃ actions, B.Goes env s actions t
    | .attempted request outcome => C.sendKeysClaim request.id request.body s = (outcome, t)

end MatrixTransportCoordinator

end Transport

end SinoChat
