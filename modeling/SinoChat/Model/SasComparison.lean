import Mathlib.Data.Rat.Defs
import Mathlib.Algebra.Order.Ring.Rat
import SinoChat.Common.JsonText
import SinoChat.Common.Run
import SinoChat.Model.Http

/-!
# The SAS comparison controller

`matrixSasComparison.ts`: the controller shows the decimals of a SAS verification
and confirms, cancels or ends it. An operation runs under the exclusive queue of
the crypto machine, in stretches: what lies between two awaits is one step, and
between two steps anything may happen, the SAS object included. Its getters do not
raise; its other methods may.
-/

namespace SinoChat

open Js

namespace SasComparison

/-! ## Values -/

/-- `MatrixSasComparisonScope`. -/
structure MatrixSasComparisonScope where
  userId : JsString
  deviceId : JsString
  otherDeviceId : JsString
  flowId : JsString
  expiresAtMs : ℤ

/-- The readings of the two clocks, where they are finite. -/
structure Clock where
  wall : Option ℚ
  monotonic : Option ℚ

/-- The identity of a displayed comparison: `crypto.randomUUID`. -/
abbrev ComparisonId := ℕ

/-- Three displayed numbers. -/
structure Decimals where
  first : ℕ
  second : ℕ
  third : ℕ
  deriving DecidableEq

/-- The terminal states. -/
inductive Terminal where
  | cancelled | expired | failed | closed
  deriving DecidableEq

/-- `MatrixSasComparisonView`. -/
inductive MatrixSasComparisonView where
  | waiting
  | waitingPeer
  | comparisonComplete
  | ended (state : Terminal)
  | compare (comparisonId : ComparisonId) (decimals : Decimals)
  deriving DecidableEq

/-- What the getters of the SAS object answer, and whether `cancelWithCode` raises
or returns a request. -/
structure Sas where
  userId : JsString
  deviceId : JsString
  otherUserId : JsString
  otherDeviceId : JsString
  roomId : Option JsString
  flowId : JsString
  isSelfVerification : Bool
  startedFromRequest : Bool
  timedOut : Bool
  isCancelled : Bool
  isDone : Bool
  haveWeConfirmed : Bool
  canBePresented : Bool
  decimals : Option (List ℕ)
  cancelRaises : Bool

/-- A request of the SDK; a wrapper without an id has the empty text. -/
structure SasRequest where
  isToDevice : Bool
  id : JsString
  eventType : JsString
  body : JsString

/-! ## The controller -/

/-- The fields of the controller that change. -/
structure Controller where
  cancelRequested : Option JsString
  terminal : Option Terminal
  displayed : Option (ComparisonId × Decimals)
  confirmedHere : Bool
  freed : Bool
  closing : Bool
  /-- The deadline timer is set. -/
  timer : Bool

/-- What is fixed by the constructor. -/
structure Comparison where
  scope : MatrixSasComparisonScope
  startedAt : ℚ
  duration : ℚ
  /-- How `JSON.parse` reads numbers. -/
  round : JsString → JsNumber

/-- The user id of a scope. -/
def isUserId (text : JsString) : Bool :=
  fixed (lit "@u" ++ times 32 isLowerHex ++ lit ":") (text.take 35) &&
    run (fun u => !isSpace u && u != 0x2F && u != 0x40) 1 255 (text.drop 35)

/-- The device id of a scope. -/
def isDeviceId : JsString → Bool := fixed (lit "D" ++ times 32 isUpperHex)

/-- The flow id of a scope. -/
def isFlowId : JsString → Bool :=
  run (fun u => isAlphanumeric u || (js "._~-").contains u) 1 255

/-- The checks of the constructor. -/
def scopeValid (scope : MatrixSasComparisonScope) (now startedAt : Option ℚ) : Bool :=
  isUserId scope.userId && isDeviceId scope.deviceId && isDeviceId scope.otherDeviceId &&
    scope.deviceId != scope.otherDeviceId && isFlowId scope.flowId &&
    (JsNumber.integer scope.expiresAtMs).isSafeInteger &&
    now.any (fun now => 0 < (scope.expiresAtMs : ℚ) - now &&
      (scope.expiresAtMs : ℚ) - now ≤ 600000) &&
    startedAt.isSome

/-- The constructor. -/
def construct (round : JsString → JsNumber) (scope : MatrixSasComparisonScope) (clock : Clock) :
    Except ErrorCode (Comparison × Controller) := do
  require (scopeValid scope clock.wall clock.monotonic) "MATRIX_SAS_SCOPE_INVALID"
  let comparison : Comparison :=
    { scope, startedAt := clock.monotonic.getD 0
      duration := scope.expiresAtMs - clock.wall.getD 0, round }
  return (comparison, { cancelRequested := none, terminal := none, displayed := none
                        confirmedHere := false, freed := false, closing := false, timer := true })

/-! ## Effects -/

/-- What an operation does to the outside. -/
inductive SasEffect where
  /-- The getters are read. -/
  | query
  /-- The decimals are read. -/
  | decimals (values : Option Decimals)
  | confirm (comparisonId : ComparisonId)
  | cancelWithCode (code : JsString)
  | free
  /-- A request is handed to the channel. -/
  | send (eventType : JsString)
  /-- An operation answers. -/
  | answered (view : MatrixSasComparisonView)
  | raised (code : ErrorCode)
  deriving DecidableEq

/-- The effect is a call of the SAS object. -/
def SasEffect.onSas : SasEffect → Bool
  | .query | .decimals _ | .confirm _ | .cancelWithCode _ | .free => true
  | .send _ | .answered _ | .raised _ => false

/-- The event that sends the codes of the keys. -/
def macEventType : JsString := js "m.key.verification.mac"

/-- The event that ends a comparison. -/
def doneEventType : JsString := js "m.key.verification.done"

/-- The event that gives a comparison up. -/
def cancelEventType : JsString := js "m.key.verification.cancel"

/-- A mac or a done request is sent. -/
def SasEffect.confirms : SasEffect → Bool
  | .send eventType => eventType = macEventType || eventType = doneEventType
  | _ => false

/-! ## The parts of the operations -/

/-- A stretch of an operation: the controller it leaves, its effects, the oldest
first, and its result. -/
structure Stretch (α : Type) where
  controller : Controller
  effects : List SasEffect
  outcome : α

/-- `assertBound`. -/
def assertBound (scope : MatrixSasComparisonScope) (sas : Sas) : Bool :=
  List.intercalate (js "\n") [sas.userId, sas.deviceId, sas.otherUserId, sas.otherDeviceId] =
      List.intercalate (js "\n")
        [scope.userId, scope.deviceId, scope.userId, scope.otherDeviceId] &&
    sas.flowId = scope.flowId && sas.roomId.isNone && sas.isSelfVerification &&
    sas.startedFromRequest

/-- The deadline has passed, or a clock is not to be trusted. -/
def pastDeadline (comparison : Comparison) (clock : Clock) (sas : Sas) : Bool :=
  !(clock.wall.any (fun wall => wall < (comparison.scope.expiresAtMs : ℚ)) &&
    clock.monotonic.any fun monotonic => comparison.startedAt ≤ monotonic &&
      monotonic - comparison.startedAt < comparison.duration) || sas.timedOut

/-- `cancelSdkLocally`. -/
def cancelSdkLocally (code : JsString) (sas : Sas) : List SasEffect × Except ErrorCode Unit :=
  if sas.isDone || sas.isCancelled then ([.query], .ok ())
  else ([.query, .cancelWithCode code],
    if sas.cancelRaises then .error "MATRIX_SAS_OPERATION_FAILED" else .ok ())

/-- Three decimals in their range. -/
def readDecimals (values : Option (List ℕ)) : Option Decimals :=
  match values with
  | some [first, second, third] =>
    if [first, second, third].all fun n => 1000 ≤ n && n ≤ 9191 then some ⟨first, second, third⟩
    else none
  | _ => none

/-- The end of `view`: the decimals, under a new id where they changed. -/
def present (fresh : ComparisonId) (sas : Sas) (controller : Controller) :
    Stretch (Except ErrorCode MatrixSasComparisonView) :=
  match readDecimals sas.decimals with
  | none => ⟨controller, [.query, .decimals none], .error "MATRIX_SAS_DECIMALS_INVALID"⟩
  | some values =>
    let displayed := match controller.displayed with
      | some (id, shown) => if shown = values then (id, shown) else (fresh, values)
      | none => (fresh, values)
    ⟨{ controller with displayed := some displayed }, [.query, .decimals (some values)],
      .ok (.compare displayed.1 displayed.2)⟩

/-- What a stretch is told: the clocks, the SAS object and the next random id. -/
structure Surroundings where
  clock : Clock
  sas : Sas
  fresh : ComparisonId

/-- `view`. -/
def view (comparison : Comparison) (around : Surroundings) (controller : Controller) :
    Stretch (Except ErrorCode MatrixSasComparisonView) :=
  let sas := around.sas
  match controller.terminal with
  | some state => ⟨controller, [], .ok (.ended state)⟩
  | none =>
    if !assertBound comparison.scope sas then
      ⟨controller, [.query], .error "MATRIX_SAS_FLOW_MISMATCH"⟩
    else if pastDeadline comparison around.clock sas then
      let cancelled := cancelSdkLocally (js "m.timeout") sas
      ⟨{ controller with terminal := some .expired, displayed := none, timer := false },
        .query :: cancelled.1, cancelled.2.map fun _ => .ended .expired⟩
    else if controller.cancelRequested.isSome then
      ⟨controller, [.query], .ok (.ended .cancelled)⟩
    else if sas.isCancelled then
      ⟨{ controller with terminal := some .cancelled, displayed := none, timer := false },
        [.query], .ok (.ended .cancelled)⟩
    else if sas.isDone then
      if !controller.confirmedHere || !sas.haveWeConfirmed then
        ⟨controller, [.query], .error "MATRIX_SAS_UNCONFIRMED_COMPLETION"⟩
      else ⟨{ controller with displayed := none }, [.query], .ok .comparisonComplete⟩
    else if controller.confirmedHere || sas.haveWeConfirmed then
      if !controller.confirmedHere then
        ⟨controller, [.query], .error "MATRIX_SAS_UNCONFIRMED_COMPLETION"⟩
      else ⟨controller, [.query], .ok .waitingPeer⟩
    else if !sas.canBePresented then
      ⟨{ controller with displayed := none }, [.query], .ok .waiting⟩
    else present around.fresh sas controller

/-- The checks of a request in `sendRequests`. -/
def requestValid (comparison : Comparison) (cancelling : Bool) (request : SasRequest) : Bool :=
  request.isToDevice && !request.id.isEmpty &&
    (if cancelling then [cancelEventType] else [macEventType, doneEventType]).contains
      request.eventType &&
    ((parseJson comparison.round request.body).bind Json.record?).any fun body =>
      joinComma (Json.keys body) = js "messages" &&
        ((Json.get? (js "messages") body).bind Json.record?).any fun messages =>
          joinComma (Json.keys messages) = comparison.scope.userId &&
            ((Json.get? comparison.scope.userId messages).bind Json.record?).any fun devices =>
              joinComma (Json.keys devices) = comparison.scope.otherDeviceId &&
                (((Json.get? comparison.scope.otherDeviceId devices).bind Json.record?).bind
                  fun content => (Json.get? (js "transaction_id") content).bind Json.str?) =
                    some comparison.scope.flowId

/-- Where an operation waits. -/
inductive Phase where
  /-- For `sas.confirm()`. -/
  | confirming
  /-- For the channel, with the requests behind this one. -/
  | sending (rest : List SasRequest) (cancelling : Bool)
  /-- For `sendRequests` to return. -/
  | sent (cancelling : Bool)
  /-- With an error, on its way to the handler of `exclusive`. -/
  | raised (code : ErrorCode)

/-- A view that ends the loop of `sendRequests`. -/
def MatrixSasComparisonView.isEnded : MatrixSasComparisonView → Bool
  | .ended _ => true
  | _ => false

/-- The loop of `sendRequests`, to its next await. -/
def sendNext (comparison : Comparison) (around : Surroundings) (cancelling : Bool)
    (requests : List SasRequest) (controller : Controller) : Stretch Phase :=
  match requests with
  | [] => ⟨controller, [], .sent cancelling⟩
  | request :: rest =>
    if controller.terminal = some .closed || controller.terminal = some .expired then
      ⟨controller, [], .sent cancelling⟩
    else if !assertBound comparison.scope around.sas then
      ⟨controller, [.query], .raised "MATRIX_SAS_FLOW_MISMATCH"⟩
    else if cancelling then
      ⟨controller, [.query, .send request.eventType], .sending rest true⟩
    else
      let viewed := view comparison around controller
      match viewed.outcome with
      | .error code => ⟨viewed.controller, .query :: viewed.effects, .raised code⟩
      | .ok current =>
        if current.isEnded then ⟨viewed.controller, .query :: viewed.effects, .sent false⟩
        else ⟨viewed.controller, .query :: viewed.effects ++ [.send request.eventType],
          .sending rest false⟩

/-- `sendRequests`, to its first await. -/
def sendRequests (comparison : Comparison) (around : Surroundings) (cancelling : Bool)
    (requests : List SasRequest) (controller : Controller) : Stretch Phase :=
  if requests.all (requestValid comparison cancelling) then
    sendNext comparison around cancelling requests controller
  else ⟨controller, [], .raised "MATRIX_SAS_OUTGOING_INVALID"⟩

/-! ## Operations -/

/-- What waits in the queue. -/
inductive Operation where
  | read
  | confirm (comparisonId : ComparisonId)
  | cancel
  | close
  /-- What the timer leaves to do. -/
  | timeout
  deriving DecidableEq

/-- Where a stretch ends: the operation is over, or waits. -/
abbrev Next := Option Phase

/-- An operation that answers a view. -/
def answerView (viewed : Stretch (Except ErrorCode MatrixSasComparisonView)) : Stretch Next :=
  match viewed.outcome with
  | .ok current => ⟨viewed.controller, viewed.effects ++ [.answered current], none⟩
  | .error code => ⟨viewed.controller, viewed.effects, some (.raised code)⟩

/-- The operation of `confirm`, to `sas.confirm()`. -/
def runConfirm (comparison : Comparison) (around : Surroundings) (comparisonId : ComparisonId)
    (controller : Controller) : Stretch Next :=
  let viewed := view comparison around controller
  match viewed.outcome with
  | .error code => ⟨viewed.controller, viewed.effects, some (.raised code)⟩
  | .ok current =>
    match current, controller.displayed with
    | .compare id _, some (shown, _) =>
      if comparisonId = shown && id = comparisonId then
        ⟨{ viewed.controller with displayed := none, confirmedHere := true },
          viewed.effects ++ [.confirm comparisonId], some .confirming⟩
      else ⟨viewed.controller, viewed.effects, some (.raised "MATRIX_SAS_COMPARISON_STALE")⟩
    | _, _ => ⟨viewed.controller, viewed.effects, some (.raised "MATRIX_SAS_COMPARISON_STALE")⟩

/-- The operation of `cancelWithCode`, to its first await; `request` is what the SAS
object returns. -/
def runCancel (comparison : Comparison) (around : Surroundings) (request : Option SasRequest)
    (controller : Controller) : Stretch Next :=
  let viewed := view comparison around controller
  match viewed.outcome with
  | .error code => ⟨viewed.controller, viewed.effects, some (.raised code)⟩
  | .ok current =>
    if viewed.controller.terminal.isSome then
      ⟨viewed.controller, viewed.effects ++ [.answered current], none⟩
    else
      let controller :=
        { viewed.controller with displayed := none, terminal := some .cancelled, timer := false }
      let effects := viewed.effects ++
        [.cancelWithCode (controller.cancelRequested.getD [])]
      if around.sas.cancelRaises then
        ⟨controller, effects, some (.raised "MATRIX_SAS_OPERATION_FAILED")⟩
      else
        match request with
        | none => ⟨controller, effects ++ [.answered (.ended .cancelled)], none⟩
        | some request =>
          let sending := sendRequests comparison around true [request] controller
          ⟨sending.controller, effects ++ sending.effects, some sending.outcome⟩

/-- The operation of `close`. -/
def runClose (around : Surroundings) (controller : Controller) : Stretch Next :=
  if controller.freed then ⟨controller, [], none⟩
  else ⟨{ controller with freed := true }, (cancelSdkLocally (js "m.user") around.sas).1 ++ [.free],
    none⟩

/-- What the timer leaves to do under the queue. -/
def runTimeout (around : Surroundings) (controller : Controller) : Stretch Next :=
  if !controller.freed && controller.terminal = some .expired then
    ⟨controller, (cancelSdkLocally (js "m.timeout") around.sas).1, none⟩
  else ⟨controller, [], none⟩

/-- The handler of `exclusive`. -/
def handle (code : ErrorCode) (around : Surroundings) (controller : Controller) : Stretch Next :=
  if code = "MATRIX_SAS_COMPARISON_STALE" then ⟨controller, [.raised code], none⟩
  else
    let controller := { controller with
      terminal := if controller.terminal.isNone && controller.cancelRequested.isNone
        then some .failed else controller.terminal
      displayed := none }
    if controller.terminal = some .failed then
      ⟨{ controller with timer := false },
        (cancelSdkLocally (js "m.user") around.sas).1 ++ [.raised code], none⟩
    else ⟨controller, [.raised code], none⟩

/-- The first stretch of an operation. -/
def runOperation (comparison : Comparison) (around : Surroundings) (request : Option SasRequest)
    (operation : Operation) (controller : Controller) : Stretch Next :=
  match operation with
  | .read => answerView (view comparison around controller)
  | .confirm comparisonId => runConfirm comparison around comparisonId controller
  | .cancel => runCancel comparison around request controller
  | .close => runClose around controller
  | .timeout => runTimeout around controller

/-- What an await comes back with: the requests of `sas.confirm()`, nothing, or an error. -/
inductive Resumed where
  | requests (requests : List SasRequest)
  | done
  | raised (code : ErrorCode)

/-- A stretch behind an await. -/
def resume (comparison : Comparison) (around : Surroundings) (phase : Phase) (resumed : Resumed)
    (controller : Controller) : Stretch Next :=
  match phase, resumed with
  | .raised code, _ => handle code around controller
  | _, .raised code => ⟨controller, [], some (.raised code)⟩
  | .confirming, .requests requests =>
    let sending := sendRequests comparison around false requests controller
    ⟨sending.controller, sending.effects, some sending.outcome⟩
  | .sending rest cancelling, _ =>
    let sending := sendNext comparison around cancelling rest controller
    ⟨sending.controller, sending.effects, some sending.outcome⟩
  | .sent true, _ => ⟨controller, [.answered (.ended .cancelled)], none⟩
  | .sent false, _ => answerView (view comparison around controller)
  | .confirming, .done => ⟨controller, [], some (.raised "MATRIX_SAS_OPERATION_FAILED")⟩

/-! ## What happens outside the queue -/

/-- The part of `cancelWithCode` in front of the queue. -/
def requestCancel (code : JsString) (controller : Controller) : Controller :=
  if controller.terminal.isSome then controller
  else { controller with
    cancelRequested := controller.cancelRequested.or (some code), displayed := none }

/-- The part of `close` in front of the queue. -/
def requestClose (controller : Controller) : Controller :=
  { controller with terminal := some .closed, timer := false, displayed := none, closing := true }

/-- The deadline timer. -/
def expire (controller : Controller) : Controller :=
  { controller with terminal := some .expired, displayed := none, timer := false }

/-! ## The machine -/

/-- The controller, what waits in the queue, what runs, and the ids that were drawn. -/
structure World where
  controller : Controller
  queue : List Operation
  running : Option Phase
  drawn : List ComparisonId

/-- What is called, and what runs. -/
inductive SasAction where
  | called (operation : Operation)
  | timedOut
  /-- A stretch of an operation. -/
  | ran (effects : List SasEffect)
  deriving DecidableEq

/-- What a stretch did. -/
def SasAction.effects : SasAction → List SasEffect
  | .ran effects => effects
  | _ => []

/-- The effects of a run, the oldest first. -/
def history : List SasAction → List SasEffect
  | [] => []
  | action :: earlier => history earlier ++ action.effects

/-- The state behind a stretch. -/
def World.after (w : World) (stretch : Stretch Next) (fresh : ComparisonId) (queue : List Operation) :
    World :=
  { controller := stretch.controller, queue, running := stretch.outcome, drawn := fresh :: w.drawn }

/-- **The steps of a comparison.** One operation runs at a time; the queue may take
them in any order. A random id is one that was not drawn before. -/
inductive SasStep (comparison : Comparison) : World → SasAction → World → Prop
  | read {w : World} :
      SasStep comparison w (.called .read) { w with queue := .read :: w.queue }
  | confirm {w : World} {comparisonId : ComparisonId} :
      SasStep comparison w (.called (.confirm comparisonId))
        { w with queue := .confirm comparisonId :: w.queue }
  /-- `reject` and `cancel`. -/
  | cancel {w : World} {code : JsString} : code = js "m.mismatched_sas" ∨ code = js "m.user" →
      SasStep comparison w (.called .cancel)
        { w with controller := requestCancel code w.controller, queue := .cancel :: w.queue }
  | close {w : World} :
      SasStep comparison w (.called .close) { w with
        controller := requestClose w.controller
        queue := if w.controller.closing then w.queue else .close :: w.queue }
  /-- The timer of a comparison that has ended does nothing. -/
  | timeOut {w : World} : w.controller.timer = true → w.controller.terminal = none →
      SasStep comparison w .timedOut
        { w with controller := expire w.controller, queue := .timeout :: w.queue }
  | run {w : World} {operation : Operation} {around : Surroundings}
      {request : Option SasRequest} : w.running = none → operation ∈ w.queue →
      around.fresh ∉ w.drawn →
      SasStep comparison w
        (.ran (runOperation comparison around request operation w.controller).effects)
        (w.after (runOperation comparison around request operation w.controller) around.fresh
          (w.queue.erase operation))
  | resume {w : World} {phase : Phase} {around : Surroundings} {resumed : Resumed} :
      w.running = some phase → around.fresh ∉ w.drawn →
      SasStep comparison w (.ran (resume comparison around phase resumed w.controller).effects)
        (w.after (resume comparison around phase resumed w.controller) around.fresh w.queue)

/-- A comparison that was constructed. -/
def controller (comparison : Comparison) : Machine World SasAction where
  init w := (∃ clock, construct comparison.round comparison.scope clock =
    .ok (comparison, w.controller)) ∧ w.queue = [] ∧ w.running = none ∧ w.drawn = []
  step := SasStep comparison

end SasComparison

end SinoChat
