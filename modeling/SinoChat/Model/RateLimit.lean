import SinoChat.Common.Run
import SinoChat.Model.Http

/-!
# The rate limit of a key

`rate-limit.storage.ts`: a script that Redis runs as one command counts the hits
of a key in windows, and blocks the key when a window has too many. The numbers
of Lua are doubles, so a sum beyond `2 ^ 53` is rounded; every other number of
the script is an integer below that, and its quotients by 1000 are far enough
from the integers to be rounded up exactly.
-/

namespace SinoChat

open Js

namespace RateLimit

/-! ## Numbers -/

/-- `Number.MAX_SAFE_INTEGER`. -/
def maxSafeInteger : ℕ := 2 ^ 53 - 1

/-- An integer below `2 ^ 54` as a double: an odd one beyond `2 ^ 53` lies between two
doubles, and becomes the one with the even significand. -/
def toDouble (n : ℕ) : ℕ :=
  if n ≤ 2 ^ 53 ∨ n % 2 = 0 then n else if n % 4 = 1 then n - 1 else n + 1

/-- `math.max(1, math.ceil(ms / 1000))`. -/
def ceilSeconds (milliseconds : ℤ) : ℤ := max 1 (-(-milliseconds / 1000))

/-! ## The script -/

/-- `assertPolicy`, without the name of the throttler. -/
def assertPolicy (ttl limit blockDuration : ℕ) : Bool :=
  1 ≤ ttl && ttl ≤ maxSafeInteger && 1 ≤ limit && limit ≤ maxSafeInteger &&
    1 ≤ blockDuration && blockDuration ≤ maxSafeInteger

/-- A policy that is admitted. -/
structure Policy where
  ttl : ℕ
  limit : ℕ
  blockDuration : ℕ
  admitted : assertPolicy ttl limit blockDuration = true

/-- The hash of a key. -/
structure RateRecord where
  hits : ℕ
  windowEnd : ℕ
  blockEnd : ℕ
  deriving DecidableEq

/-- The `PEXPIREAT` of a key. -/
def RateRecord.expireAt (record : RateRecord) : ℕ := max record.windowEnd record.blockEnd

/-- What the script reads of a key that is not there. -/
def RateRecord.absent : RateRecord := ⟨0, 0, 0⟩

/-- The hit is made while the key is blocked. -/
def RateRecord.blockedAt (record : RateRecord) (now : ℕ) : Bool := record.blockEnd > now

/-- The hit begins a window. -/
def RateRecord.beginsAt (record : RateRecord) (now : ℕ) : Bool :=
  !record.blockedAt now && (record.blockEnd > 0 || record.windowEnd ≤ now)

/-- The record in the window of the hit. -/
def RateRecord.inWindow (policy : Policy) (now : ℕ) (record : RateRecord) : RateRecord :=
  if record.beginsAt now then ⟨0, toDouble (now + policy.ttl), 0⟩ else record

/-- The record with the hit counted. -/
def RateRecord.count (policy : Policy) (now : ℕ) (record : RateRecord) : RateRecord :=
  let hits := toDouble (record.hits + 1)
  { record with
    hits
    blockEnd := if hits > policy.limit then toDouble (now + policy.blockDuration)
      else record.blockEnd }

/-- The four numbers that are returned. -/
def RateRecord.reply (now : ℕ) (record : RateRecord) : List ℤ :=
  [record.hits, ceilSeconds (record.windowEnd - now),
    if record.blockedAt now then 1 else 0,
    if record.blockedAt now then ceilSeconds (record.blockEnd - now) else 0]

/-- **`RATE_LIMIT_LUA_SCRIPT`**: the record it stores and the tuple it returns. -/
def rateLimitScript (policy : Policy) (now : ℕ) (stored : Option RateRecord) :
    RateRecord × List ℤ :=
  let record := stored.getD .absent
  if record.blockedAt now then (record, record.reply now)
  else
    let counted := (record.inWindow policy now).count policy now
    (counted, counted.reply now)

/-! ## The parser -/

/-- What the throttler is told of a request. -/
structure RateLimitRecord where
  totalHits : ℕ
  timeToExpire : ℕ
  isBlocked : Bool
  timeToBlockExpire : ℕ
  deriving DecidableEq

/-- A safe integer that is not negative. -/
def safeNat? : JsNumber → Option ℕ
  | .integer n => if 0 ≤ n ∧ n ≤ maxSafeInteger then some n.toNat else none
  | .negativeZero => some 0
  | .fraction .. => none

/-- `parseRedisRateLimitRecord` of an array, whose entries `Number` has read. -/
def parseRedisRateLimitRecord (value : List JsNumber) : Except String RateLimitRecord :=
  match value.mapM safeNat? with
  | some [totalHits, timeToExpire, isBlocked, timeToBlockExpire] => do
    require (isBlocked = 0 || isBlocked = 1) "Respuesta Redis inválida."
    return { totalHits, timeToExpire, isBlocked := isBlocked = 1, timeToBlockExpire }
  | _ => .error "Respuesta Redis inválida."

/-- A tuple that is accepted. -/
def Accepted (reply : List ℤ) : Prop :=
  ∃ record, parseRedisRateLimitRecord (reply.map .integer) = .ok record

/-- The third number of a tuple. -/
def isBlocked (reply : List ℤ) : Bool := reply[2]? = some 1

/-! ## One key over time -/

/-- A key, with the last reading of the clock. -/
structure Limiter where
  clock : ℕ
  record : Option RateRecord
  deriving DecidableEq

/-- What happened to a key. -/
inductive LimitAction where
  /-- A hit, with its answer and whether it began a window. -/
  | hit (now : ℕ) (reply : List ℤ) (begins : Bool)
  /-- The key was removed at or after its `PEXPIREAT`. -/
  | expired (now : ℕ)

/-- **The steps of a key.** The clock does not go back, and its milliseconds are
numbers that doubles hold. -/
inductive LimitStep (policy : Policy) : Limiter → LimitAction → Limiter → Prop
  | hit {w : Limiter} {now : ℕ} :
      w.clock ≤ now → now ≤ maxSafeInteger →
      LimitStep policy w
        (.hit now (rateLimitScript policy now w.record).2 ((w.record.getD .absent).beginsAt now))
        ⟨now, some (rateLimitScript policy now w.record).1⟩
  | expire {w : Limiter} {now : ℕ} {record : RateRecord} :
      w.clock ≤ now → now ≤ maxSafeInteger → w.record = some record → record.expireAt ≤ now →
      LimitStep policy w (.expired now) ⟨now, none⟩

/-- A key that was never hit. -/
def limiter (policy : Policy) : Machine Limiter LimitAction where
  init w := w.record = none
  step := LimitStep policy

/-- The hits that were not blocked, since the last one that began a window. -/
def admittedInWindow : List LimitAction → ℕ
  | [] => 0
  | .hit _ reply begins :: earlier =>
    (if begins then 0 else admittedInWindow earlier) + if isBlocked reply then 0 else 1
  | .expired _ :: earlier => admittedInWindow earlier

/-- The answers to hits at some times. -/
def replies (policy : Policy) : List ℕ → Option RateRecord → List (List ℤ)
  | [], _ => []
  | now :: later, record =>
    (rateLimitScript policy now record).2 ::
      replies policy later (some (rateLimitScript policy now record).1)

end RateLimit

end SinoChat
