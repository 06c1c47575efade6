import SinoChat.Model.RateLimit

/-!
# The law of the rate limit

While a window lasts its record counts the hits that were let through, up to
the limit; the hit behind them blocks the key (`Counts`). A key past its
`PEXPIREAT` begins a window as an absent one does.
-/

namespace SinoChat

open Js

namespace RateLimit

variable {policy : Policy}

/-! ## Numbers -/

/-- The numbers of a policy are safe and positive. -/
theorem Policy.bounds (policy : Policy) :
    (1 ≤ policy.ttl ∧ policy.ttl ≤ maxSafeInteger) ∧
      (1 ≤ policy.limit ∧ policy.limit ≤ maxSafeInteger) ∧
      1 ≤ policy.blockDuration ∧ policy.blockDuration ≤ maxSafeInteger := by
  have h := policy.admitted
  simp only [assertPolicy, Bool.and_eq_true, decide_eq_true_eq] at h
  omega

/-- A safe number is exact. -/
theorem toDouble_of_le {n : ℕ} (h : n ≤ 2 ^ 53) : toDouble n = n := if_pos (.inl h)

/-- Rounding stays above what is exact. -/
theorem le_toDouble {m n : ℕ} (hm : m ≤ 2 ^ 53) (h : m ≤ n) : m ≤ toDouble n := by
  unfold toDouble
  split_ifs <;> omega

/-- Rounding stays below twice the bound. -/
theorem toDouble_le {n : ℕ} (h : n ≤ 2 ^ 54) : toDouble n ≤ 2 ^ 54 := by
  unfold toDouble
  split_ifs <;> omega

/-- The end of a span that begins at a reading of the clock lies behind it. -/
theorem lt_toDouble_add {now span : ℕ} (hnow : now ≤ maxSafeInteger) (hspan : 1 ≤ span) :
    now < toDouble (now + span) := by
  have hsafe : maxSafeInteger = 2 ^ 53 - 1 := rfl
  exact le_toDouble (by omega) (by omega)

/-- A sum of two safe numbers is bounded. -/
theorem toDouble_add_le {now span : ℕ} (hnow : now ≤ maxSafeInteger)
    (hspan : span ≤ maxSafeInteger) : toDouble (now + span) ≤ 2 ^ 54 := by
  have hsafe : maxSafeInteger = 2 ^ 53 - 1 := rfl
  exact toDouble_le (by omega)

/-- Seconds are safe integers. -/
theorem ceilSeconds_bounds {milliseconds : ℤ} (h : milliseconds ≤ 2 ^ 54) :
    0 ≤ ceilSeconds milliseconds ∧ ceilSeconds milliseconds ≤ maxSafeInteger := by
  have hsafe : (maxSafeInteger : ℤ) = 2 ^ 53 - 1 := rfl
  unfold ceilSeconds
  omega

/-! ## The invariant -/

/-- **A record of a window**: it counts the hits that were let through, of which
the last that the limit allows may be followed by a block. -/
inductive Counts (policy : Policy) (admitted : ℕ) (record : RateRecord) : Prop
  | counting (unblocked : record.blockEnd = 0) (hits : record.hits = admitted)
      (positive : 1 ≤ admitted) (limit : admitted ≤ policy.limit)
  | blocked (positive : 1 ≤ record.blockEnd) (hits : record.hits = policy.limit + 1)
      (limit : admitted ≤ policy.limit)

/-- What holds of a key and what happened to it. -/
structure LimiterInv (policy : Policy) (trace : List LimitAction) (w : Limiter) : Prop where
  admitted : admittedInWindow trace ≤ policy.limit
  counts : ∀ record, w.record = some record → Counts policy (admittedInWindow trace) record
  ends : ∀ record, w.record = some record → record.windowEnd ≤ 2 ^ 54 ∧ record.blockEnd ≤ 2 ^ 54

/-- A record counts one hit over the limit at most. -/
theorem Counts.hits_le {admitted : ℕ} {record : RateRecord} (h : Counts policy admitted record) :
    record.hits ≤ policy.limit + 1 := by
  cases h with
  | counting => omega
  | blocked => omega

/-- A reply says whether the record is blocked. -/
theorem isBlocked_reply {now : ℕ} {record : RateRecord} :
    isBlocked (record.reply now) = record.blockedAt now := by
  unfold isBlocked RateRecord.reply
  cases record.blockedAt now <;> rfl

/-- A record without a block is not blocked. -/
theorem not_blockedAt_of_zero {now : ℕ} {record : RateRecord} (h : record.blockEnd = 0) :
    record.blockedAt now = false := by
  rw [RateRecord.blockedAt, h]
  exact decide_eq_false (Nat.not_lt_zero now)

/-- The first hit of a window is let through. -/
theorem count_of_begins {now : ℕ} {record : RateRecord} (h : record.beginsAt now = true) :
    (record.inWindow policy now).count policy now = ⟨1, toDouble (now + policy.ttl), 0⟩ := by
  have hlimit := policy.bounds.2.1.1
  have hone : toDouble 1 = 1 := toDouble_of_le (by omega)
  unfold RateRecord.inWindow RateRecord.count
  rw [if_pos h]
  dsimp only
  rw [hone, if_neg (by omega)]

/-- A later hit of the window is let through while the limit allows it. -/
theorem count_of_open {now : ℕ} {record : RateRecord} (h : record.beginsAt now = false)
    (hhits : record.hits + 1 ≤ policy.limit) :
    (record.inWindow policy now).count policy now = { record with hits := record.hits + 1 } := by
  have hsafe : maxSafeInteger = 2 ^ 53 - 1 := rfl
  have hlimit := policy.bounds.2.1.2
  have hnext : toDouble (record.hits + 1) = record.hits + 1 := toDouble_of_le (by omega)
  unfold RateRecord.inWindow RateRecord.count
  rw [if_neg (by rw [h]; decide)]
  dsimp only
  rw [hnext, if_neg (by omega)]

/-- The hit behind the limit blocks the key. -/
theorem count_of_full {now : ℕ} {record : RateRecord} (h : record.beginsAt now = false)
    (hhits : record.hits = policy.limit) :
    (record.inWindow policy now).count policy now = { record with
      hits := policy.limit + 1, blockEnd := toDouble (now + policy.blockDuration) } := by
  have hsafe : maxSafeInteger = 2 ^ 53 - 1 := rfl
  have hlimit := policy.bounds.2.1.2
  have hnext : toDouble (record.hits + 1) = policy.limit + 1 := by
    rw [toDouble_of_le (by omega), hhits]
  unfold RateRecord.inWindow RateRecord.count
  rw [if_neg (by rw [h]; decide)]
  dsimp only
  rw [hnext, if_pos (by omega)]

/-! ## Steps -/

/-- What a hit does: nothing to a blocked key; else it begins a window, is let
through in the one that is open, or ends it with a block. -/
theorem hit_cases {trace : List LimitAction} {w : Limiter} {now : ℕ}
    (h : LimiterInv policy trace w) :
    ((w.record.getD .absent).blockedAt now = true ∧
        (w.record.getD .absent).beginsAt now = false ∧
        (rateLimitScript policy now w.record).1 = w.record.getD .absent ∧
        w.record = some (w.record.getD .absent)) ∨
      ((w.record.getD .absent).beginsAt now = true ∧
        (rateLimitScript policy now w.record).1 = ⟨1, toDouble (now + policy.ttl), 0⟩) ∨
      ((w.record.getD .absent).beginsAt now = false ∧ ∃ record, w.record = some record ∧
        record.blockEnd = 0 ∧ record.hits = admittedInWindow trace ∧ 1 ≤ record.hits ∧
        (record.hits + 1 ≤ policy.limit ∧ (rateLimitScript policy now w.record).1 =
            { record with hits := record.hits + 1 } ∨
          record.hits = policy.limit ∧ (rateLimitScript policy now w.record).1 =
            { record with
              hits := policy.limit + 1, blockEnd := toDouble (now + policy.blockDuration) })) := by
  cases hblocked : (w.record.getD .absent).blockedAt now with
  | true =>
    refine .inl ⟨rfl, by rw [RateRecord.beginsAt, hblocked]; rfl, ?_, ?_⟩
    · rw [rateLimitScript, if_pos hblocked]
    · cases hrecord : w.record with
      | some record => rfl
      | none =>
        rw [hrecord] at hblocked
        exact absurd (of_decide_eq_true hblocked) (Nat.not_lt_zero now)
  | false =>
    have hscript : (rateLimitScript policy now w.record).1 =
        ((w.record.getD .absent).inWindow policy now).count policy now := by
      rw [rateLimitScript, if_neg (by rw [hblocked]; decide)]
    cases hbegins : (w.record.getD .absent).beginsAt now with
    | true => exact .inr (.inl ⟨rfl, hscript.trans (count_of_begins hbegins)⟩)
    | false =>
      refine .inr (.inr ⟨rfl, ?_⟩)
      cases hrecord : w.record with
      | none =>
        rw [hrecord] at hbegins
        cases hbegins
      | some record =>
        rw [hrecord, Option.getD_some] at hscript hbegins hblocked
        have hclosed : record.blockEnd = 0 := by
          have hzero := hbegins
          rw [RateRecord.beginsAt, hblocked] at hzero
          simp only [Bool.not_false, Bool.true_and, Bool.or_eq_false_iff,
            decide_eq_false_iff_not] at hzero
          omega
        refine ⟨record, rfl, hclosed, ?_⟩
        cases h.counts record hrecord with
        | blocked hpositive => omega
        | counting _ hhits hpositive hlimit =>
          refine ⟨hhits, by omega, ?_⟩
          rcases Nat.lt_or_ge record.hits policy.limit with hlt | hge
          · exact .inl ⟨hlt, hscript.trans (count_of_open hbegins hlt)⟩
          · have hfull : record.hits = policy.limit := by omega
            exact .inr ⟨hfull, hscript.trans (count_of_full hbegins hfull)⟩

/-- The tuple is read off the record that is stored. -/
theorem reply_eq (policy : Policy) (now : ℕ) (stored : Option RateRecord) :
    (rateLimitScript policy now stored).2 = (rateLimitScript policy now stored).1.reply now := by
  unfold rateLimitScript
  dsimp only
  split <;> rfl

/-- **A hit keeps the invariant.** -/
theorem LimiterInv.hit {trace : List LimitAction} {w : Limiter} {now : ℕ}
    (h : LimiterInv policy trace w) (hnow : now ≤ maxSafeInteger) :
    LimiterInv policy
      (.hit now (rateLimitScript policy now w.record).2
        ((w.record.getD .absent).beginsAt now) :: trace)
      ⟨now, some (rateLimitScript policy now w.record).1⟩ := by
  obtain ⟨⟨httl, httl'⟩, ⟨hlimit, -⟩, hblock, hblock'⟩ := policy.bounds
  have hadmitted := h.admitted
  rw [reply_eq]
  rcases @hit_cases policy trace w now h with ⟨hblocked, hbegins, hscript, hrecord⟩ |
    ⟨hbegins, hscript⟩ | ⟨hbegins, record, hrecord, hclosed, hhits, hpositive, hcase⟩
  · -- a blocked key: nothing is counted
    rw [hbegins, hscript]
    have hsame : admittedInWindow
        (.hit now ((w.record.getD .absent).reply now) false :: trace) = admittedInWindow trace := by
      rw [admittedInWindow, isBlocked_reply, hblocked]
      rfl
    refine ⟨by rw [hsame]; exact hadmitted, fun record hfound => ?_, fun record hfound => ?_⟩
    · cases hfound
      rw [hsame]
      exact h.counts _ hrecord
    · cases hfound
      exact h.ends _ hrecord
  · rw [hbegins, hscript]
    have hone : admittedInWindow (.hit now
        (RateRecord.reply now ⟨1, toDouble (now + policy.ttl), 0⟩) true :: trace) = 1 := by
      rw [admittedInWindow, isBlocked_reply, not_blockedAt_of_zero rfl]
      rfl
    refine ⟨by rw [hone]; exact hlimit, fun record hfound => ?_, fun record hfound => ?_⟩
    · cases hfound
      rw [hone]
      exact .counting rfl rfl (by omega) hlimit
    · cases hfound
      exact ⟨toDouble_add_le hnow httl', Nat.zero_le _⟩
  · obtain ⟨hwindow, -⟩ := h.ends record hrecord
    rcases hcase with ⟨hlt, hscript⟩ | ⟨hfull, hscript⟩
    · rw [hbegins, hscript]
      have hnext : admittedInWindow (.hit now
          (RateRecord.reply now { record with hits := record.hits + 1 }) false :: trace) =
            admittedInWindow trace + 1 := by
        have hopen : RateRecord.blockedAt { record with hits := record.hits + 1 } now = false :=
          not_blockedAt_of_zero hclosed
        rw [admittedInWindow, isBlocked_reply, hopen]
        rfl
      refine ⟨by rw [hnext]; omega, fun found hfound => ?_, fun found hfound => ?_⟩
      · cases hfound
        rw [hnext]
        exact .counting hclosed (by dsimp only; omega) (by omega) (by omega)
      · cases hfound
        exact ⟨hwindow, by dsimp only; omega⟩
    · -- the limit is reached: the key is blocked from here on
      rw [hbegins, hscript]
      have hends := lt_toDouble_add hnow hblock
      have hsame : admittedInWindow (.hit now (RateRecord.reply now { record with
          hits := policy.limit + 1, blockEnd := toDouble (now + policy.blockDuration) }) false ::
            trace) = admittedInWindow trace := by
        rw [admittedInWindow, isBlocked_reply, RateRecord.blockedAt, decide_eq_true hends]
        rfl
      refine ⟨by rw [hsame]; exact hadmitted, fun found hfound => ?_, fun found hfound => ?_⟩
      · cases hfound
        rw [hsame]
        exact .blocked (by dsimp only; omega) rfl hadmitted
      · cases hfound
        exact ⟨hwindow, toDouble_add_le hnow hblock'⟩

/-- The invariant along runs. -/
theorem limiterInv_of_run {trace : List LimitAction} {w : Limiter}
    (h : (limiter policy).Run trace w) : LimiterInv policy trace w := by
  refine h.invariant (I := LimiterInv policy) (fun w hw => ⟨Nat.zero_le _, ?_, ?_⟩)
    fun trace w action w' _ hinv hstep => ?_
  · intro record hrecord
    rw [show w.record = none from hw] at hrecord
    cases hrecord
  · intro record hrecord
    rw [show w.record = none from hw] at hrecord
    cases hrecord
  · cases hstep with
    | hit _ hnow => exact hinv.hit hnow
    | expire _ _ _ _ => exact ⟨hinv.admitted, nofun, nofun⟩

/-! ## Tuples -/

/-- A safe integer is read. -/
theorem safeNat?_integer {n : ℤ} (h : 0 ≤ n) (h' : n ≤ maxSafeInteger) :
    safeNat? (.integer n) = some n.toNat := if_pos ⟨h, h'⟩

/-- A tuple of safe integers is accepted. -/
theorem accepted_reply {now : ℕ} {record : RateRecord} (hhits : record.hits ≤ maxSafeInteger)
    (hwindow : record.windowEnd ≤ 2 ^ 54) (hblock : record.blockEnd ≤ 2 ^ 54) :
    Accepted (record.reply now) := by
  have hleft := ceilSeconds_bounds (show (record.windowEnd : ℤ) - now ≤ 2 ^ 54 by omega)
  have hright := ceilSeconds_bounds (show (record.blockEnd : ℤ) - now ≤ 2 ^ 54 by omega)
  have hcount : safeNat? (.integer record.hits) = some record.hits :=
    safeNat?_integer (by omega) (by omega)
  have hone : safeNat? (.integer 1) = some 1 := safeNat?_integer (by omega) (by decide)
  have hzero : safeNat? (.integer 0) = some 0 := safeNat?_integer (by omega) (by decide)
  unfold Accepted RateRecord.reply parseRedisRateLimitRecord
  cases record.blockedAt now with
  | true =>
    simp only [List.map_cons, List.map_nil, List.mapM_cons, List.mapM_nil, hcount, hone,
      safeNat?_integer hleft.1 hleft.2, safeNat?_integer hright.1 hright.2, if_true]
    exact ⟨_, rfl⟩
  | false =>
    simp only [List.map_cons, List.map_nil, List.mapM_cons, List.mapM_nil, hcount, hzero,
      safeNat?_integer hleft.1 hleft.2, Bool.false_eq_true, if_false]
    exact ⟨_, rfl⟩

/-- A tuple whose count is not safe is refused. -/
theorem not_accepted_reply {now : ℕ} {record : RateRecord} (h : maxSafeInteger < record.hits) :
    ¬ Accepted (record.reply now) := by
  rintro ⟨parsed, hparsed⟩
  have hcount : safeNat? (.integer record.hits) = none := if_neg (by omega)
  unfold RateRecord.reply parseRedisRateLimitRecord at hparsed
  simp only [List.map_cons, List.mapM_cons, hcount] at hparsed
  cases hparsed

/-- **A key past its `PEXPIREAT` answers as an absent one.** -/
theorem script_of_expired {now : ℕ} {record : RateRecord} (h : record.expireAt ≤ now) :
    rateLimitScript policy now (some record) = rateLimitScript policy now none := by
  obtain ⟨hwindow, hblock⟩ := max_le_iff.mp h
  have hblocked : record.blockedAt now = false := decide_eq_false (Nat.not_lt.mpr hblock)
  have hbegins : record.beginsAt now = true := by
    rw [RateRecord.beginsAt, hblocked, decide_eq_true hwindow, Bool.or_true]
    rfl
  have habsent : RateRecord.absent.blockedAt now = false := not_blockedAt_of_zero rfl
  have habsent' : RateRecord.absent.beginsAt now = true := by
    rw [RateRecord.beginsAt, habsent,
      decide_eq_true (show RateRecord.absent.windowEnd ≤ now from Nat.zero_le now), Bool.or_true]
    rfl
  unfold rateLimitScript
  simp only [Option.getD_some, Option.getD_none]
  rw [if_neg (by rw [hblocked]; decide), if_neg (by rw [habsent]; decide),
    count_of_begins hbegins, count_of_begins habsent']

/-- Then every later answer is the same. -/
theorem replies_of_expired {now : ℕ} {record : RateRecord} (h : record.expireAt ≤ now)
    (later : List ℕ) (hlater : ∀ time ∈ later, now ≤ time) :
    replies policy later (some record) = replies policy later none := by
  cases later with
  | nil => rfl
  | cons time later =>
    have htime : record.expireAt ≤ time := h.trans (hlater time List.mem_cons_self)
    rw [replies, replies, script_of_expired htime]

/-! ## The law -/

/-- **The law of a rate limit**, over every run of a key. -/
structure Sound (policy : Policy) : Prop where
  window : ∀ trace w, (limiter policy).Run trace w → admittedInWindow trace ≤ policy.limit
  /-- A window is begun where there is none, at its end or behind its block. -/
  begins : ∀ trace w record now reply w', (limiter policy).Run trace w →
    w.record = some record → (limiter policy).step w (.hit now reply true) w' →
    record.windowEnd ≤ now ∨ 0 < record.blockEnd ∧ record.blockEnd ≤ now
  blocked : ∀ trace w record now reply begins w', (limiter policy).Run trace w →
    w.record = some record → record.blockedAt now = true →
    (limiter policy).step w (.hit now reply begins) w' →
    isBlocked reply = true ∧ w'.record = some record
  expiry : ∀ trace w record now later, (limiter policy).Run trace w →
    w.record = some record → record.expireAt ≤ now → (∀ time ∈ later, now ≤ time) →
    replies policy later (some record) = replies policy later none
  accepted : ∀ trace w now reply begins w', (limiter policy).Run trace w →
    (limiter policy).step w (.hit now reply begins) w' → Accepted reply

/-- Hits at one time, as many as the limit allows. -/
theorem run_of_hits (policy : Policy) {n : ℕ} (hpositive : 1 ≤ n) (hlimit : n ≤ policy.limit) :
    ∃ trace, (limiter policy).Run trace ⟨0, some ⟨n, policy.ttl, 0⟩⟩ ∧ trace.length = n := by
  have hsafe : maxSafeInteger = 2 ^ 53 - 1 := rfl
  obtain ⟨⟨httl, httl'⟩, -, -⟩ := policy.bounds
  induction n, hpositive using Nat.le_induction with
  | base =>
    have hscript : (rateLimitScript policy 0 none).1 = ⟨1, policy.ttl, 0⟩ := by
      have hbegins : RateRecord.absent.beginsAt 0 = true := rfl
      have hend : toDouble (0 + policy.ttl) = policy.ttl := by
        rw [Nat.zero_add, toDouble_of_le (by omega)]
      rw [← hend]
      exact count_of_begins hbegins
    have hstep : (limiter policy).step ⟨0, none⟩ _ _ := .hit (Nat.le_refl 0) (Nat.zero_le _)
    rw [hscript] at hstep
    have hinit : (limiter policy).init ⟨0, none⟩ := rfl
    exact ⟨_, .step (.init hinit) hstep, rfl⟩
  | succ n hn ih =>
    obtain ⟨trace, hrun, hlength⟩ := ih (by omega)
    have hbegins : RateRecord.beginsAt ⟨n, policy.ttl, 0⟩ 0 = false := by
      rw [RateRecord.beginsAt, not_blockedAt_of_zero rfl,
        decide_eq_false (show ¬ policy.ttl ≤ 0 by omega)]
      rfl
    have hscript : (rateLimitScript policy 0 (some ⟨n, policy.ttl, 0⟩)).1 =
        ⟨n + 1, policy.ttl, 0⟩ := count_of_open hbegins hlimit
    have hstep : (limiter policy).step ⟨0, some ⟨n, policy.ttl, 0⟩⟩ _ _ :=
      .hit (Nat.le_refl 0) (Nat.zero_le _)
    rw [hscript] at hstep
    exact ⟨_, hrun.step hstep, congrArg Nat.succ hlength⟩

/-- The hit behind as many as the limit allows is answered with one more. -/
theorem exists_hit_behind_limit (policy : Policy) :
    ∃ (trace : List LimitAction) (w : Limiter) (record : RateRecord) (w' : Limiter),
      (limiter policy).Run trace w ∧ trace.length = policy.limit ∧
      record.hits = policy.limit + 1 ∧
      (limiter policy).step w (.hit 0 (record.reply 0) false) w' := by
  obtain ⟨⟨httl, -⟩, ⟨hlimit, -⟩, -⟩ := policy.bounds
  obtain ⟨trace, hrun, hlength⟩ := run_of_hits policy hlimit (Nat.le_refl _)
  have hbegins : RateRecord.beginsAt ⟨policy.limit, policy.ttl, 0⟩ 0 = false := by
    rw [RateRecord.beginsAt, not_blockedAt_of_zero rfl,
      decide_eq_false (show ¬ policy.ttl ≤ 0 by omega)]
    rfl
  have hscript : (rateLimitScript policy 0 (some ⟨policy.limit, policy.ttl, 0⟩)).1 =
      ⟨policy.limit + 1, policy.ttl, toDouble (0 + policy.blockDuration)⟩ :=
    count_of_full hbegins rfl
  have hstep : (limiter policy).step ⟨0, some ⟨policy.limit, policy.ttl, 0⟩⟩
      (.hit 0 _ (RateRecord.beginsAt ⟨policy.limit, policy.ttl, 0⟩ 0)) _ :=
    .hit (Nat.le_refl 0) (Nat.zero_le _)
  rw [reply_eq, hscript, hbegins] at hstep
  exact ⟨trace, _, _, _, hrun, hlength, rfl, hstep⟩

/-- **The rate limit keeps its law exactly below the greatest safe limit**, where the
hit behind the limit would be counted by a number that is no safe integer. -/
theorem rate_limit_sound_iff (policy : Policy) : Sound policy ↔ policy.limit < maxSafeInteger := by
  constructor
  · intro h
    obtain ⟨trace, w, record, w', hrun, -, hhits, hstep⟩ := exists_hit_behind_limit policy
    by_contra hlimit
    exact not_accepted_reply (by omega) (h.accepted _ _ _ _ _ _ hrun hstep)
  · intro hlimit
    refine ⟨fun trace w hrun => (limiterInv_of_run hrun).admitted, ?_, ?_, ?_, ?_⟩
    · intro trace w record now reply w' hrun hrecord hstep
      generalize hfresh : true = begins at hstep
      cases hstep
      rw [hrecord, Option.getD_some, RateRecord.beginsAt, RateRecord.blockedAt] at hfresh
      have hcases := hfresh.symm
      simp only [Bool.and_eq_true, Bool.or_eq_true, Bool.not_eq_true', decide_eq_true_eq,
        decide_eq_false_iff_not, gt_iff_lt, Nat.not_lt] at hcases
      omega
    · intro trace w record now reply begins w' hrun hrecord hblocked hstep
      cases hstep
      have hscript : (rateLimitScript policy now w.record).1 = record := by
        rw [hrecord, rateLimitScript, Option.getD_some, if_pos hblocked]
      refine ⟨?_, congrArg some hscript⟩
      rw [reply_eq, hscript, isBlocked_reply, hblocked]
    · intro trace w record now later _ _ hexpired hlater
      exact replies_of_expired hexpired later hlater
    · intro trace w now reply begins w' hrun hstep
      have hrun' := hrun.step hstep
      cases hstep
      have hinv := limiterInv_of_run hrun'
      obtain ⟨hwindow, hblock⟩ := hinv.ends _ rfl
      have hhits := (hinv.counts _ rfl).hits_le
      rw [reply_eq]
      exact accepted_reply (by omega) hwindow hblock

/-- The greatest limit that is admitted. -/
def greatest : Policy := ⟨60000, maxSafeInteger, 60000, rfl⟩

/-- Behind `2 ^ 53 - 1` hits the answer to the next one is refused. -/
theorem hit_behind_greatest_limit_refused :
    ∃ trace w now reply begins w', (limiter greatest).Run trace w ∧
      trace.length = 2 ^ 53 - 1 ∧ (limiter greatest).step w (.hit now reply begins) w' ∧
      ¬ Accepted reply := by
  obtain ⟨trace, w, record, w', hrun, hlength, hhits, hstep⟩ := exists_hit_behind_limit greatest
  exact ⟨trace, w, 0, _, false, w', hrun, hlength, hstep,
    not_accepted_reply (by rw [hhits]; exact Nat.lt_succ_self _)⟩

end RateLimit

end SinoChat
