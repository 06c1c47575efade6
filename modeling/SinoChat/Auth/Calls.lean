import SinoChat.Model.AuthRuns
import SinoChat.Auth.Requests

/-!
# What the calls under way remember

A call remembers what it read and when, and the run shows where it read it: a login its
account and its password, the check of a session its rows.
-/

namespace SinoChat

open Js

namespace Auth

variable {env : Env} {w w' : World} {event : Event} {trace : List Event}

/-! ## The calls of a world -/

/-- What holds of every call holds of every call and the one that begins. -/
theorem World.calls_begins {P : ℕ → Call → Prop} {call : Call}
    (h : ∀ n c, w.calls[n]? = some c → P n c) (hcall : P w.calls.length call) :
    ∀ n c, (w.begins call).calls[n]? = some c → P n c := by
  intro n c hc
  rw [World.begins, List.getElem?_append] at hc
  split_ifs at hc with hlt
  · exact h n c hc
  · obtain ⟨hlast, hcall'⟩ := List.getElem?_eq_some_iff.mp hc
    have hn : n = w.calls.length := by
      rw [List.length_singleton] at hlast
      omega
    subst hn
    simp only [Nat.sub_self, List.getElem_cons_zero] at hcall'
    rwa [← hcall']

/-- What holds of every call still holds where one goes on. -/
theorem World.calls_goesOn {P : ℕ → Call → Prop} {call : Call} {n : ℕ} {db : Db}
    (h : ∀ n c, w.calls[n]? = some c → P n c) (hcall : P n call) :
    ∀ m c, (w.goesOn n call db).calls[m]? = some c → P m c := by
  intro m c hc
  rw [World.goesOn, List.getElem?_set] at hc
  split_ifs at hc with heq hlt
  · obtain rfl := Option.some.inj hc
    rwa [← heq]
  · exact h m c hc

/-! ## The past of a run -/

/-- The run went through a state, and went on from there. -/
structure Past (env : Env) (trace : List Event) (w : World) (later tail : List Event) (t : World) :
    Prop where
  trace : trace = later ++ tail
  run : (authentication env).Run tail t
  steps : (authentication env).Steps t later w

theorem Past.now (h : (authentication env).Run trace w) : Past env trace w [] trace w :=
  ⟨rfl, h, .refl⟩

theorem Past.cons {later tail : List Event} {t : World} (h : Past env trace w later tail t)
    (hstep : Step env w event w') : Past env (event :: trace) w' (event :: later) tail t :=
  ⟨congrArg _ h.trace, h.run, h.steps.step hstep⟩

/-- The login read its account. -/
def ReadBy (env : Env) (trace : List Event) (w : World) (n : ℕ) (user : User)
    (password : JsString) : Prop :=
  ∃ later earlier t, Past env trace w later (.loginRead n user password :: earlier) t ∧
    user ∈ t.db.users

/-- The login read its account, and then its password was right by the hash it had read. -/
def VerifiedBy (env : Env) (trace : List Event) (w : World) (n : ℕ) (user : User) : Prop :=
  ∃ later before t t' password, Past env trace w later (.passwordVerified n true :: before) t' ∧
    (authentication env).Run before t ∧ Step env t (.passwordVerified n true) t' ∧
    ReadBy env before t n user password ∧ env.verify user.passwordHash password = true

/-- A registration made the account. -/
def RegisteredBy (env : Env) (trace : List Event) (w : World) (n : ℕ) (user : User) : Prop :=
  ∃ later earlier t, Past env trace w later (.registered n user :: earlier) t ∧
    user ∈ t.db.users

/-- What a session is created for. -/
def AdmittedBy (env : Env) (trace : List Event) (w : World) (n : ℕ) (user : User) : Prop :=
  VerifiedBy env trace w n user ∧ .successRecorded n user.id ∈ trace ∨
    RegisteredBy env trace w n user

/-- The check of an administrator's session read its rows. -/
def LookedUp (env : Env) (trace : List Event) (w : World) (token : JsString) (rows : Lookup) :
    Prop :=
  ∃ later tail t, Past env trace w later tail t ∧
    t.db.findSession (env.hashToken token) = some rows

section Cons

variable {n : ℕ} {user : User} {password : JsString} (hstep : Step env w event w')

include hstep

theorem ReadBy.cons (h : ReadBy env trace w n user password) :
    ReadBy env (event :: trace) w' n user password := by
  obtain ⟨later, earlier, t, hpast, huser⟩ := h
  exact ⟨_, earlier, t, hpast.cons hstep, huser⟩

theorem VerifiedBy.cons (h : VerifiedBy env trace w n user) :
    VerifiedBy env (event :: trace) w' n user := by
  obtain ⟨later, before, t, t', password, hpast, hread⟩ := h
  exact ⟨_, before, t, t', password, hpast.cons hstep, hread⟩

theorem AdmittedBy.cons (h : AdmittedBy env trace w n user) :
    AdmittedBy env (event :: trace) w' n user := by
  rcases h with ⟨hverified, hmem⟩ | ⟨later, earlier, t, hpast, huser⟩
  · exact .inl ⟨hverified.cons hstep, List.mem_cons_of_mem _ hmem⟩
  · exact .inr ⟨_, earlier, t, hpast.cons hstep, huser⟩

end Cons

/-! ## What a call shows -/

/-- The run shows what the call remembers. -/
def Call.Known (env : Env) (trace : List Event) (w : World) (n : ℕ) : Call → Prop
  | .loginRead user password | .loginTimed user password _ => ReadBy env trace w n user password
  | .loginPassed user _ => VerifiedBy env trace w n user
  | .sessionDue user | .sessionTimed user _ => AdmittedBy env trace w n user
  | .lookedUp token rows | .lookupTimed token rows _ | .notRefreshed token rows _ =>
    LookedUp env trace w token rows
  | _ => True

theorem Call.Known.cons {n : ℕ} {call : Call} (h : call.Known env trace w n)
    (hstep : Step env w event w') : call.Known env (event :: trace) w' n := by
  cases call with
  | loginRead | loginTimed => exact ReadBy.cons hstep h
  | loginPassed => exact VerifiedBy.cons hstep h
  | sessionDue | sessionTimed => exact AdmittedBy.cons hstep h
  | lookedUp | lookupTimed | notRefreshed =>
    obtain ⟨later, tail, t, hpast, hfind⟩ := h
    exact ⟨_, tail, t, hpast.cons hstep, hfind⟩
  | _ => trivial

/-- A right password is on record. -/
theorem known_loginVerdict {n now : ℕ} {user : User} {password : JsString} {correct : Bool}
    (hrun : (authentication env).Run trace w) (hread : ReadBy env trace w n user password)
    (hverify : env.verify user.passwordHash password = correct)
    (hstep : Step env w (.passwordVerified n correct) w') :
    (loginVerdict user now correct).Known env (.passwordVerified n correct :: trace) w' n := by
  cases correct with
  | false => trivial
  | true =>
    rw [loginVerdict, if_pos rfl]
    split
    · exact ⟨[], trace, w, w', password, .now (hrun.step hstep), hrun, hstep, hread, hverify⟩
    · trivial

theorem known_step (hrun : (authentication env).Run trace w)
    (hcalls : ∀ (n : ℕ) (c : Call), w.calls[n]? = some c → c.Known env trace w n)
    (h : Step env w event w') :
    ∀ (n : ℕ) (c : Call), w'.calls[n]? = some c → c.Known env (event :: trace) w' n := by
  have hkept : ∀ (n : ℕ) (c : Call), w.calls[n]? = some c → c.Known env (event :: trace) w' n :=
    fun n c hc => (hcalls n c hc).cons h
  have hnow : Past env (event :: trace) w' [] (event :: trace) w' := .now (hrun.step h)
  have hstep := h
  cases h with
  | tick | served | refused | accepted => exact hkept
  | registered hnew hok =>
    refine World.calls_begins hkept (.inr ⟨[], trace, _, hnow, ?_⟩)
    obtain ⟨hfree, profiles, codes, -, rfl⟩ := createAccount_eq_ok hok
    exact (@Table.mem_insert _ _ _ _ _ _ _ hfree).mpr (.inr rfl)
  | loginRead hread =>
    refine World.calls_begins hkept ⟨[], trace, _, hnow, ?_⟩
    exact List.mem_of_find?_eq_some hread
  | lookedUp hread hrole =>
    exact World.calls_begins hkept ⟨_, trace, w, (Past.now hrun).cons hstep, hread⟩
  | resetRead | rotationRead => exact World.calls_begins hkept trivial
  | loginTimed hcall =>
    have hread := hkept _ _ hcall
    exact World.calls_goesOn hkept hread
  | passwordVerified hcall =>
    exact World.calls_goesOn hkept (known_loginVerdict hrun (hcalls _ _ hcall) rfl hstep)
  | successRecorded hcall hok =>
    have hverified := hkept _ _ hcall
    exact World.calls_goesOn hkept (.inl ⟨hverified, List.mem_cons_self⟩)
  | sessionTimed hcall =>
    have hadmitted := hkept _ _ hcall
    exact World.calls_goesOn hkept hadmitted
  | lookupTimed hcall =>
    have hfound := hkept _ _ hcall
    refine World.calls_goesOn hkept ?_
    unfold lookupVerdict at hfound ⊢
    split_ifs at hfound ⊢
    · trivial
    · exact hfound
  | notRefreshed hcall =>
    have hfound := hkept _ _ hcall
    exact World.calls_goesOn hkept hfound
  | _ => exact World.calls_goesOn hkept trivial

/-- **What the calls of a run remember, the run shows.** -/
theorem known_of_run (h : (authentication env).Run trace w) :
    ∀ (n : ℕ) (c : Call), w.calls[n]? = some c → c.Known env trace w n :=
  h.invariant
    (I := fun trace w => ∀ (n : ℕ) (c : Call), w.calls[n]? = some c → c.Known env trace w n)
    (fun _ hinit n c hc => by rw [hinit.2] at hc; cases hc)
    fun _ _ _ _ hrun hI hs => known_step hrun hI hs

end Auth

end SinoChat
