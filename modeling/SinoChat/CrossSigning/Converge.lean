import SinoChat.Common.CanonicalText
import SinoChat.CrossSigning.Answers
import SinoChat.Model.CrossSigningClient

/-!
# A device and its server agree on one identity

Every body that is sent is made of the requests of one complete local triplet, and
the identity that is stored for the user is that of such a body (`DeployedInv`),
whichever attempts were given up, and whichever bodies arrived late, again or never.
-/

namespace SinoChat

open Js

namespace CrossSigning

section

variable {env : Deployment} {scheme : SignatureScheme} {user : Uuid}
  {identity : MatrixCryptoIdentity} {Store : Type} {sdk : Sdk Store}
  {requests : Store → CrossSigningBootstrapRequests}

/-! ## One body, read on both sides -/

/-- A record that is read is an object. -/
theorem record_eq_ok {value : Option Json} {entries : List (JsString × Json)}
    (h : record value = .ok entries) : value.bind Json.record? = some entries := by
  obtain ⟨found, hfound, h⟩ := bind_eq_ok.mp h
  obtain ⟨_, -, h⟩ := bind_eq_ok.mp h
  cases h
  exact orThrow_eq_ok.mp hfound

theorem exactRecord_eq_ok {value : Option Json} {expected : List JsString}
    {entries : List (JsString × Json)} (h : exactRecord value expected = .ok entries) :
    value.bind Json.record? = some entries := by
  obtain ⟨found, hfound, h⟩ := bind_eq_ok.mp h
  obtain ⟨_, -, h⟩ := bind_eq_ok.mp h
  cases h
  exact record_eq_ok hfound

theorem exactObject_eq_ok {value : Option Json} {keys : List JsString}
    {entries : List (JsString × Json)} (h : exactObject value keys = .ok entries) :
    value.bind Json.record? = some entries := by
  obtain ⟨found, hfound, h⟩ := bind_eq_ok.mp h
  obtain ⟨_, -, h⟩ := bind_eq_ok.mp h
  cases h
  exact orThrow_eq_ok.mp hfound

/-- The key of an object with one key. -/
def HasKey (value : Option Json) (key : JsString) : Prop :=
  ∃ input keyId, value.bind Json.record? = some input ∧
    (Json.get? (js "keys") input).bind Json.record? = some [(keyId, .str key)]

/-- A value has one key. -/
theorem HasKey.eq {value : Option Json} {key key' : JsString} (h : HasKey value key)
    (h' : HasKey value key') : key = key' := by
  obtain ⟨input, keyId, hinput, hkeys⟩ := h
  obtain ⟨input', keyId', hinput', hkeys'⟩ := h'
  rw [hinput] at hinput'
  cases hinput'
  rw [hkeys] at hkeys'
  cases hkeys'
  rfl

/-- The server reads the key that is there. -/
theorem hasKey_of_parseKey {value : Option Json} {usage : CrossSigningUsage}
    {userId signingKeyId : JsString} {key : MatrixCrossSigningKey}
    (h : parseKey scheme value usage userId signingKeyId = .ok key) : HasKey value key.key := by
  obtain ⟨input, hinput, h⟩ := bind_eq_ok.mp h
  obtain ⟨_, -, h⟩ := bind_eq_ok.mp h
  obtain ⟨_, -, h⟩ := bind_eq_ok.mp h
  obtain ⟨keys, hkeys, h⟩ := bind_eq_ok.mp h
  obtain ⟨keyId, hkeyId, h⟩ := bind_eq_ok.mp h
  obtain ⟨text, htext, h⟩ := bind_eq_ok.mp h
  obtain ⟨_, -, h⟩ := bind_eq_ok.mp h
  obtain ⟨_, -, h⟩ := bind_eq_ok.mp h
  obtain ⟨signatures, -, h⟩ := bind_eq_ok.mp h
  cases h
  obtain ⟨found, hfound, htext⟩ := bind_eq_ok.mp htext
  obtain ⟨_, -, htext⟩ := bind_eq_ok.mp htext
  obtain ⟨_, -, htext⟩ := bind_eq_ok.mp htext
  obtain rfl := Except.ok.inj htext
  refine ⟨input, keyId, exactRecord_eq_ok hinput, ?_⟩
  rw [record_eq_ok hkeys]
  have hone := orThrow_eq_ok.mp hkeyId
  obtain _ | ⟨⟨name, member⟩, _ | ⟨_, _⟩⟩ := keys <;> cases hone
  obtain ⟨member', hmember, hstr⟩ := Option.bind_eq_some_iff.mp (orThrow_eq_ok.mp hfound)
  rw [Json.get?, if_pos rfl] at hmember
  cases hmember
  cases member <;> cases hstr
  rfl

/-- So does the client. -/
theorem hasKey_of_publicKey {value : Option Json} {usage : CrossSigningUsage}
    {userId key : JsString} (h : publicKey value usage userId = .ok key) : HasKey value key := by
  obtain ⟨input, hinput, h⟩ := bind_eq_ok.mp h
  obtain ⟨_, -, h⟩ := bind_eq_ok.mp h
  obtain ⟨entries, hentries, h⟩ := bind_eq_ok.mp h
  obtain ⟨entry, hentry, h⟩ := bind_eq_ok.mp h
  obtain ⟨text, htext, h⟩ := bind_eq_ok.mp h
  obtain ⟨_, -, h⟩ := bind_eq_ok.mp h
  obtain ⟨_, -, h⟩ := bind_eq_ok.mp h
  cases h
  refine ⟨input, entry.1, exactObject_eq_ok hinput, ?_⟩
  rw [orThrow_eq_ok.mp hentries]
  have hone := orThrow_eq_ok.mp hentry
  obtain _ | ⟨⟨name, member⟩, _ | ⟨_, _⟩⟩ := entries <;> cases hone
  have hstr := (Option.filter_eq_some_iff.mp (orThrow_eq_ok.mp htext)).1
  cases member <;> cases hstr
  rfl

/-- **The server reads the triplet that the client read.** -/
theorem identity_eq_of_parseAndHash {crypto : Crypto} {signingKeys deviceSignatures : Json}
    {context : IdentityContext} {request : HashedBootstrap} {userId : JsString}
    {generated : MatrixCrossSigningPublicIdentity}
    (hrequest : parseAndHash crypto scheme (signingKeys, deviceSignatures) context none =
      .ok request) (hgenerated : publicTriplet signingKeys userId = .ok generated) :
    request.parsed.identity = generated := by
  obtain ⟨hparse, -, -⟩ := parseAndHash_eq_ok.mp hrequest
  obtain ⟨_, -, h⟩ := bind_eq_ok.mp hparse
  obtain ⟨original, -, h⟩ := bind_eq_ok.mp h
  obtain ⟨pinned, -, h⟩ := bind_eq_ok.mp h
  obtain ⟨keys, hkeys, h⟩ := bind_eq_ok.mp h
  obtain ⟨signed, -, h⟩ := bind_eq_ok.mp h
  obtain ⟨body, hbody, hkeys⟩ := bind_eq_ok.mp hkeys
  obtain ⟨master, hmaster, hkeys⟩ := bind_eq_ok.mp hkeys
  obtain ⟨selfSigning, hself, hkeys⟩ := bind_eq_ok.mp hkeys
  obtain ⟨userSigning, huser, hkeys⟩ := bind_eq_ok.mp hkeys
  obtain ⟨_, -, hkeys⟩ := bind_eq_ok.mp hkeys
  obtain ⟨_, -, hkeys⟩ := bind_eq_ok.mp hkeys
  obtain ⟨_, -, hkeys⟩ := bind_eq_ok.mp hkeys
  obtain ⟨_, -, hkeys⟩ := bind_eq_ok.mp hkeys
  obtain ⟨_, -, hkeys⟩ := bind_eq_ok.mp hkeys
  obtain ⟨_, -, hkeys⟩ := bind_eq_ok.mp hkeys
  obtain rfl := Except.ok.inj hkeys
  obtain ⟨body', hbody', hgenerated⟩ := bind_eq_ok.mp hgenerated
  obtain ⟨master', hmaster', hgenerated⟩ := bind_eq_ok.mp hgenerated
  obtain ⟨selfSigning', hself', hgenerated⟩ := bind_eq_ok.mp hgenerated
  obtain ⟨userSigning', huser', hgenerated⟩ := bind_eq_ok.mp hgenerated
  obtain ⟨_, -, hgenerated⟩ := bind_eq_ok.mp hgenerated
  obtain rfl := Except.ok.inj hgenerated
  have hsame := (exactRecord_eq_ok hbody).symm.trans (exactObject_eq_ok hbody')
  obtain rfl := Option.some.inj hsame
  have hmasterKey := (hasKey_of_parseKey hmaster).eq (hasKey_of_publicKey hmaster')
  have hselfKey := (hasKey_of_parseKey hself).eq (hasKey_of_publicKey hself')
  have huserKey := (hasKey_of_parseKey huser).eq (hasKey_of_publicKey huser')
  rw [← Except.ok.inj h, ← hmasterKey, ← hselfKey, ← huserKey]
  rfl

/-- The parts of a body are read back. -/
theorem parseBody_bootstrapBody (signingKeys deviceSignatures : Json) :
    parseBody (bootstrapBody signingKeys deviceSignatures) = .ok (signingKeys, deviceSignatures) :=
  rfl

/-- What was read off the requests is a body of the triplet. -/
theorem readRequests_eq_ok {made : CrossSigningBootstrapRequests}
    {generated : MatrixCrossSigningPublicIdentity} {value : Json}
    (h : readRequests identity made = .ok (generated, value)) :
    ∃ signingKeys deviceSignatures, value = bootstrapBody signingKeys deviceSignatures ∧
      publicTriplet signingKeys identity.userId = .ok generated := by
  obtain ⟨_, -, h⟩ := bind_eq_ok.mp h
  obtain ⟨signingKeys, -, h⟩ := bind_eq_ok.mp h
  obtain ⟨deviceSignatures, -, h⟩ := bind_eq_ok.mp h
  obtain ⟨triplet, htriplet, h⟩ := bind_eq_ok.mp h
  obtain ⟨_, -, h⟩ := bind_eq_ok.mp h
  obtain ⟨_, -, h⟩ := bind_eq_ok.mp h
  cases h
  exact ⟨signingKeys, deviceSignatures, rfl, htriplet⟩

/-- A prepared body is what was read of the requests. -/
theorem prepare_eq_ok {found remote : Option MatrixCrossSigningPublicIdentity}
    {made : CrossSigningBootstrapRequests} {read : MatrixCrossSigningPublicIdentity × Json}
    (h : prepare identity found remote made = .ok read) :
    readRequests identity made = .ok read := by
  obtain ⟨read', hread, h⟩ := bind_eq_ok.mp h
  obtain ⟨_, -, h⟩ := bind_eq_ok.mp h
  obtain ⟨_, -, h⟩ := bind_eq_ok.mp h
  cases h
  exact hread

/-! ## The invariant -/

/-- The directory holds this identity for the user. -/
def PinnedAs (user : Uuid) (db : Directory) (generated : MatrixCrossSigningPublicIdentity) :
    Prop :=
  ∃ row, db.identities.find? user = some row ∧ row.identity = generated

/-- A body of the complete triplet that the store holds. -/
structure Made (identity : MatrixCryptoIdentity) (sdk : Sdk Store)
    (requests : Store → CrossSigningBootstrapRequests) (store : Store)
    (generated : MatrixCrossSigningPublicIdentity) (value : Json) : Prop where
  complete : sdk.Complete store
  read : readRequests identity (requests store) = .ok (generated, value)

/-- What an attempt knows. -/
def PhaseInv (user : Uuid) (sdk : Sdk Store)
    (requests : Store → CrossSigningBootstrapRequests) (db : Directory) (store : Store) :
    Phase → Prop
  | .asking answer => ∀ status ∈ answer, ∀ generated ∈ status.identity, PinnedAs user db generated
  | .inspecting remote => ∀ generated ∈ remote, PinnedAs user db generated
  | .creating _ _ => True
  | .preparing _ _ made => sdk.Complete store ∧ made = requests store
  | .posting _ answer => ∀ status ∈ answer, ∀ generated ∈ status.identity,
      PinnedAs user db generated
  | .querying generated => PinnedAs user db generated
  | .verifying generated => PinnedAs user db generated

/-- **One triplet**: every body that was sent is made of what the store holds, and so
is the body whose rows are stored for the user. -/
structure DeployedInv (env : Deployment) (scheme : SignatureScheme) (user : Uuid)
    (identity : MatrixCryptoIdentity) (sdk : Sdk Store)
    (requests : Store → CrossSigningBootstrapRequests) (w : Deployed Store) : Prop where
  directory : Inv env scheme w.db
  sent : ∀ entry ∈ w.sent, ∃ generated, Made identity sdk requests w.store generated entry.2
  stored : ∀ row, w.db.identities.find? user = some row →
    ∃ certificate body request value, parseBody value = .ok body ∧
      Stored env scheme w.db row certificate body request ∧
      Made identity sdk requests w.store row.identity value
  attempt : ∀ attempt, w.attempt = some attempt →
    PhaseInv user sdk requests w.db w.store attempt.phase

/-- What may happen to the store of the SDK: a complete triplet stays. -/
def Keeps (sdk : Sdk Store) (requests : Store → CrossSigningBootstrapRequests)
    (store store' : Store) : Prop :=
  sdk.Complete store → sdk.Complete store' ∧ requests store' = requests store

theorem keeps_refl (store : Store) : Keeps sdk requests store store := fun h => ⟨h, rfl⟩

/-- A body made of a store is made of every later one. -/
theorem Made.keeps {store store' : Store} {generated : MatrixCrossSigningPublicIdentity}
    {value : Json} (h : Made identity sdk requests store generated value)
    (hkeeps : Keeps sdk requests store store') :
    Made identity sdk requests store' generated value := by
  obtain ⟨hcomplete, hsame⟩ := hkeeps h.complete
  exact ⟨hcomplete, by rw [hsame]; exact h.read⟩

/-- A stored identity stays. -/
theorem PinnedAs.grown {db db' : Directory} {generated : MatrixCrossSigningPublicIdentity}
    (h : PinnedAs user db generated) (hgrown : Grown db db') : PinnedAs user db' generated := by
  obtain ⟨row, hrow, hidentity⟩ := h
  exact ⟨row, hgrown.kept.identities _ _ hrow, hidentity⟩

/-- What an attempt knows stays true. -/
theorem PhaseInv.mono {db db' : Directory} {store store' : Store} {phase : Phase}
    (h : PhaseInv user sdk requests db store phase) (hgrown : Grown db db')
    (hkeeps : Keeps sdk requests store store') :
    PhaseInv user sdk requests db' store' phase := by
  cases phase with
  | asking answer => exact fun status hstatus found hfound => (h status hstatus found hfound).grown hgrown
  | inspecting remote => exact fun found hfound => (h found hfound).grown hgrown
  | creating remote found => trivial
  | preparing remote found made =>
    obtain ⟨hcomplete, hmade⟩ := h
    obtain ⟨hcomplete', hsame⟩ := hkeeps hcomplete
    exact ⟨hcomplete', hmade.trans hsame.symm⟩
  | posting generated answer =>
    exact fun status hstatus found hfound => (h status hstatus found hfound).grown hgrown
  | querying generated => exact PinnedAs.grown h hgrown
  | verifying generated => exact PinnedAs.grown h hgrown

/-- The invariant where the directory and the store move on, and nothing new is
stored for the user. -/
theorem DeployedInv.move {w w' : Deployed Store}
    (h : DeployedInv env scheme user identity sdk requests w)
    (hdirectory : Inv env scheme w'.db) (hgrown : Grown w.db w'.db)
    (hrows : w'.db.identities.find? user = w.db.identities.find? user)
    (hkeeps : Keeps sdk requests w.store w'.store) (hsent : w'.sent = w.sent)
    (hattempt : ∀ attempt, w'.attempt = some attempt →
      PhaseInv user sdk requests w'.db w'.store attempt.phase) :
    DeployedInv env scheme user identity sdk requests w' := by
  refine ⟨hdirectory, fun entry hentry => ?_, fun row hrow => ?_, hattempt⟩
  · rw [hsent] at hentry
    obtain ⟨generated, hmade⟩ := h.sent entry hentry
    exact ⟨generated, hmade.keeps hkeeps⟩
  · rw [hrows] at hrow
    obtain ⟨certificate, body, request, value, hbody, hstored, hmade⟩ := h.stored row hrow
    exact ⟨certificate, body, request, value, hbody, hstored.grown hgrown, hmade.keeps hkeeps⟩

/-- The invariant where only the attempt goes on. -/
theorem DeployedInv.goTo {w : Deployed Store} {attempt : Attempt} {phase : Phase}
    (h : DeployedInv env scheme user identity sdk requests w)
    (hphase : PhaseInv user sdk requests w.db w.store phase) :
    DeployedInv env scheme user identity sdk requests (w.goTo attempt phase) := by
  refine h.move h.directory (.refl _) rfl (keeps_refl _) rfl fun other hother => ?_
  cases hother
  exact hphase

/-- The invariant when an attempt is given up. -/
theorem DeployedInv.stop {w : Deployed Store}
    (h : DeployedInv env scheme user identity sdk requests w) :
    DeployedInv env scheme user identity sdk requests { w with attempt := none } :=
  h.move h.directory (.refl _) rfl (keeps_refl _) rfl nofun

/-! ## Steps -/

/-- Only bootstraps of a user store an identity of the user. -/
theorem identity_of_step {db db' : Directory} {action : DirectoryAction}
    (hstep : DirectoryStep env scheme db action db') (hother : action.bootstraps user = false) :
    db'.identities.find? user = db.identities.find? user := by
  cases hstep with
  | bootstrap hbootstrap =>
    rcases bootstrap_cases hbootstrap with
      ⟨_, -, rfl, -⟩ | ⟨_, context, _, -, -, -, hcreated, -⟩
    · rfl
    · rw [hcreated.identities, if_neg (of_decide_eq_false hother)]
  | refuse _ => rfl
  | registerDevice _ => rfl
  | changeAccounts _ _ => rfl
  | registerList => rfl
  | publish => rfl

/-- The status that is answered is what is stored. -/
theorem pinnedAs_of_status {serverName : JsString} {call : IdentityCall} {db : Directory}
    {answer : IdentityStatus} (h : status serverName call db = .ok answer)
    {generated : MatrixCrossSigningPublicIdentity} (hgenerated : generated ∈ answer.identity) :
    PinnedAs call.principal.id db generated := by
  obtain ⟨context, -, h⟩ := bind_eq_ok.mp h
  obtain ⟨found, hfound, h⟩ := bind_eq_ok.mp h
  obtain ⟨_, -, h⟩ := bind_eq_ok.mp h
  cases h
  unfold statusIn at hfound
  split at hfound
  · cases hfound
    cases hgenerated
  · rename_i row hrow
    obtain ⟨_, -, hfound⟩ := bind_eq_ok.mp hfound
    cases hfound
    cases hgenerated
    exact ⟨row, hrow, rfl⟩

/-- What a bootstrap answers is stored behind it. -/
theorem pinnedAs_of_bootstrap {call : IdentityCall} {value : Json} {db db' : Directory}
    {answer : IdentityStatus} (h : bootstrap env scheme call value db = .ok (db', answer))
    {generated : MatrixCrossSigningPublicIdentity} (hgenerated : generated ∈ answer.identity) :
    PinnedAs call.principal.id db' generated := by
  rcases bootstrap_cases h with
    ⟨row, hrow, rfl, hanswer⟩ | ⟨_, context, request, -, -, -, hcreated, hanswer⟩
  · rw [hanswer] at hgenerated
    cases hgenerated
    exact ⟨row, hrow, rfl⟩
  · rw [hanswer] at hgenerated
    cases hgenerated
    refine ⟨identityRow call context request, ?_, rfl⟩
    rw [hcreated.identities, if_pos rfl]

/-- An answer that reaches its attempt is known there. -/
theorem phaseInv_answered {db : Directory} {store : Store} {number : ℕ}
    {answer : IdentityStatus} {attempt : Option Attempt}
    (h : ∀ other, attempt = some other → PhaseInv user sdk requests db store other.phase)
    (hanswer : ∀ generated ∈ answer.identity, PinnedAs user db generated) :
    ∀ other, answered number answer attempt = some other →
      PhaseInv user sdk requests db store other.phase := by
  intro other hother
  obtain ⟨before, hbefore, hother⟩ := Option.map_eq_some_iff.mp hother
  have hphase := h before hbefore
  split at hother
  · split at hother
    · cases hother
      intro status hstatus
      cases hstatus
      exact hanswer
    · cases hother
      exact hphase
  · cases hother
    exact hphase

/-- A body that arrives is stored as the body it is. -/
theorem DeployedInv.deliver {w : Deployed Store} {number : ℕ} {value : Json}
    {call : IdentityCall} {db : Directory} {answer : IdentityStatus}
    (h : DeployedInv env scheme user identity sdk requests w) (hsent : (number, value) ∈ w.sent)
    (huser : call.principal.id = user)
    (hbootstrap : bootstrap env scheme call value w.db = .ok (db, answer)) :
    DeployedInv env scheme user identity sdk requests
      { w with db, attempt := answered number answer w.attempt } := by
  subst huser
  have hstep : DirectoryStep env scheme w.db (.bootstrapped call value answer) db :=
    .bootstrap hbootstrap
  have hgrown := grown_of_step hstep
  obtain ⟨generated, hmade⟩ := h.sent _ hsent
  refine ⟨h.directory.step hstep, h.sent, fun row hrow => ?_, ?_⟩
  · rcases bootstrap_cases hbootstrap with
      ⟨_, -, rfl, -⟩ | ⟨body, context, request, hbody, hcontext, hrequest, hcreated, -⟩
    · exact h.stored row hrow
    · have hsame : db.identities.find? call.principal.id = some row := hrow
      rw [hcreated.identities, if_pos rfl] at hsame
      cases hsame
      refine ⟨_, body, request, value, hbody, hcreated.stored hcontext hrequest, ?_⟩
      obtain ⟨signingKeys, deviceSignatures, rfl, htriplet⟩ := readRequests_eq_ok hmade.read
      rw [parseBody_bootstrapBody] at hbody
      cases hbody
      have hidentity := identity_eq_of_parseAndHash hrequest htriplet
      have hrowIdentity : (identityRow call context request).identity = generated := hidentity
      rw [hrowIdentity]
      exact hmade
  · exact phaseInv_answered (fun other hother => (h.attempt other hother).mono hgrown (keeps_refl _))
      fun found hfound => pinnedAs_of_bootstrap hbootstrap hfound

/-- What the directory holds for the user is the triplet of the store. -/
theorem DeployedInv.own_of_pinned {w : Deployed Store}
    (h : DeployedInv env scheme user identity sdk requests w) :
    ∀ own ∈ pinnedIdentity user w.db, ∃ body,
      readRequests identity (requests w.store) = .ok (own, body) := by
  intro own hown
  obtain ⟨row, hrow, rfl⟩ := Option.map_eq_some_iff.mp hown
  obtain ⟨_, _, _, value, -, -, hmade⟩ := h.stored row hrow
  exact ⟨value, hmade.read⟩

/-- **Every step keeps the invariant.** -/
theorem DeployedInv.step (hstable : sdk.Stable identity requests) {w w' : Deployed Store}
    {action : InitAction} (h : DeployedInv env scheme user identity sdk requests w)
    (hstep : InitStep env scheme user identity sdk w action w') :
    DeployedInv env scheme user identity sdk requests w' := by
  cases hstep with
  -- A step of the directory leaves this user's identity alone.
  | directory hdirectory hother =>
    exact h.move (h.directory.step hdirectory) (grown_of_step hdirectory)
      (identity_of_step hdirectory hother) (keeps_refl _) rfl fun attempt hattempt =>
        (h.attempt attempt hattempt).mono (grown_of_step hdirectory) (keeps_refl _)
  -- A store that receives keys stays complete and makes the same body.
  | receive hreceive =>
    have hkeeps := fun hcomplete => hstable.receive _ _ _ hcomplete h.own_of_pinned hreceive
    exact h.move h.directory (.refl _) rfl hkeeps rfl fun attempt hattempt =>
      (h.attempt attempt hattempt).mono (.refl _) hkeeps
  | start _ =>
    refine h.move h.directory (.refl _) rfl (keeps_refl _) rfl fun attempt hattempt => ?_
    cases hattempt
    exact nofun
  -- The answer shows the identity that is stored at that time.
  | answerStatus _ _ huser hanswer =>
    subst huser
    refine h.goTo fun status hstatus generated hgenerated => ?_
    cases hstatus
    exact pinnedAs_of_status hanswer hgenerated
  | readStatus hattempt hphase hread =>
    have hknown := h.attempt _ hattempt
    rw [hphase] at hknown
    refine h.goTo fun generated hgenerated => ?_
    obtain ⟨_, -, hread⟩ := bind_eq_ok.mp hread
    obtain ⟨_, -, hread⟩ := bind_eq_ok.mp hread
    cases hread
    exact hknown _ rfl generated hgenerated
  | inspect _ _ _ => exact h.goTo trivial
  -- The SDK completes the store; what it completed before it makes again.
  | create hattempt _ hbootstrap =>
    obtain ⟨hcomplete, hmade⟩ := hstable.complete _ _ _ hbootstrap
    have hkeeps := fun hbefore =>
      (⟨hcomplete, hstable.again _ _ _ hbefore hbootstrap⟩ : _ ∧ _)
    refine h.move h.directory (.refl _) rfl hkeeps rfl fun other hother => ?_
    cases hother
    exact ⟨hcomplete, hmade⟩
  -- The body that is sent is the one of the complete store.
  | @post attempt remote found made generated body hattempt hphase hprepare =>
    have hknown := h.attempt _ hattempt
    rw [hphase] at hknown
    obtain ⟨hcomplete, rfl⟩ := hknown
    refine ⟨h.directory, fun entry hentry => ?_, h.stored, fun other hother => ?_⟩
    · rcases List.mem_cons.mp hentry with rfl | hentry
      · exact ⟨generated, hcomplete, prepare_eq_ok hprepare⟩
      · exact h.sent entry hentry
    · cases hother
      exact nofun
  | deliver hsent huser hbootstrap => exact h.deliver hsent huser hbootstrap
  | refuse _ _ _ => exact h
  -- The answer to the request shows the identity that was made.
  | publish hattempt hphase hcheck =>
    have hknown := h.attempt _ hattempt
    rw [hphase] at hknown
    refine h.goTo ?_
    obtain ⟨published, hpublished, hcheck⟩ := bind_eq_ok.mp hcheck
    obtain ⟨pinned, hpinned, hidentities⟩ := bind_eq_ok.mp hcheck
    obtain ⟨_, -, hpublished⟩ := bind_eq_ok.mp hpublished
    obtain ⟨_, -, hpublished⟩ := bind_eq_ok.mp hpublished
    obtain rfl := Except.ok.inj hpublished
    have hsame : _ = pinned := of_decide_eq_true (require_eq_ok.mp hidentities)
    rw [hsame]
    exact hknown _ rfl pinned (orThrow_eq_ok.mp hpinned)
  | query hattempt hphase hreceive =>
    have hknown := h.attempt _ hattempt
    rw [hphase] at hknown
    have hkeeps := fun hcomplete => hstable.receive _ _ _ hcomplete h.own_of_pinned hreceive
    refine h.move h.directory (.refl _) rfl hkeeps rfl fun other hother => ?_
    cases hother
    exact hknown
  | complete _ _ _ => exact h.stop
  | failStatus _ _ _ => exact h.stop
  | failInspect _ _ _ => exact h.stop
  | failPrepare _ _ _ => exact h.stop
  | failPublished _ _ _ => exact h.stop
  | failVerified _ _ _ => exact h.stop
  | abandon => exact h.stop

/-- The invariant before the first attempt. -/
theorem deployedInv_of_init {w : Deployed Store}
    (h : (deployed env scheme user identity sdk).init w) :
    DeployedInv env scheme user identity sdk requests w := by
  obtain ⟨⟨trace, hrun⟩, hnone, hattempt, hsent⟩ := h
  refine ⟨inv_of_run hrun, fun entry hentry => ?_, fun row hrow => ?_, fun attempt hother => ?_⟩
  · rw [hsent] at hentry
    cases hentry
  · rw [hnone] at hrow
    cases hrow
  · rw [hattempt] at hother
    cases hother

/-- **The invariant along runs.** -/
theorem deployedInv_of_run (hstable : sdk.Stable identity requests) {trace : List InitAction}
    {w : Deployed Store} (h : (deployed env scheme user identity sdk).Run trace w) :
    DeployedInv env scheme user identity sdk requests w :=
  h.stateInvariant (I := DeployedInv env scheme user identity sdk requests)
    (fun _ => deployedInv_of_init) fun _ _ _ hinv hstep => hinv.step hstable hstep

/-! ## Missing local keys -/

/-- The code of an attempt that finds no complete local triplet. -/
def IsLocalKeys (code : ErrorCode) : Prop := code = "MATRIX_CROSS_SIGNING_LOCAL_KEYS_REQUIRED"

instance : DecidablePred IsLocalKeys := fun code => inferInstanceAs (Decidable (code = _))

theorem avoids_object (value : Option Json) : Avoids IsLocalKeys (object value) :=
  avoids_orThrow (by decide)

theorem avoids_exactObject (value : Option Json) (keys : List JsString) :
    Avoids IsLocalKeys (exactObject value keys) :=
  (avoids_object _).bind fun _ _ => (avoids_require (by decide)).bind fun _ _ => avoids_ok _

theorem avoids_jsonObject (round : JsString → JsNumber) (text : JsString) :
    Avoids IsLocalKeys (jsonObject round text) :=
  (avoids_require (by decide)).bind fun _ _ => (avoids_orThrow (by decide)).bind fun _ _ =>
    (avoids_object _).bind fun _ _ => avoids_ok _

theorem avoids_assertPublicSignatures (value : Option Json) (userId : JsString) :
    Avoids IsLocalKeys (assertPublicSignatures value userId) :=
  (avoids_exactObject _ _).bind fun _ _ => (avoids_object _).bind fun _ _ =>
    avoids_require (by decide)

theorem avoids_publicKey (value : Option Json) (usage : CrossSigningUsage) (userId : JsString) :
    Avoids IsLocalKeys (publicKey value usage userId) :=
  (avoids_exactObject _ _).bind fun _ _ => (avoids_require (by decide)).bind fun _ _ =>
    (avoids_object _).bind fun _ _ => (avoids_orThrow (by decide)).bind fun _ _ =>
    (avoids_orThrow (by decide)).bind fun _ _ => (avoids_require (by decide)).bind fun _ _ =>
    (avoids_assertPublicSignatures _ _).bind fun _ _ => avoids_ok _

theorem avoids_publicTriplet (value : Json) (userId : JsString) :
    Avoids IsLocalKeys (publicTriplet value userId) :=
  (avoids_exactObject _ _).bind fun _ _ => (avoids_publicKey _ _ _).bind fun _ _ =>
    (avoids_publicKey _ _ _).bind fun _ _ => (avoids_publicKey _ _ _).bind fun _ _ =>
    (avoids_require (by decide)).bind fun _ _ => avoids_ok _

theorem avoids_assertPublicDeviceSignature (value : Json) (identity : MatrixCryptoIdentity)
    (selfSigningKey : JsString) :
    Avoids IsLocalKeys (assertPublicDeviceSignature value identity selfSigningKey) :=
  (avoids_exactObject _ _).bind fun _ _ => (avoids_exactObject _ _).bind fun _ _ =>
    (avoids_exactObject _ _).bind fun _ _ => (avoids_require (by decide)).bind fun _ _ =>
    (avoids_exactObject _ _).bind fun _ _ => (avoids_require (by decide)).bind fun _ _ =>
    (avoids_exactObject _ _).bind fun _ _ => (avoids_exactObject _ _).bind fun _ _ =>
    avoids_assertPublicSignatures _ _

theorem avoids_assertStatus (status : IdentityStatus) (identity : MatrixCryptoIdentity) :
    Avoids IsLocalKeys (assertStatus status identity) :=
  (avoids_require (by decide)).bind fun _ _ => (avoids_require (by decide)).bind fun _ _ =>
    avoids_ok _

theorem avoids_readOwnIdentity (identity : MatrixCryptoIdentity) (requireDeviceTrust : Bool)
    (own : Option OwnIdentity) :
    Avoids IsLocalKeys (readOwnIdentity identity requireDeviceTrust own) := by
  cases own with
  | none => exact avoids_ok _
  | some own =>
    exact (avoids_require (by decide)).bind fun _ _ => (avoids_require (by decide)).bind fun _ _ =>
      (avoids_jsonObject _ _).bind fun _ _ => (avoids_jsonObject _ _).bind fun _ _ =>
      (avoids_jsonObject _ _).bind fun _ _ => (avoids_publicTriplet _ _).bind fun _ _ => avoids_ok _

theorem avoids_assertSameAs (a : MatrixCrossSigningPublicIdentity)
    (b : Option MatrixCrossSigningPublicIdentity) : Avoids IsLocalKeys (assertSameAs a b) := by
  cases b with
  | none => exact avoids_ok _
  | some b => exact avoids_require (by decide)

theorem avoids_assertSameBoth (a b : Option MatrixCrossSigningPublicIdentity) :
    Avoids IsLocalKeys (assertSameBoth a b) := by
  cases a <;> cases b <;> first | exact avoids_ok _ | exact avoids_require (by decide)

theorem avoids_prepare (identity : MatrixCryptoIdentity)
    (found remote : Option MatrixCrossSigningPublicIdentity)
    (made : CrossSigningBootstrapRequests) :
    Avoids IsLocalKeys (prepare identity found remote made) := by
  have hread : Avoids IsLocalKeys (readRequests identity made) :=
    (avoids_require (by decide)).bind fun _ _ => (avoids_jsonObject _ _).bind fun _ _ =>
      (avoids_jsonObject _ _).bind fun _ _ => (avoids_publicTriplet _ _).bind fun _ _ =>
      (avoids_assertPublicDeviceSignature _ _ _).bind fun _ _ =>
      (avoids_require (by decide)).bind fun _ _ => avoids_ok _
  exact hread.bind fun _ _ => (avoids_assertSameAs _ _).bind fun _ _ =>
    (avoids_assertSameAs _ _).bind fun _ _ => avoids_ok _

theorem avoids_checkPublished (identity : MatrixCryptoIdentity)
    (generated : MatrixCrossSigningPublicIdentity) (answer : IdentityStatus) :
    Avoids IsLocalKeys (checkPublished identity generated answer) :=
  (avoids_assertStatus _ _).bind fun _ _ => (avoids_orThrow (by decide)).bind fun _ _ =>
    avoids_require (by decide)

theorem avoids_checkVerified (identity : MatrixCryptoIdentity)
    (generated : MatrixCrossSigningPublicIdentity) (own : Option OwnIdentity) :
    Avoids IsLocalKeys (checkVerified identity generated own) :=
  (avoids_readOwnIdentity _ _ _).bind fun _ _ => (avoids_orThrow (by decide)).bind fun _ _ =>
    avoids_require (by decide)

/-- The identity that is read is there when the SDK has one. -/
theorem isSome_of_readOwnIdentity {requireDeviceTrust : Bool} {own : Option OwnIdentity}
    {found : Option MatrixCrossSigningPublicIdentity}
    (h : readOwnIdentity identity requireDeviceTrust own = .ok found) :
    found.isSome = own.isSome := by
  cases own with
  | none =>
    cases h
    rfl
  | some own =>
    obtain ⟨_, -, h⟩ := bind_eq_ok.mp h
    obtain ⟨_, -, h⟩ := bind_eq_ok.mp h
    obtain ⟨_, -, h⟩ := bind_eq_ok.mp h
    obtain ⟨_, -, h⟩ := bind_eq_ok.mp h
    obtain ⟨_, -, h⟩ := bind_eq_ok.mp h
    obtain ⟨_, -, h⟩ := bind_eq_ok.mp h
    cases h
    rfl

/-- A complete local triplet passes the comparison with the status. -/
theorem Sdk.Complete.avoids_inspect {store : Store} (h : sdk.Complete store)
    (remote : Option MatrixCrossSigningPublicIdentity) :
    Avoids IsLocalKeys
      (inspect identity remote (sdk.crossSigningStatus store) (sdk.getIdentity store)) := by
  refine (avoids_readOwnIdentity _ _ _).bind fun found hfound => ?_
  have hall : (sdk.crossSigningStatus store).availability.all id = true :=
    List.all_eq_true.mpr h.privateKeys
  have hsome : found.isSome = true := (isSome_of_readOwnIdentity hfound).trans h.identity
  have hnone : found.isNone = false := by rw [← Option.not_isSome, hsome]; rfl
  refine Avoids.bind (fun error herror => ?_) fun _ _ =>
    (avoids_assertSameBoth _ _).bind fun _ _ => avoids_ok _
  rw [hall, hsome, hnone] at herror
  simp [require] at herror

/-- So does no key at all, where the server has none. -/
theorem Sdk.Blank.avoids_inspect {store : Store} (h : sdk.Blank store) :
    Avoids IsLocalKeys
      (inspect identity none (sdk.crossSigningStatus store) (sdk.getIdentity store)) := by
  have hall : (sdk.crossSigningStatus store).availability.all id = false := by
    rw [List.all_eq_false]
    exact ⟨_, List.mem_cons_self, by simp [h.privateKeys _ List.mem_cons_self]⟩
  have hany : (sdk.crossSigningStatus store).availability.any id = false :=
    List.any_eq_false.mpr fun available havailable => by simp [h.privateKeys _ havailable]
  rw [h.identity]
  refine (avoids_ok none).bind fun found hfound => ?_
  obtain rfl := Except.ok.inj hfound
  refine Avoids.bind (fun error herror => ?_) fun _ _ =>
    (avoids_assertSameBoth _ _).bind fun _ _ => avoids_ok _
  rw [hall, hany] at herror
  simp [require] at herror

/-- **An attempt fails for missing local keys where it compares**, and finds them missing. -/
theorem inspects_of_localKeys {w w' : Deployed Store} {code : ErrorCode} (hcode : IsLocalKeys code)
    (hstep : InitStep env scheme user identity sdk w (.failed code) w') :
    ∃ attempt remote, w.attempt = some attempt ∧ attempt.phase = .inspecting remote ∧
      ¬ Avoids IsLocalKeys
        (inspect identity remote (sdk.crossSigningStatus w.store) (sdk.getIdentity w.store)) := by
  cases hstep with
  | failStatus _ _ herror => exact absurd hcode (avoids_assertStatus _ _ _ herror)
  | failInspect hattempt hphase herror =>
    exact ⟨_, _, hattempt, hphase, fun havoids => havoids _ herror hcode⟩
  | failPrepare _ _ herror => exact absurd hcode (avoids_prepare _ _ _ _ _ herror)
  | failPublished _ _ herror => exact absurd hcode (avoids_checkPublished _ _ _ _ herror)
  | failVerified _ _ herror => exact absurd hcode (avoids_checkVerified _ _ _ _ herror)

/-- Blank or complete: a store that began without keys has none or all. -/
def Whole (sdk : Sdk Store) (store : Store) : Prop := sdk.Blank store ∨ sdk.Complete store

/-- A blank store is not complete. -/
theorem Sdk.Blank.not_complete {store : Store} (h : sdk.Blank store) : ¬ sdk.Complete store := by
  intro hcomplete
  have hidentity := hcomplete.identity
  rw [h.identity] at hidentity
  cases hidentity

/-- Nothing is stored for a user whose store is blank. -/
theorem DeployedInv.pinnedIdentity_eq_none {w : Deployed Store}
    (h : DeployedInv env scheme user identity sdk requests w) (hblank : sdk.Blank w.store) :
    w.db.identities.find? user = none := by
  cases hrow : w.db.identities.find? user with
  | none => rfl
  | some row =>
    obtain ⟨_, _, _, _, -, -, hmade⟩ := h.stored row hrow
    exact absurd hmade.complete hblank.not_complete

/-- What the SDK learns of the directory keeps a store whole. -/
theorem DeployedInv.whole_receive (hstable : sdk.Stable identity requests) {w : Deployed Store}
    {store : Store} (h : DeployedInv env scheme user identity sdk requests w)
    (hwhole : Whole sdk w.store) (hreceive : sdk.receive (pinnedIdentity user w.db) w.store store) :
    Whole sdk store := by
  rcases hwhole with hblank | hcomplete
  · rw [pinnedIdentity, h.pinnedIdentity_eq_none hblank] at hreceive
    exact .inl (hstable.blank _ _ hblank hreceive)
  · exact .inr (hstable.receive _ _ _ hcomplete h.own_of_pinned hreceive).1

/-- A store stays blank or complete. -/
theorem DeployedInv.whole_step (hstable : sdk.Stable identity requests) {w w' : Deployed Store}
    {action : InitAction} (h : DeployedInv env scheme user identity sdk requests w)
    (hwhole : Whole sdk w.store) (hstep : InitStep env scheme user identity sdk w action w') :
    Whole sdk w'.store := by
  cases hstep with
  | receive hreceive => exact h.whole_receive hstable hwhole hreceive
  | create _ _ hbootstrap => exact .inr (hstable.complete _ _ _ hbootstrap).1
  | query _ _ hreceive => exact h.whole_receive hstable hwhole hreceive
  | _ => exact hwhole

/-- **A whole store is never found without its keys.** -/
theorem DeployedInv.not_localKeys {w w' : Deployed Store} {code : ErrorCode}
    (h : DeployedInv env scheme user identity sdk requests w) (hwhole : Whole sdk w.store)
    (hstep : InitStep env scheme user identity sdk w (.failed code) w') : ¬ IsLocalKeys code := by
  intro hcode
  obtain ⟨attempt, remote, hattempt, hphase, hfails⟩ := inspects_of_localKeys hcode hstep
  rcases hwhole with hblank | hcomplete
  · have hknown := h.attempt attempt hattempt
    rw [hphase] at hknown
    have hremote : remote = none := by
      cases remote with
      | none => rfl
      | some generated =>
        obtain ⟨row, hrow, -⟩ := hknown generated rfl
        rw [h.pinnedIdentity_eq_none hblank] at hrow
        cases hrow
    subst hremote
    exact hfails hblank.avoids_inspect
  · exact hfails (hcomplete.avoids_inspect remote)

/-! ## Convergence -/

/-- Bodies of one store are one body. -/
theorem Made.eq {store : Store} {generated generated' : MatrixCrossSigningPublicIdentity}
    {value value' : Json} (h : Made identity sdk requests store generated value)
    (h' : Made identity sdk requests store generated' value') :
    generated = generated' ∧ value = value' := by
  have hread := h.read
  rw [h'.read] at hread
  cases hread
  exact ⟨rfl, rfl⟩

/-- An answer to a body that was sent is not a conflict with what is stored. -/
theorem DeployedInv.not_conflict {w w' : Deployed Store} {call : IdentityCall} {value : Json}
    {error : HttpException} (h : DeployedInv env scheme user identity sdk requests w)
    (hstep : InitStep env scheme user identity sdk w (.delivered call value (.error error)) w') :
    ¬ IsIdentityConflict error := by
  cases hstep with
  | refuse hsent huser herror =>
    subst huser
    cases hrow : w.db.identities.find? call.principal.id with
    | none => exact avoids_first_bootstrap hrow _ herror
    | some row =>
      obtain ⟨certificate, body, request, stored, hbody, hstored, hmade⟩ := h.stored row hrow
      obtain ⟨generated, hsame⟩ := h.sent _ hsent
      obtain ⟨-, rfl⟩ := hmade.eq hsame
      exact h.directory.avoids_again hrow hstored hbody _ herror

/-- What an attempt that completes leaves: the local triplet is the one that is stored. -/
theorem DeployedInv.completed {w w' : Deployed Store}
    (h : DeployedInv env scheme user identity sdk requests w)
    (hstep : InitStep env scheme user identity sdk w .completed w') :
    ∃ triplet value, PinnedAs user w.db triplet ∧
      readOwnIdentity identity true (sdk.getIdentity w.store) = .ok (some triplet) ∧
      Made identity sdk requests w.store triplet value := by
  cases hstep with
  | complete hattempt hphase hcheck =>
    have hknown := h.attempt _ hattempt
    rw [hphase] at hknown
    obtain ⟨found, hfound, hcheck⟩ := bind_eq_ok.mp hcheck
    obtain ⟨verified, hverified, hsame⟩ := bind_eq_ok.mp hcheck
    obtain rfl := orThrow_eq_ok.mp hverified
    obtain rfl := of_decide_eq_true (require_eq_ok.mp hsame)
    obtain ⟨row, hrow, rfl⟩ := hknown
    obtain ⟨_, _, _, value, -, -, hmade⟩ := h.stored row hrow
    exact ⟨row.identity, value, ⟨row, hrow, rfl⟩, hfound, hmade⟩

/-- **The bootstrap converges.** In every run, all bodies that were sent are one, that
of the complete local triplet, which is what is stored for the user if anything is. No
body is refused for a replay with other content or for a change of the identity, an
attempt that completes leaves the local triplet and the stored one the same, and one
that fails for missing local keys finds the triplet incomplete; it never does where the
store began without keys. -/
theorem cross_signing_bootstrap_converges (env : Deployment) (scheme : SignatureScheme)
    (user : Uuid) (identity : MatrixCryptoIdentity) {Store : Type} (sdk : Sdk Store)
    {requests : Store → CrossSigningBootstrapRequests} (hstable : sdk.Stable identity requests) :
    (∀ trace w, (deployed env scheme user identity sdk).Run trace w →
      (∀ sent ∈ w.sent, ∀ other ∈ w.sent, sent.2 = other.2) ∧
      (∀ sent ∈ w.sent, ∃ triplet, Made identity sdk requests w.store triplet sent.2) ∧
      (∀ row, w.db.identities.find? user = some row →
        ∃ value, Made identity sdk requests w.store row.identity value) ∧
      ∀ action w', (deployed env scheme user identity sdk).step w action w' →
        (∀ call value error, action = .delivered call value (.error error) →
          ¬ IsIdentityConflict error) ∧
        (action = .completed → ∃ triplet value, PinnedAs user w.db triplet ∧
          readOwnIdentity identity true (sdk.getIdentity w.store) = .ok (some triplet) ∧
          Made identity sdk requests w.store triplet value) ∧
        (action = .failed "MATRIX_CROSS_SIGNING_LOCAL_KEYS_REQUIRED" →
          ¬ sdk.Complete w.store)) ∧
      ∀ w₀ trace w, (deployed env scheme user identity sdk).init w₀ → sdk.Blank w₀.store →
        (deployed env scheme user identity sdk).Steps w₀ trace w →
        ∀ w', ¬ (deployed env scheme user identity sdk).step w
          (.failed "MATRIX_CROSS_SIGNING_LOCAL_KEYS_REQUIRED") w' := by
  refine ⟨fun trace w hrun => ?_, fun w₀ trace w hinit hblank hsteps w' hstep => ?_⟩
  · have hinv := deployedInv_of_run hstable hrun
    refine ⟨fun sent hsent other hother => ?_, hinv.sent, fun row hrow => ?_,
      fun action w' hstep => ⟨?_, ?_, ?_⟩⟩
    · obtain ⟨_, hmade⟩ := hinv.sent sent hsent
      obtain ⟨_, hmade'⟩ := hinv.sent other hother
      exact (hmade.eq hmade').2
    · obtain ⟨_, _, _, value, -, -, hmade⟩ := hinv.stored row hrow
      exact ⟨value, hmade⟩
    · rintro call value error rfl
      exact hinv.not_conflict hstep
    · rintro rfl
      exact hinv.completed hstep
    · rintro rfl hcomplete
      exact hinv.not_localKeys (.inr hcomplete) hstep rfl
  · have hboth : DeployedInv env scheme user identity sdk requests w ∧ Whole sdk w.store :=
      hsteps.invariant (I := fun w => DeployedInv env scheme user identity sdk requests w ∧
          Whole sdk w.store)
        (fun s action s' h hs => ⟨h.1.step hstable hs, h.1.whole_step hstable h.2 hs⟩)
        ⟨deployedInv_of_init hinit, .inl hblank⟩
    exact hboth.1.not_localKeys hboth.2 hstep rfl

end

/-! ## Two attempts -/

namespace Sample

open SinoChat.Sample (clientKeys)

/-- The device, whose numbers are not read. -/
def cryptoIdentity : MatrixCryptoIdentity where
  userId := clientKeys.matrixUserId
  deviceId := clientKeys.matrixDeviceId
  round := fun _ => .negativeZero

/-- The own identity of the SDK behind the bootstrap. -/
def own : OwnIdentity where
  isOwnUserIdentity := true
  hasVerificationViolation := false
  isVerified := true
  trustsOurOwnDevice := true
  masterKey := stringify request.masterKey.toJson
  selfSigningKey := stringify request.selfSigningKey.toJson
  userSigningKey := stringify request.userSigningKey.toJson

/-- The requests of the SDK for that identity. -/
def requests : CrossSigningBootstrapRequests where
  uploadKeysRequest := false
  signingKeysBody := stringify request.signingKeys
  signaturesBody := stringify deviceSignatures
  signaturesId := false

/-- An SDK that makes that identity; its store says whether it did. -/
def sdk : Sdk Bool where
  crossSigningStatus made := ⟨made, made, made⟩
  getIdentity made := if made then some own else none
  bootstrapCrossSigning _ made returned := made = true ∧ returned = requests
  receive _ made made' := made' = made

/-- That SDK is stable. -/
theorem sdk_stable : sdk.Stable cryptoIdentity fun _ => requests where
  complete := by
    rintro store store' returned ⟨rfl, rfl⟩
    exact ⟨⟨by decide, rfl⟩, rfl⟩
  again _ _ _ _ _ := rfl
  receive := by
    rintro pinned store store' hcomplete - rfl
    exact ⟨hcomplete, rfl⟩
  blank := by
    rintro store store' hblank rfl
    exact hblank

/-- A short text of a value is read. -/
theorem jsonObject_stringify {round : JsString → JsNumber} {j : Json} (h : j.listed = true)
    (hlength : (stringify j).length ≤ 16384) (hrecord : j.record?.isSome = true) :
    jsonObject round (stringify j) = .ok j := by
  obtain ⟨entries, hentries⟩ := Option.isSome_iff_exists.mp hrecord
  refine bind_eq_ok.mpr ⟨(), require_eq_ok.mpr (decide_eq_true hlength), bind_eq_ok.mpr ⟨j, ?_,
    bind_eq_ok.mpr ⟨entries, orThrow_eq_ok.mpr hentries, rfl⟩⟩⟩
  exact orThrow_eq_ok.mpr (parseJson_stringify h)

/-- A text of the sample that the client reads. -/
def readable (j : Json) : Bool :=
  j.listed && decide ((stringify j).length ≤ 16384) && j.record?.isSome

/-- All texts of the sample are readable. -/
theorem readable_sample : [request.masterKey.toJson, request.selfSigningKey.toJson,
    request.userSigningKey.toJson, request.signingKeys, deviceSignatures].all readable = true := by
  decide +kernel

/-- So the client reads them. -/
theorem jsonObject_sample {j : Json} (h : j ∈ [request.masterKey.toJson,
    request.selfSigningKey.toJson, request.userSigningKey.toJson, request.signingKeys,
    deviceSignatures]) : jsonObject cryptoIdentity.round (stringify j) = .ok j := by
  have hreadable := List.all_eq_true.mp readable_sample j h
  rw [readable, Bool.and_eq_true, Bool.and_eq_true] at hreadable
  obtain ⟨⟨hlisted, hlength⟩, hrecord⟩ := hreadable
  exact jsonObject_stringify hlisted (of_decide_eq_true hlength) hrecord

/-- It reads the keys of the identity. -/
theorem publicTriplet_sample :
    publicTriplet request.signingKeys cryptoIdentity.userId = .ok identity := by
  have hread : (publicTriplet request.signingKeys cryptoIdentity.userId).toOption =
      some identity := by decide +kernel
  exact ok_of_toOption hread

/-- The SDK's requests are read as the body of the sample. -/
theorem readRequests_sample : readRequests cryptoIdentity requests = .ok (identity, body) := by
  have hdevice : assertPublicDeviceSignature deviceSignatures cryptoIdentity
      identity.selfSigningKey = .ok () := by
    have hread : (assertPublicDeviceSignature deviceSignatures cryptoIdentity
        identity.selfSigningKey).toOption = some () := by decide +kernel
    exact ok_of_toOption hread
  exact bind_eq_ok.mpr ⟨(), rfl, bind_eq_ok.mpr ⟨_, jsonObject_sample (by simp),
    bind_eq_ok.mpr ⟨_, jsonObject_sample (by simp), bind_eq_ok.mpr ⟨_, publicTriplet_sample,
      bind_eq_ok.mpr ⟨(), hdevice, bind_eq_ok.mpr ⟨(), rfl, rfl⟩⟩⟩⟩⟩⟩

/-- So is the own identity. -/
theorem readOwnIdentity_sample (requireDeviceTrust : Bool) :
    readOwnIdentity cryptoIdentity requireDeviceTrust (some own) = .ok (some identity) :=
  bind_eq_ok.mpr ⟨(), rfl, bind_eq_ok.mpr ⟨(), by cases requireDeviceTrust <;> rfl,
    bind_eq_ok.mpr ⟨_, jsonObject_sample (by simp), bind_eq_ok.mpr ⟨_, jsonObject_sample (by simp),
      bind_eq_ok.mpr ⟨_, jsonObject_sample (by simp),
        bind_eq_ok.mpr ⟨_, publicTriplet_sample, rfl⟩⟩⟩⟩⟩⟩

/-- The client and the server of the sample. -/
abbrev client : Machine (Deployed Bool) InitAction :=
  deployed deployment scheme call.principal.id cryptoIdentity sdk

/-- The status before an identity is stored. -/
theorem status_sample : ∃ answer, status deployment.matrixServerName call directory = .ok answer ∧
    assertStatus answer cryptoIdentity = .ok none := by
  have hread : (status deployment.matrixServerName call directory).toOption.any (fun answer =>
      (assertStatus answer cryptoIdentity).toOption = some none) = true := by decide +kernel
  obtain ⟨answer, hanswer, hnone⟩ := (Option.any_eq_true _ _).mp hread
  exact ⟨answer, ok_of_toOption hanswer, ok_of_toOption (of_decide_eq_true hnone)⟩

/-- The first body that arrives is stored, and its answer passes the checks. -/
theorem bootstrap_sample : ∃ db answer, bootstrap deployment scheme call body directory =
    .ok (db, answer) ∧ answer.identity = some identity ∧
      checkPublished cryptoIdentity identity answer = .ok () := by
  have hread : (bootstrap deployment scheme call body directory).toOption.any (fun result =>
      decide (result.2.identity = some identity) &&
        (checkPublished cryptoIdentity identity result.2).toOption = some ()) = true := by
    decide +kernel
  obtain ⟨⟨db, answer⟩, hanswer, hchecked⟩ := (Option.any_eq_true _ _).mp hread
  obtain ⟨hpinned, hchecked⟩ := Bool.and_eq_true_iff.mp hchecked
  exact ⟨db, answer, ok_of_toOption hanswer, of_decide_eq_true hpinned,
    ok_of_toOption (of_decide_eq_true hchecked)⟩

/-- An attempt gets as far as its request. -/
theorem run_posts {trace : List InitAction} {w : Deployed Bool} (h : client.Run trace w)
    (hdb : w.db = directory) (hattempt : w.attempt = none) :
    ∃ trace', client.Run trace' { w with
      store := true
      attempt := some ⟨w.attempts, .posting identity none⟩
      attempts := w.attempts + 1
      sent := (w.attempts, body) :: w.sent } := by
  obtain ⟨answer, hanswer, hnone⟩ := status_sample
  have hself : assertSameIdentity identity identity = .ok () := require_eq_ok.mpr (by simp)
  obtain ⟨found, hinspect, hsame⟩ : ∃ found,
      inspect cryptoIdentity none (sdk.crossSigningStatus w.store) (sdk.getIdentity w.store) =
        .ok found ∧ assertSameAs identity found = .ok () := by
    cases w.store with
    | false => exact ⟨none, rfl, rfl⟩
    | true =>
      exact ⟨some identity, bind_eq_ok.mpr ⟨_, readOwnIdentity_sample false, rfl⟩, hself⟩
  have h₁ := h.step (InitStep.start hattempt)
  have h₂ := h₁.step (InitStep.answerStatus rfl rfl rfl (hdb ▸ hanswer))
  have h₃ := h₂.step (InitStep.readStatus rfl rfl hnone)
  have h₄ := h₃.step (InitStep.inspect rfl rfl hinspect)
  have h₅ := h₄.step (InitStep.create rfl rfl ⟨rfl, rfl⟩)
  have hprepare : prepare cryptoIdentity found none requests = .ok (identity, body) :=
    bind_eq_ok.mpr ⟨_, readRequests_sample, bind_eq_ok.mpr ⟨(), hsame,
      bind_eq_ok.mpr ⟨(), rfl, rfl⟩⟩⟩
  have h₆ := h₅.step (InitStep.post rfl rfl hprepare)
  exact ⟨_, h₆⟩

/-- An attempt is given up behind its request, and the next one completes. -/
theorem run_completes : ∃ trace w, client.Run (.completed :: trace) w ∧ w.sent.length = 2 ∧
    PinnedAs call.principal.id w.db identity := by
  have hinit : client.init ⟨directory, false, none, 0, []⟩ :=
    ⟨⟨[], .init directory_init⟩, rfl, rfl, rfl⟩
  obtain ⟨_, h₁⟩ := run_posts (.init hinit) rfl rfl
  obtain ⟨trace, h₂⟩ := run_posts (h₁.step InitStep.abandon) rfl rfl
  obtain ⟨db, answer, hbootstrap, hpinned, hpublished⟩ := bootstrap_sample
  have h₃ := h₂.step (InitStep.deliver List.mem_cons_self rfl hbootstrap)
  have h₄ := h₃.step (InitStep.publish rfl rfl hpublished)
  have h₅ := h₄.step (InitStep.query rfl rfl rfl)
  have hverified : checkVerified cryptoIdentity identity (some own) = .ok () :=
    bind_eq_ok.mpr ⟨_, readOwnIdentity_sample true, bind_eq_ok.mpr ⟨_, rfl,
      require_eq_ok.mpr (decide_eq_true rfl)⟩⟩
  exact ⟨_, _, h₅.step (InitStep.complete rfl rfl hverified), rfl,
    pinnedAs_of_bootstrap hbootstrap hpinned⟩

end Sample

/-- An attempt is given up when its request is sent, and the next one completes: both bodies that
were sent are one, and what is stored is what the store of the SDK makes. -/
theorem cross_signing_bootstrap_converges_client : ∃ trace w,
    Sample.client.Run (.completed :: trace) w ∧ w.sent.length = 2 ∧
      (∀ sent ∈ w.sent, ∀ other ∈ w.sent, sent.2 = other.2) ∧
      ∃ row value, w.db.identities.find? Sample.call.principal.id = some row ∧
        Made Sample.cryptoIdentity Sample.sdk (fun _ => Sample.requests) w.store row.identity
          value := by
  obtain ⟨trace, w, hrun, hsent, row, hrow, -⟩ := Sample.run_completes
  obtain ⟨hsame, -, hstored, -⟩ := (cross_signing_bootstrap_converges Sample.deployment
    Sample.scheme Sample.call.principal.id Sample.cryptoIdentity Sample.sdk
    Sample.sdk_stable).1 _ w hrun
  obtain ⟨value, hmade⟩ := hstored row hrow
  exact ⟨trace, w, hrun, hsent, hsame, row, value, hrow, hmade⟩

end CrossSigning

end SinoChat
