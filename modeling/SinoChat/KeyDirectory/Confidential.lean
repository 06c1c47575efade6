import SinoChat.KeyDirectory.Queries
import SinoChat.ToDevice.SendOnce

/-!
# Key queries keep to their users

The two halves of confidentiality, over the tables of any reachable state. What a
query answers with is of users it names whom the caller may ask for (`Confined`), and
it is what the part of the tables with the caller and those users gives: nothing of
the other rows has a trace in the answer, not even in an error.
-/

namespace SinoChat

open Js

namespace KeyQuery

open CrossSigning (Directory SignatureScheme MatrixCrossSigningIdentity)

variable {env : Deployment} {scheme : SignatureScheme} {serverName : JsString}
variable {db : Directory} {seen : Uuid → Bool} {principal : SessionPrincipal}
variable {query : MatrixKeysQuery} {value : Json}

/-! ## The answer from a part of the tables -/

theorem activeDevice_only (h : Consistent serverName db) {row : MatrixDeviceKey}
    (hrow : row ∈ db.accounts.deviceKeys) (hseen : seen row.userId = true) :
    (onlyAccounts seen db.accounts).activeDevice row.deviceId =
      db.accounts.activeDevice row.deviceId := by
  have hdevices : (onlyAccounts seen db.accounts).devices.find? row.deviceId =
      db.accounts.devices.find? row.deviceId := by
    refine Table.find?_filter_of fun device hdevice hid => ?_
    obtain ⟨owned, howned, hownedId, huser⟩ := h.constraints.owner row hrow
    obtain rfl := Table.eq_of_key_eq hdevice howned (hid.trans hownedId.symm)
    rw [huser, hseen]
  unfold Accounts.activeDevice
  rw [hdevices]

theorem keysOfDevice_only (h : Consistent serverName db) {row : MatrixDeviceKey}
    (hrow : row ∈ db.accounts.deviceKeys) (hseen : seen row.userId = true) :
    keysOfDevice (only seen db) row = keysOfDevice db row := by
  have hcertificates : (only seen db).certificates.find? row.deviceId =
      db.certificates.find? row.deviceId := by
    refine Table.find?_filter_of fun certificate hcertificate hid => ?_
    obtain ⟨owner, howner, hownerId, huser⟩ := h.certified certificate hcertificate
    obtain rfl := Table.eq_of_key_eq howner hrow (hownerId.trans hid)
    rw [← huser, hseen]
  have hkeys : (only seen db).deviceKeys row.deviceId = db.deviceKeys row.deviceId := by
    have hfound : db.accounts.deviceKeys.find? row.deviceId = some row :=
      Table.find?_eq_some.mpr ⟨hrow, rfl⟩
    refine if_pos ?_
    rw [hfound, Option.any_some, hseen]
  rw [keysOfDevice, hcertificates, hkeys]
  rfl

/-- Everyone the query names is seen. -/
def SeesAll (serverName : JsString) (seen : Uuid → Bool) (query : MatrixKeysQuery) : Prop :=
  ∀ matrixUserId ∈ query.users, ∀ userId, matrixUserId = matrixUserIdFromUuid userId serverName →
    seen userId = true

/-- A row of a user the query names is of somebody seen. -/
theorem SeesAll.row (hseen : SeesAll serverName seen query) {matrixUserId : JsString}
    {userId : Uuid} (hnamed : query.users.contains matrixUserId = true)
    (hcanonical : matrixUserId = matrixUserIdFromUuid userId serverName) : seen userId = true :=
  hseen _ (List.contains_iff_mem.mp hnamed) _ hcanonical

theorem queriedRows_only (h : Consistent serverName db) (hseen : SeesAll serverName seen query) :
    queriedRows (onlyAccounts seen db.accounts) query.users =
      queriedRows db.accounts query.users := by
  unfold queriedRows
  congr 1
  show (List.filter _ (List.filter _ _)) = _
  rw [List.filter_filter]
  refine List.filter_congr fun row hrow => ?_
  by_cases hnamed : query.users.contains row.matrixUserId = true
  · have hrowSeen := hseen.row hnamed (h.canonical row hrow)
    rw [hnamed, hrowSeen, Bool.true_and, Bool.true_and, Bool.and_true,
      activeDevice_only h hrow hrowSeen]
  · rw [Bool.not_eq_true] at hnamed
    rw [hnamed, Bool.false_and, Bool.false_and, Bool.false_and]

theorem queriedIdentities_only (h : Consistent serverName db)
    (hseen : SeesAll serverName seen query) :
    queriedIdentities (only seen db) query.users = queriedIdentities db query.users := by
  unfold queriedIdentities
  show (List.filter _ (List.filter _ _)) = _
  rw [List.filter_filter]
  refine List.filter_congr fun identity hidentity => ?_
  by_cases hnamed : query.users.contains identity.matrixUserId = true
  · rw [hnamed, hseen.row hnamed (h.identities identity hidentity)]
    rfl
  · rw [Bool.not_eq_true] at hnamed
    rw [hnamed, Bool.false_and]

/-- **The answer is that of the users it names.** -/
theorem queryResponse_only (h : Consistent serverName db) (hseen : SeesAll serverName seen query)
    (ownMatrixUserId : JsString) : queryResponse (only seen db) query ownMatrixUserId =
      queryResponse db query ownMatrixUserId := by
  have hfold : ∀ entries, (queriedRows db.accounts query.users).foldl
      (addDevice (only seen db) query) entries =
        (queriedRows db.accounts query.users).foldl (addDevice db query) entries := by
    intro entries
    refine List.foldl_ext _ _ _ fun map row hrow => ?_
    obtain ⟨hmember, hqueried⟩ := List.mem_filter.mp (List.mem_sortBy.mp hrow)
    rw [Bool.and_eq_true] at hqueried
    unfold addDevice
    rw [keysOfDevice_only h hmember (hseen.row hqueried.1 (h.canonical row hmember))]
  have hrows : queriedRows (only seen db).accounts query.users =
      queriedRows db.accounts query.users := queriedRows_only h hseen
  unfold queryResponse
  dsimp only
  rw [hrows, hfold, queriedIdentities_only h hseen]

/-! ## `queryKeys` -/

theorem ok_bind {ε α β : Type} (a : α) (f : α → Except ε β) : (Except.ok a >>= f) = f a := rfl

/-- The parties of the conversation a query is for. -/
theorem conversationParties_eq_ok {accounts : Accounts} {conversationId deviceId : Uuid} {now : ℕ}
    {parties : Uuid × Uuid}
    (h : conversationParties accounts principal conversationId deviceId now = .ok parties) :
    parties ∈ accounts.currentOfConversation principal.id conversationId deviceId now := by
  unfold conversationParties at h
  split at h
  · cases h
  · rename_i hrows
    obtain rfl := Except.ok.inj h
    rw [hrows]
    exact List.mem_singleton_self _
  · cases h

/-- Whom the caller may ask for: the caller, and counterparts. -/
def Allowed (accounts : Accounts) (ownUserId : Uuid) (now : ℕ) (userId : Uuid) : Prop :=
  userId = ownUserId ∨ Counterparts accounts ownUserId userId now

/-- Every user the query names may be asked for, at the time its eligibility was read. -/
def AllowsAll (serverName : JsString) (accounts : Accounts) (ownUserId : Uuid)
    (readAt : JsString → ℕ) (query : MatrixKeysQuery) : Prop :=
  ∀ matrixUserId ∈ query.users, ∀ userId, matrixUserId = matrixUserIdFromUuid userId serverName →
    Allowed accounts ownUserId (readAt matrixUserId) userId

/-- A query of the caller's own id and of the other party's names nobody else. -/
theorem allowsAll_of_parties {accounts : Accounts} {conversationId deviceId : Uuid} {now : ℕ}
    {parties : Uuid × Uuid}
    (hparties : parties ∈
      accounts.currentOfConversation principal.id conversationId deviceId now)
    (hnamed : query.users.all [matrixUserIdFromUuid principal.id serverName,
      matrixUserIdFromUuid (if parties.1 = principal.id then parties.2 else parties.1)
        serverName].contains = true) :
    AllowsAll serverName accounts principal.id (fun _ => now) query := by
  intro matrixUserId hmem userId hid
  have hpeer : Counterparts accounts principal.id
      (if parties.1 = principal.id then parties.2 else parties.1) now := by
    rcases counterparts_of_mem hparties with ⟨hown, hother⟩ | ⟨hown, hother⟩
    · rw [if_pos hown.symm]
      exact hother
    · split_ifs with hfirst
      · -- both parties are the caller
        rw [← hown]
        rwa [hfirst] at hother
      · exact hother
  have := List.all_eq_true.mp hnamed matrixUserId hmem
  rw [List.contains_cons, List.contains_cons, List.contains_nil, Bool.or_false, Bool.or_eq_true,
    beq_iff_eq, beq_iff_eq, hid] at this
  rcases this with hown | hother
  · exact .inl (eq_of_matrixUserIdFromUuid hown)
  · rw [eq_of_matrixUserIdFromUuid hother]
    exact .inr hpeer

/-- **`queryKeys` reads the rows of the caller and all counterparts only.** -/
theorem queryKeys_only (h : Consistent serverName db) {conversationId : Uuid}
    {eligibilityNow now : ℕ}
    (hseen : ∀ userId, Allowed db.accounts principal.id eligibilityNow userId →
      seen userId = true) :
    queryKeys serverName principal conversationId value eligibilityNow now (only seen db) =
      queryKeys serverName principal conversationId value eligibilityNow now db := by
  have hown : seen principal.id = true := hseen _ (.inl rfl)
  unfold queryKeys
  refine bind_congr fun deviceId => bind_congr fun query => ?_
  have hparties : conversationParties (only seen db).accounts principal conversationId deviceId
      eligibilityNow = conversationParties db.accounts principal conversationId deviceId
        eligibilityNow := by
    have hrows : (only seen db).accounts.currentOfConversation principal.id conversationId
        deviceId eligibilityNow = db.accounts.currentOfConversation principal.id conversationId
          deviceId eligibilityNow :=
      currentOfConversation_only hown fun other hother => hseen other (.inr hother)
    unfold conversationParties
    rw [hrows]
  have hsession : (only seen db).accounts.currentUserSession principal deviceId now =
      db.accounts.currentUserSession principal deviceId now :=
    currentUserSession_only hown deviceId now
  rw [hparties, hsession]
  cases hok : conversationParties db.accounts principal conversationId deviceId eligibilityNow with
  | error error => rfl
  | ok parties =>
    rw [ok_bind, ok_bind]
    refine bind_congr fun _ => ?_
    dsimp only
    cases hnamed : query.users.all [matrixUserIdFromUuid principal.id serverName,
        matrixUserIdFromUuid (if parties.1 = principal.id then parties.2 else parties.1)
          serverName].contains with
    | false => rfl
    | true =>
      have hall : SeesAll serverName seen query := fun matrixUserId hmem userId hid =>
        hseen userId (allowsAll_of_parties (conversationParties_eq_ok hok) hnamed matrixUserId
          hmem userId hid)
      rw [queryResponse_only h hall]

/-! ## `queryRelatedKeys` -/

/-- A loop that succeeds succeeds at each of its items. -/
theorem exists_of_mem_mapM {ε α β : Type} {f : α → Except ε β} {xs : List α} {ys : List β}
    (h : xs.mapM f = .ok ys) {x : α} (hx : x ∈ xs) : ∃ y ∈ ys, f x = .ok y := by
  have hforall := mapM_eq_ok h
  clear h
  induction hforall with
  | nil => cases hx
  | @cons x' y' xs ys hy _ ih =>
    rcases List.mem_cons.mp hx with rfl | hx
    · exact ⟨y', List.mem_cons_self, hy⟩
    · obtain ⟨y, hmem, hfound⟩ := ih hx
      exact ⟨y, List.mem_cons_of_mem _ hmem, hfound⟩

/-- Steps that agree on the items of a loop make the same loop. -/
theorem mapM_congr_of_mem {ε α β : Type} {f g : α → Except ε β} {xs : List α}
    (h : ∀ x ∈ xs, f x = g x) : xs.mapM f = xs.mapM g := by
  induction xs with
  | nil => rfl
  | cons x rest ih =>
    rw [List.mapM_cons, List.mapM_cons, h x List.mem_cons_self,
      ih fun y hy => h y (List.mem_cons_of_mem _ hy)]

/-- A current conversation is with a counterpart. -/
theorem counterparts_of_currentConversation {accounts : Accounts} {userId conversationId : Uuid}
    {now : ℕ} (h : currentConversation accounts principal userId now = .ok conversationId) :
    Counterparts accounts principal.id userId now := by
  have hrows : ∃ conversation, conversation ∈
      (if principal.role = .client then accounts.currentByParticipants principal.id userId now
        else accounts.currentByParticipants userId principal.id now) := by
    unfold currentConversation at h
    dsimp only at h
    split at h
    · cases h
    · rename_i conversation hrows
      rw [hrows]
      exact ⟨conversation, List.mem_singleton_self _⟩
    · cases h
  obtain ⟨conversation, hmem⟩ := hrows
  split_ifs at hmem
  · obtain ⟨assignment, hlive⟩ := mem_currentByParticipants.mp hmem
    exact ⟨conversation, assignment, .inl hlive⟩
  · obtain ⟨assignment, hlive⟩ := mem_currentByParticipants.mp hmem
    exact ⟨conversation, assignment, .inr hlive⟩

/-- **The eligibility of a target** is that of the part with the caller and the
counterparts among the targets. -/
theorem currentConversation_only {accounts : Accounts} {userId : Uuid} {now : ℕ}
    (hown : seen principal.id = true)
    (hseen : Counterparts accounts principal.id userId now → seen userId = true) :
    currentConversation (onlyAccounts seen accounts) principal userId now =
      currentConversation accounts principal userId now := by
  have hrows : ∀ {a b : Uuid}, seen a = true ∨ seen b = true →
      (∀ conversation assignment, Live accounts a b now conversation assignment →
        seen a = true ∧ seen b = true) →
      (onlyAccounts seen accounts).currentByParticipants a b now =
        accounts.currentByParticipants a b now := by
    intro a b _ hlive
    by_cases hboth : seen a = true ∧ seen b = true
    · exact currentByParticipants_only hboth.1 hboth.2 now
    · rw [currentByParticipants_only_eq_nil hboth]
      refine (List.eq_nil_iff_forall_not_mem.mpr fun conversation hmem => hboth ?_).symm
      obtain ⟨assignment, h⟩ := mem_currentByParticipants.mp hmem
      exact hlive conversation assignment h
  unfold currentConversation
  dsimp only
  rw [hrows (.inl hown) fun conversation assignment h =>
      ⟨hown, hseen ⟨conversation, assignment, .inl h⟩⟩,
    hrows (.inr hown) fun conversation assignment h =>
      ⟨hseen ⟨conversation, assignment, .inr h⟩, hown⟩]

/-- The users behind the ids of a query. -/
theorem parseTarget_eq_ok {matrixUserId : JsString} {target : JsString × Uuid}
    (h : parseTarget serverName matrixUserId = .ok target) : target.1 = matrixUserId ∧
      sinochatUserIdFromMatrixUserId matrixUserId serverName = some target.2 := by
  obtain ⟨userId, huser, h⟩ := bind_eq_ok.mp h
  obtain rfl := Except.ok.inj h
  exact ⟨rfl, orThrow_eq_ok.mp huser⟩

/-- A target that passes is the caller or a counterpart. -/
theorem targetScope_eq_ok {accounts : Accounts} {readAt : JsString → ℕ}
    {target : JsString × Uuid} {scope : ClaimScope}
    (h : targetScope accounts principal readAt target = .ok scope) :
    Allowed accounts principal.id (readAt target.1) target.2 := by
  unfold targetScope at h
  split_ifs at h with hown
  · exact .inl hown
  · obtain ⟨conversationId, hcurrent, -⟩ := bind_eq_ok.mp h
    exact .inr (counterparts_of_currentConversation hcurrent)

/-- **Targets that are locked may be asked for.** -/
theorem allowed_of_lockRelatedTargets {accounts : Accounts} {deviceId : Uuid}
    {readAt : JsString → ℕ} {scopes : List ClaimScope}
    (h : lockRelatedTargets serverName accounts principal deviceId query.users readAt =
      .ok scopes) {matrixUserId : JsString} (hmem : matrixUserId ∈ query.users) :
    ∃ userId, sinochatUserIdFromMatrixUserId matrixUserId serverName = some userId ∧
      Allowed accounts principal.id (readAt matrixUserId) userId := by
  obtain ⟨_, -, h⟩ := bind_eq_ok.mp h
  obtain ⟨targets, htargets, h⟩ := bind_eq_ok.mp h
  obtain ⟨locked, hlocked, -⟩ := bind_eq_ok.mp h
  obtain ⟨target, htarget, hparsed⟩ := exists_of_mem_mapM htargets hmem
  obtain ⟨rfl, huser⟩ := parseTarget_eq_ok hparsed
  obtain ⟨scope, -, hscope⟩ := exists_of_mem_mapM hlocked (List.mem_sortBy.mpr htarget)
  exact ⟨target.2, huser, targetScope_eq_ok hscope⟩

/-- So the query names nobody else. -/
theorem allowsAll_of_lockRelatedTargets {accounts : Accounts} {deviceId : Uuid}
    {readAt : JsString → ℕ} {scopes : List ClaimScope}
    (h : lockRelatedTargets serverName accounts principal deviceId query.users readAt =
      .ok scopes) : AllowsAll serverName accounts principal.id readAt query := by
  intro matrixUserId hmem userId hid
  obtain ⟨target, htarget, hallowed⟩ := allowed_of_lockRelatedTargets h hmem
  rw [eq_of_sinochatUserId htarget hid]
  exact hallowed

/-- **`lockRelatedTargets` reads the rows of the caller and of the counterparts among its
targets only.** -/
theorem lockRelatedTargets_only {accounts : Accounts} {deviceId : Uuid}
    {matrixUserIds : List JsString} {readAt : JsString → ℕ} (hown : seen principal.id = true)
    (hseen : ∀ matrixUserId ∈ matrixUserIds, ∀ userId,
      sinochatUserIdFromMatrixUserId matrixUserId serverName = some userId →
      Counterparts accounts principal.id userId (readAt matrixUserId) → seen userId = true) :
    lockRelatedTargets serverName (onlyAccounts seen accounts) principal deviceId matrixUserIds
        readAt =
      lockRelatedTargets serverName accounts principal deviceId matrixUserIds readAt := by
  have hpublished : ((onlyAccounts seen accounts).deviceKeys.find? deviceId).any
      (fun published => published.userId = principal.id &&
        published.matrixUserId = matrixUserIdFromUuid principal.id serverName) =
      (accounts.deviceKeys.find? deviceId).any fun published => published.userId = principal.id &&
        published.matrixUserId = matrixUserIdFromUuid principal.id serverName := by
    rw [show (onlyAccounts seen accounts).deviceKeys.find? deviceId = _ from Table.find?_filter]
    cases accounts.deviceKeys.find? deviceId with
    | none => rfl
    | some row =>
      by_cases hrow : seen row.userId = true
      · rw [Option.filter_some, if_pos hrow]
      · have hother : row.userId ≠ principal.id := fun heq => hrow (heq ▸ hown)
        rw [Option.filter_some, if_neg hrow, Option.any_none, Option.any_some,
          decide_eq_false hother, Bool.false_and]
  unfold lockRelatedTargets
  dsimp only
  rw [hpublished]
  refine bind_congr fun _ => ?_
  cases htargets : matrixUserIds.mapM (parseTarget serverName) with
  | error error => rfl
  | ok targets =>
    have hscopes : (targets.sortBy fun target => unitOrder target.2.text).mapM
        (targetScope (onlyAccounts seen accounts) principal readAt) =
        (targets.sortBy fun target => unitOrder target.2.text).mapM
          (targetScope accounts principal readAt) := by
      refine mapM_congr_of_mem fun target htarget => ?_
      obtain ⟨matrixUserId, hmem, hparsed⟩ :=
        exists_left_of_forall₂ (mapM_eq_ok htargets) (List.mem_sortBy.mp htarget)
      obtain ⟨rfl, huser⟩ := parseTarget_eq_ok hparsed
      unfold targetScope
      rw [currentConversation_only hown (hseen target.1 hmem target.2 huser)]
    rw [ok_bind, ok_bind, hscopes]

/-- **`queryRelatedKeys` reads the rows of the caller and of the counterparts it names
only.** -/
theorem queryRelatedKeys_only (h : Consistent serverName db) {readAt : JsString → ℕ}
    {now later : ℕ} (hown : seen principal.id = true)
    (hseen : ∀ query, parseQuery value = .ok query → ∀ matrixUserId ∈ query.users, ∀ userId,
      sinochatUserIdFromMatrixUserId matrixUserId serverName = some userId →
      Counterparts db.accounts principal.id userId (readAt matrixUserId) → seen userId = true) :
    queryRelatedKeys serverName principal value readAt now later (only seen db) =
      queryRelatedKeys serverName principal value readAt now later db := by
  unfold queryRelatedKeys
  refine bind_congr fun deviceId => ?_
  cases hquery : parseQuery value with
  | error error => rfl
  | ok query =>
    have hsession : ∀ time, (only seen db).accounts.currentUserSession principal deviceId time =
        db.accounts.currentUserSession principal deviceId time :=
      currentUserSession_only hown deviceId
    have htargets : lockRelatedTargets serverName (only seen db).accounts principal deviceId
        query.users readAt =
        lockRelatedTargets serverName db.accounts principal deviceId query.users readAt :=
      lockRelatedTargets_only hown (hseen query hquery)
    rw [ok_bind, ok_bind, hsession, hsession]
    refine bind_congr fun _ => ?_
    rw [htargets]
    cases hlocked : lockRelatedTargets serverName db.accounts principal deviceId query.users
        readAt with
    | error error => rfl
    | ok scopes =>
      have hall : SeesAll serverName seen query := by
        intro matrixUserId hmem userId hid
        obtain ⟨target, htarget, hown' | hother⟩ := allowed_of_lockRelatedTargets hlocked hmem
        · rw [eq_of_sinochatUserId htarget hid, hown', hown]
        · rw [eq_of_sinochatUserId htarget hid]
          exact hseen query hquery matrixUserId hmem target htarget hother
      rw [ok_bind, ok_bind, queryResponse_only h hall]

/-! ## What an answer holds -/

theorem mem_of_mem_set {κ α : Type} [DecidableEq κ] {key : κ} {value : α} {map : JsMap κ α}
    {entry : κ × α} (h : entry ∈ JsMap.set key value map) :
    entry = (key, value) ∨ entry ∈ map := by
  induction map with
  | nil => exact .inl (List.mem_singleton.mp h)
  | cons first rest ih =>
    obtain ⟨k, v⟩ := first
    rw [JsMap.set] at h
    split_ifs at h with hk
    · rcases List.mem_cons.mp h with rfl | h
      · exact .inl (by rw [hk])
      · exact .inr (List.mem_cons_of_mem _ h)
    · rcases List.mem_cons.mp h with rfl | h
      · exact .inr List.mem_cons_self
      · exact (ih h).imp_right (List.mem_cons_of_mem _)

/-- An entry of a map is one of those it was built of. -/
theorem mem_of_mem_ofEntries {κ α : Type} [DecidableEq κ] {entries : List (κ × α)}
    {entry : κ × α} (h : entry ∈ JsMap.ofEntries entries) : entry ∈ entries := by
  refine JsMap.ofEntries_induction (P := fun map => ∀ e ∈ map, e ∈ entries) entries nofun ?_ entry h
  intro map e he ih other hother
  rcases mem_of_mem_set hother with rfl | hother
  · exact he
  · exact ih other hother

/-- The keys of devices come from rows of the query. -/
theorem mem_deviceKeys {matrixUserId : JsString} {devices : JsMap JsString Json}
    {ownMatrixUserId : JsString}
    (h : (matrixUserId, devices) ∈ (queryResponse db query ownMatrixUserId).deviceKeys)
    {matrixDeviceId : JsString} {keys : Json} (hkeys : (matrixDeviceId, keys) ∈ devices) :
    ∃ row ∈ queriedRows db.accounts query.users, row.matrixUserId = matrixUserId ∧
      row.matrixDeviceId = matrixDeviceId ∧ asksFor query row = true ∧
      keysOfDevice db row = some keys := by
  have general : ∀ (rows : List MatrixDeviceKey) (map : JsMap JsString (JsMap JsString Json)),
      (∀ row ∈ rows, row ∈ queriedRows db.accounts query.users) →
      (∀ user ∈ map, ∀ device ∈ user.2, ∃ row ∈ queriedRows db.accounts query.users,
        row.matrixUserId = user.1 ∧ row.matrixDeviceId = device.1 ∧ asksFor query row = true ∧
          keysOfDevice db row = some device.2) →
      ∀ user ∈ rows.foldl (addDevice db query) map, ∀ device ∈ user.2,
        ∃ row ∈ queriedRows db.accounts query.users,
          row.matrixUserId = user.1 ∧ row.matrixDeviceId = device.1 ∧ asksFor query row = true ∧
            keysOfDevice db row = some device.2 := by
    intro rows
    induction rows with
    | nil => exact fun map _ hmap => hmap
    | cons row rest ih =>
      intro map hrows hmap
      refine ih (addDevice db query map row) (fun r hr => hrows r (List.mem_cons_of_mem _ hr)) ?_
      intro user huser device hdevice
      unfold addDevice at huser
      split at huser
      · rename_i found hasks hfound
        rcases mem_of_mem_set huser with rfl | huser
        · rcases mem_of_mem_set hdevice with rfl | hdevice
          · exact ⟨row, hrows row List.mem_cons_self, rfl, rfl, hasks, hfound⟩
          · -- a device of the user that was there
            cases hold : JsMap.get? row.matrixUserId map with
            | none => simp [hold] at hdevice
            | some old =>
              rw [hold, Option.getD_some] at hdevice
              exact hmap _ (JsMap.mem_of_get?_eq_some hold) device hdevice
        · exact hmap user huser device hdevice
      · exact hmap user huser device hdevice
  refine general _ _ (fun row hrow => hrow) ?_ _ h _ hkeys
  intro user huser device hdevice
  obtain ⟨userId, -, rfl⟩ := List.mem_map.mp (mem_of_mem_ofEntries huser)
  cases hdevice

/-- The keys of one kind come from identities. -/
theorem mem_signingKeysOf {identities : List MatrixCrossSigningIdentity} {name : JsString}
    {matrixUserId : JsString} {key : Json}
    (h : (matrixUserId, key) ∈ signingKeysOf identities name) :
    ∃ identity ∈ identities, identity.matrixUserId = matrixUserId ∧
      signingKey identity name = some key := by
  obtain ⟨identity, hidentity, hmap⟩ := List.mem_filterMap.mp (mem_of_mem_ofEntries h)
  obtain ⟨found, hfound, heq⟩ := Option.map_eq_some_iff.mp hmap
  cases heq
  exact ⟨identity, hidentity, rfl, hfound⟩

/-- A user the query names, by the user's own id, whom the caller may ask for. -/
structure Named (serverName : JsString) (accounts : Accounts) (ownUserId : Uuid)
    (readAt : JsString → ℕ) (query : MatrixKeysQuery) (matrixUserId : JsString) (userId : Uuid) :
    Prop where
  requested : matrixUserId ∈ query.users
  identity : matrixUserId = matrixUserIdFromUuid userId serverName
  allowed : Allowed accounts ownUserId (readAt matrixUserId) userId

/-- **The answer holds keys of the named users and of their active devices only**, and the
user-signing key of the caller only. -/
structure Confined (serverName : JsString) (db : Directory) (ownUserId : Uuid)
    (readAt : JsString → ℕ) (query : MatrixKeysQuery) (answer : KeyQueryResponse) : Prop where
  devices : ∀ matrixUserId devices, (matrixUserId, devices) ∈ answer.deviceKeys →
    ∀ matrixDeviceId keys, (matrixDeviceId, keys) ∈ devices →
    ∃ row ∈ db.accounts.deviceKeys, ∃ device ∈ db.accounts.devices,
      row.matrixUserId = matrixUserId ∧ row.matrixDeviceId = matrixDeviceId ∧
      keysOfDevice db row = some keys ∧
      device.id = row.deviceId ∧ device.userId = row.userId ∧ device.status = .active ∧
      Named serverName db.accounts ownUserId readAt query matrixUserId row.userId ∧
      ∃ requestedDevices, (matrixUserId, requestedDevices) ∈ query.deviceKeys ∧
        (requestedDevices = [] ∨ matrixDeviceId ∈ requestedDevices)
  masterKeys : ∀ matrixUserId key, (matrixUserId, key) ∈ answer.masterKeys →
    ∃ identity ∈ db.identities, signingKey identity (js "master_key") = some key ∧
      Named serverName db.accounts ownUserId readAt query matrixUserId identity.userId
  selfSigningKeys : ∀ matrixUserId key, (matrixUserId, key) ∈ answer.selfSigningKeys →
    ∃ identity ∈ db.identities, signingKey identity (js "self_signing_key") = some key ∧
      Named serverName db.accounts ownUserId readAt query matrixUserId identity.userId
  userSigningKeys : ∀ matrixUserId key, (matrixUserId, key) ∈ answer.userSigningKeys →
    ∃ identity ∈ db.identities, signingKey identity (js "user_signing_key") = some key ∧
      identity.userId = ownUserId ∧
      Named serverName db.accounts ownUserId readAt query matrixUserId identity.userId

theorem confined_queryResponse (h : Consistent serverName db) {ownUserId : Uuid}
    {readAt : JsString → ℕ} (hall : AllowsAll serverName db.accounts ownUserId readAt query) :
    Confined serverName db ownUserId readAt query
      (queryResponse db query (matrixUserIdFromUuid ownUserId serverName)) := by
  have hidentities : ∀ {identity}, identity ∈ queriedIdentities db query.users →
      identity ∈ db.identities ∧
        Named serverName db.accounts ownUserId readAt query identity.matrixUserId
          identity.userId := by
    intro identity hidentity
    obtain ⟨hmember, hnamed⟩ := List.mem_filter.mp hidentity
    have hrequested := List.contains_iff_mem.mp hnamed
    have hid := h.identities identity hmember
    exact ⟨hmember, hrequested, hid, hall _ hrequested _ hid⟩
  have hsigning : ∀ {name matrixUserId key},
      (matrixUserId, key) ∈ signingKeysOf (queriedIdentities db query.users) name →
      ∃ identity ∈ db.identities, signingKey identity name = some key ∧
        Named serverName db.accounts ownUserId readAt query matrixUserId identity.userId := by
    intro name matrixUserId key hmem
    obtain ⟨identity, hidentity, rfl, hkey⟩ := mem_signingKeysOf hmem
    exact ⟨identity, (hidentities hidentity).1, hkey, (hidentities hidentity).2⟩
  refine ⟨fun matrixUserId devices hdevices matrixDeviceId keys hkeys => ?_,
    fun _ _ => hsigning, fun _ _ => hsigning, fun matrixUserId key hmem => ?_⟩
  · obtain ⟨row, hrow, rfl, rfl, hasks, hfound⟩ := mem_deviceKeys hdevices hkeys
    obtain ⟨hmember, hqueried⟩ := List.mem_filter.mp (List.mem_sortBy.mp hrow)
    rw [Bool.and_eq_true] at hqueried
    have hrequested := List.contains_iff_mem.mp hqueried.1
    have hid := h.canonical row hmember
    obtain ⟨device, hdevice, hdeviceId, hdeviceUser⟩ := h.constraints.owner row hmember
    have hactive : device.status = .active := by
      have hstatus := hqueried.2
      rw [Accounts.activeDevice, Table.find?_eq_some.mpr ⟨hdevice, hdeviceId⟩] at hstatus
      exact beq_iff_eq.mp hstatus
    obtain ⟨requestedDevices, hget, hfilter⟩ := (Option.any_eq_true _ _).mp hasks
    rw [Bool.or_eq_true, List.isEmpty_iff, List.contains_iff_mem] at hfilter
    exact ⟨row, hmember, device, hdevice, rfl, rfl, hfound, hdeviceId, hdeviceUser, hactive,
      ⟨hrequested, hid, hall _ hrequested _ hid⟩, requestedDevices,
      JsMap.mem_of_get?_eq_some hget, hfilter⟩
  · obtain ⟨identity, hidentity, rfl, hkey⟩ := mem_signingKeysOf hmem
    obtain ⟨hqueried, hown⟩ := List.mem_filter.mp hidentity
    have hnamed := (hidentities hqueried).2
    refine ⟨identity, (hidentities hqueried).1, hkey, ?_, hnamed⟩
    exact eq_of_matrixUserIdFromUuid (hnamed.identity.symm.trans (of_decide_eq_true hown))

/-- The users whose rows a query for a conversation may read. -/
def allowedUsers (accounts : Accounts) (ownUserId : Uuid) (now : ℕ) (userId : Uuid) : Bool :=
  userId = ownUserId || counterparts accounts ownUserId userId now

theorem allowedUsers_iff {accounts : Accounts} {ownUserId userId : Uuid} {now : ℕ} :
    allowedUsers accounts ownUserId now userId = true ↔ Allowed accounts ownUserId now userId := by
  rw [allowedUsers, Bool.or_eq_true, decide_eq_true_eq, counterparts_iff, Allowed]

/-- The users whose rows a related query may read: the caller, and of those it names the
counterparts. -/
def relatedUsers (serverName : JsString) (accounts : Accounts) (ownUserId : Uuid)
    (readAt : JsString → ℕ) (value : Json) (userId : Uuid) : Bool :=
  userId = ownUserId || ((parseQuery value).toOption.elim [] MatrixKeysQuery.users).any
    fun matrixUserId => sinochatUserIdFromMatrixUserId matrixUserId serverName = some userId &&
      counterparts accounts ownUserId userId (readAt matrixUserId)

/-- Over the tables of a reachable state, an answer is confined, and is the one from the
part of the tables. -/
theorem queryKeys_of_consistent (h : Consistent serverName db) (principal : SessionPrincipal)
    (conversationId : Uuid) (value : Json) (eligibilityNow now : ℕ) :
    (∀ answer, queryKeys serverName principal conversationId value eligibilityNow now db =
      .ok answer → ∃ query, parseQuery value = .ok query ∧
        Confined serverName db principal.id (fun _ => eligibilityNow) query answer) ∧
    queryKeys serverName principal conversationId value eligibilityNow now
        (only (allowedUsers db.accounts principal.id eligibilityNow) db) =
      queryKeys serverName principal conversationId value eligibilityNow now db := by
  refine ⟨fun answer hok => ?_, queryKeys_only h fun userId hallowed =>
    allowedUsers_iff.mpr hallowed⟩
  obtain ⟨deviceId, -, hok⟩ := bind_eq_ok.mp hok
  obtain ⟨query, hquery, hok⟩ := bind_eq_ok.mp hok
  obtain ⟨parties, hparties, hok⟩ := bind_eq_ok.mp hok
  obtain ⟨_, -, hok⟩ := bind_eq_ok.mp hok
  obtain ⟨_, hnamed, hok⟩ := bind_eq_ok.mp hok
  obtain rfl := Except.ok.inj hok
  exact ⟨query, hquery, confined_queryResponse h
    (allowsAll_of_parties (conversationParties_eq_ok hparties) (require_eq_ok.mp hnamed))⟩

theorem queryRelatedKeys_of_consistent (h : Consistent serverName db)
    (principal : SessionPrincipal) (value : Json) (readAt : JsString → ℕ) (now later : ℕ) :
    (∀ answer, queryRelatedKeys serverName principal value readAt now later db = .ok answer →
      ∃ query, parseQuery value = .ok query ∧
        Confined serverName db principal.id readAt query answer) ∧
    queryRelatedKeys serverName principal value readAt now later
        (only (relatedUsers serverName db.accounts principal.id readAt value) db) =
      queryRelatedKeys serverName principal value readAt now later db := by
  refine ⟨fun answer hok => ?_, queryRelatedKeys_only h ?_ fun query hquery matrixUserId hmem
    userId huser hother => ?_⟩
  · obtain ⟨deviceId, -, hok⟩ := bind_eq_ok.mp hok
    obtain ⟨query, hquery, hok⟩ := bind_eq_ok.mp hok
    obtain ⟨_, -, hok⟩ := bind_eq_ok.mp hok
    obtain ⟨scopes, hlocked, hok⟩ := bind_eq_ok.mp hok
    obtain ⟨_, -, hok⟩ := bind_eq_ok.mp hok
    obtain rfl := Except.ok.inj hok
    exact ⟨query, hquery, confined_queryResponse h (allowsAll_of_lockRelatedTargets hlocked)⟩
  · rw [relatedUsers, decide_eq_true rfl, Bool.true_or]
  · rw [relatedUsers, Bool.or_eq_true]
    right
    rw [hquery]
    refine List.any_eq_true.mpr ⟨matrixUserId, hmem, ?_⟩
    rw [Bool.and_eq_true, decide_eq_true_eq]
    exact ⟨huser, counterparts_iff.mpr hother⟩

/-! ## Confidentiality -/

/-- **Key queries are confidential.** In every reachable state, what a query answers with
is confined to the users it names whom the caller may ask for; and two reachable states
with the same rows of those users answer alike. -/
theorem key_queries_confidential (env : Deployment) (scheme : SignatureScheme) {db db' : Directory}
    (h : (keyTables env scheme).Reachable db) (h' : (keyTables env scheme).Reachable db')
    (principal : SessionPrincipal) (value : Json) :
    (∀ (conversationId : Uuid) (eligibilityNow now : ℕ),
      let ask := queryKeys env.matrixServerName principal conversationId value eligibilityNow now
      (∀ answer, ask db = .ok answer → ∃ query, parseQuery value = .ok query ∧
        Confined env.matrixServerName db principal.id (fun _ => eligibilityNow) query answer) ∧
      (only (allowedUsers db.accounts principal.id eligibilityNow) db =
        only (allowedUsers db'.accounts principal.id eligibilityNow) db' → ask db = ask db')) ∧
    ∀ (readAt : JsString → ℕ) (now later : ℕ),
      let ask := queryRelatedKeys env.matrixServerName principal value readAt now later
      (∀ answer, ask db = .ok answer → ∃ query, parseQuery value = .ok query ∧
        Confined env.matrixServerName db principal.id readAt query answer) ∧
      (only (relatedUsers env.matrixServerName db.accounts principal.id readAt value) db =
        only (relatedUsers env.matrixServerName db'.accounts principal.id readAt value) db' →
        ask db = ask db') := by
  have hdb := consistent_of_reachable h
  have hdb' := consistent_of_reachable h'
  refine ⟨fun conversationId eligibilityNow now => ?_, fun readAt now later => ?_⟩
  · obtain ⟨hconfined, hpart⟩ :=
      queryKeys_of_consistent hdb principal conversationId value eligibilityNow now
    refine ⟨hconfined, fun hsame => ?_⟩
    rw [← hpart, hsame]
    exact (queryKeys_of_consistent hdb' principal conversationId value eligibilityNow now).2
  · obtain ⟨hconfined, hpart⟩ :=
      queryRelatedKeys_of_consistent hdb principal value readAt now later
    refine ⟨hconfined, fun hsame => ?_⟩
    rw [← hpart, hsame]
    exact (queryRelatedKeys_of_consistent hdb' principal value readAt now later).2

/-! ### The keys of a stranger -/

theorem filter_insert_of_not {κ α : Type} {key : α → κ} [DecidableEq κ] {t : Table κ α key} {a : α}
    {h : t.find? (key a) = none} {p : α → Bool} (hp : p a = false) :
    (t.insert a h).filter p = t.filter p := by
  obtain ⟨rows, nodup⟩ := t
  simp [Table.filter, Table.insert, List.filter_append, hp]

/-- **The keys of somebody unseen leave the part as it is.** -/
theorem only_register {device : Device} {row : MatrixDeviceKey} {keys : Json}
    (hdevice : db.accounts.devices.find? device.id = none)
    (hrow : db.accounts.deviceKeys.find? row.deviceId = none)
    (hdeviceUser : seen device.userId = false) (hrowUser : seen row.userId = false) :
    only seen { db with
      accounts := { db.accounts with
        devices := db.accounts.devices.insert device hdevice
        deviceKeys := db.accounts.deviceKeys.insert row hrow }
      deviceKeys := Function.update db.deviceKeys row.deviceId (some keys) } = only seen db := by
  have hkeys : ∀ deviceId, (if ((db.accounts.deviceKeys.insert row hrow).find? deviceId).any
      (fun row => seen row.userId) then
        Function.update db.deviceKeys row.deviceId (some keys) deviceId else none) =
      if (db.accounts.deviceKeys.find? deviceId).any (fun row => seen row.userId) then
        db.deviceKeys deviceId else none := by
    intro deviceId
    rw [Table.find?_insert]
    by_cases hid : row.deviceId = deviceId
    · subst hid
      rw [if_pos rfl, hrow, Option.any_some, hrowUser]
      rfl
    · rw [if_neg hid, Function.update_of_ne (Ne.symm hid)]
  have hdevices : ((db.accounts.devices.insert device hdevice).filter fun other =>
      seen other.userId) = db.accounts.devices.filter fun other => seen other.userId :=
    filter_insert_of_not hdeviceUser
  have hrows : ((db.accounts.deviceKeys.insert row hrow).filter fun other => seen other.userId) =
      db.accounts.deviceKeys.filter fun other => seen other.userId :=
    filter_insert_of_not hrowUser
  unfold only onlyAccounts
  dsimp only
  rw [hdevices, hrows, funext hkeys]

namespace Sample

open SinoChat.Sample (accounts client clientId cashierId clientDevice cashierDevice clientKeys
  cashierKeys uuidOf)
open CrossSigning.Sample (device deployment identity)

/-- A third user, with a device. -/
def strangerId : Uuid := uuidOf 0x0d000000000040008000000000000001

/-- A device that nobody has registered. -/
def strangerDevice : Uuid := uuidOf 0x0d000000000040008000000000000002

/-- The public keys of a device of a user. -/
def deviceOf (userId deviceId : Uuid) : CrossSigning.MatrixDeviceKeys where
  userId := matrixUserIdFromUuid userId deployment.matrixServerName
  deviceId := MessagePayload.matrixDeviceIdFromUuid deviceId
  ed25519 := device.ed25519
  curve25519 := device.curve25519
  signatures := [(CrossSigning.ed25519KeyId (MessagePayload.matrixDeviceIdFromUuid deviceId),
    (device.signatures.map Prod.snd).headD [])]

/-- The first upload of that device. -/
def uploadOf (userId deviceId : Uuid) : Json :=
  .obj [(js "device_keys", (deviceOf userId deviceId).toJson)]

/-- A client and a cashier with a conversation and a third user, nobody with a device. -/
def blank : Directory where
  accounts := { accounts with devices := .empty, deviceKeys := .empty }
  deviceKeys := fun _ => none
  lists := DeviceLists.empty
  identities := .empty
  certificates := .empty

/-- The tables behind the first upload of a device. -/
def withDevice (db : Directory) (userId deviceId : Uuid)
    (hdevice : db.accounts.devices.find? deviceId = none)
    (hkeys : db.accounts.deviceKeys.find? deviceId = none) : Directory :=
  { db with
    accounts := { db.accounts with
      devices := db.accounts.devices.insert ⟨deviceId, userId, .active⟩ hdevice
      deviceKeys := db.accounts.deviceKeys.insert
        (deviceKeyData deviceId userId (deviceOf userId deviceId)) hkeys }
    deviceKeys := Function.update db.deviceKeys deviceId
      (some (KeyUpload.deviceKeysJson (deviceOf userId deviceId))) }

/-- The directory with the client's device. -/
def ofClient : Directory := withDevice blank clientId clientDevice rfl rfl

/-- The client and the cashier have published keys. -/
def published : Directory :=
  withDevice ofClient cashierId cashierDevice (by decide +kernel) (by decide +kernel)

/-- And so has the stranger. -/
def withStranger : Directory :=
  withDevice published strangerId strangerDevice (by decide +kernel) (by decide +kernel)

theorem blank_initial : (keyTables deployment CrossSigning.Sample.scheme).init blank :=
  ⟨rfl, rfl, rfl, nofun, nofun⟩

theorem withDevice_reachable {db : Directory} {userId deviceId : Uuid}
    {hdevice : db.accounts.devices.find? deviceId = none}
    {hkeys : db.accounts.deviceKeys.find? deviceId = none}
    (h : (keyTables deployment CrossSigning.Sample.scheme).Reachable db)
    (hnone : (db.accounts.devices.rows.all fun device => device.userId ≠ userId) = true)
    (hparse : KeyUpload.parseInitialMatrixKeyUpload CrossSigning.Sample.scheme
      (uploadOf userId deviceId) (matrixUserIdFromUuid userId deployment.matrixServerName)
      (MessagePayload.matrixDeviceIdFromUuid deviceId) = .ok ⟨deviceOf userId deviceId, [], []⟩) :
    (keyTables deployment CrossSigning.Sample.scheme).Reachable
      (withDevice db userId deviceId hdevice hkeys) := by
  obtain ⟨trace, hrun⟩ := h
  refine ⟨_, hrun.step (.register hparse (fun device hmem => ?_) hdevice hkeys)⟩
  exact of_decide_eq_true (List.all_eq_true.mp hnone device hmem)

theorem published_reachable :
    (keyTables deployment CrossSigning.Sample.scheme).Reachable published :=
  withDevice_reachable
    (withDevice_reachable ⟨[], .init blank_initial⟩ rfl (ok_of_toOption (by decide +kernel)))
    (by decide +kernel) (ok_of_toOption (by decide +kernel))

theorem withStranger_reachable :
    (keyTables deployment CrossSigning.Sample.scheme).Reachable withStranger :=
  withDevice_reachable published_reachable (by decide +kernel)
    (ok_of_toOption (by decide +kernel))

/-- The client asks for all devices of the cashier. -/
def body : Json :=
  .obj [(js "device_keys", .obj [(matrixUserIdFromUuid cashierId deployment.matrixServerName,
    .arr [])])]

/-- The two ways to ask, at one time. -/
def ask (db : Directory) : Except HttpException KeyQueryResponse :=
  queryKeys deployment.matrixServerName client SinoChat.Sample.conversationId body 1000 1000 db

/-- The client asks for the keys of a body. -/
def askRelated (db : Directory) : Except HttpException KeyQueryResponse :=
  queryRelatedKeys deployment.matrixServerName client body (fun _ => 1000) 1000 1000 db

/-- The devices an answer has keys of. -/
def devicesOf (answer : KeyQueryResponse) : List (JsString × List JsString) :=
  answer.deviceKeys.map fun user => (user.1, user.2.map Prod.fst)

/-- **The cashier's device is answered**, with a stranger's keys in the tables or not. -/
theorem key_queries_confidential_stranger :
    (∃ answer, ask published = .ok answer ∧ ask withStranger = .ok answer ∧
      devicesOf answer = [(cashierKeys.matrixUserId, [cashierKeys.matrixDeviceId])]) ∧
    ∃ answer, askRelated published = .ok answer ∧ askRelated withStranger = .ok answer ∧
      devicesOf answer = [(cashierKeys.matrixUserId, [cashierKeys.matrixDeviceId])] ∧
      ∃ query, parseQuery body = .ok query ∧
        Confined deployment.matrixServerName published clientId (fun _ => 1000) query answer := by
  obtain ⟨hask, hrelated⟩ := key_queries_confidential deployment CrossSigning.Sample.scheme
    published_reachable withStranger_reachable client body
  obtain ⟨-, hsame⟩ := hask SinoChat.Sample.conversationId 1000 1000
  obtain ⟨hconfined, hsameRelated⟩ := hrelated (fun _ => 1000) 1000 1000
  have hok : (ask published).toOption.map devicesOf =
      some [(cashierKeys.matrixUserId, [cashierKeys.matrixDeviceId])] := by decide +kernel
  have hokRelated : (askRelated published).toOption.map devicesOf =
      some [(cashierKeys.matrixUserId, [cashierKeys.matrixDeviceId])] := by decide +kernel
  obtain ⟨answer, hanswer, hdevices⟩ := Option.map_eq_some_iff.mp hok
  obtain ⟨related, hanswerRelated, hdevicesRelated⟩ := Option.map_eq_some_iff.mp hokRelated
  refine ⟨⟨answer, ok_of_toOption hanswer, ?_, hdevices⟩, related,
    ok_of_toOption hanswerRelated, ?_, hdevicesRelated,
    hconfined related (ok_of_toOption hanswerRelated)⟩
  · refine (hsame ?_).symm.trans (ok_of_toOption hanswer)
    exact (only_register _ _ (by decide +kernel) (by decide +kernel)).symm
  · refine (hsameRelated ?_).symm.trans (ok_of_toOption hanswerRelated)
    exact (only_register _ _ (by decide +kernel) (by decide +kernel)).symm

end Sample

end KeyQuery

end SinoChat
