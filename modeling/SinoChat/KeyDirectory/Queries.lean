import SinoChat.Contracts.Identifiers
import SinoChat.CrossSigning.Identity
import SinoChat.Model.KeyQuery

/-!
# What a key query gives away

A query answers with the keys of users it names who are the caller or a counterpart
of the caller, and of their active devices (`Confined`). And it reads nothing else:
the answer is that of the tables without the rows of all other users
(`queryKeys_only`, `queryRelatedKeys_only`), so tables that differ in such rows only
are answered alike.
-/

namespace Table

variable {κ α : Type*} {key : α → κ} [DecidableEq κ]

/-- The row of a key among the rows a condition selects. -/
theorem find?_filter {t : Table κ α key} {p : α → Bool} {k : κ} :
    (t.filter p).find? k = (t.find? k).filter p := by
  cases hfind : t.find? k with
  | none =>
    rw [Option.filter_none, find?_eq_none]
    exact fun a ha => find?_eq_none.mp hfind a (mem_filter.mp ha).1
  | some a =>
    obtain ⟨ha, hk⟩ := find?_eq_some.mp hfind
    by_cases hp : p a = true
    · rw [Option.filter_some, if_pos hp, find?_eq_some]
      exact ⟨mem_filter.mpr ⟨ha, hp⟩, hk⟩
    · rw [Option.filter_some, if_neg hp, find?_eq_none]
      intro b hb hbk
      obtain ⟨hb, hpb⟩ := mem_filter.mp hb
      exact hp (eq_of_key_eq ha hb (hk.trans hbk.symm) ▸ hpb)

/-- A row the condition selects is found as before. -/
theorem find?_filter_of {t : Table κ α key} {p : α → Bool} {k : κ}
    (h : ∀ a ∈ t, key a = k → p a = true) : (t.filter p).find? k = t.find? k := by
  rw [find?_filter]
  cases hfind : t.find? k with
  | none => rfl
  | some a =>
    obtain ⟨ha, hk⟩ := find?_eq_some.mp hfind
    rw [Option.filter_some, if_pos (h a ha hk)]

end Table

namespace SinoChat

open Js

namespace KeyQuery

open CrossSigning (Directory SignatureScheme MatrixCrossSigningIdentity DeviceConstraints)

variable {env : Deployment} {scheme : SignatureScheme}
variable {accounts : Accounts} {seen : Uuid → Bool} {principal : SessionPrincipal}

/-! ## Counterparts -/

/-- **A live conversation of two users**, with an active client and an available cashier
whose subscription is in force. -/
structure Live (accounts : Accounts) (clientUserId cashierUserId : Uuid) (now : ℕ)
    (conversation : Conversation) (assignment : Assignment) : Prop where
  member : conversation ∈ accounts.conversations
  found : accounts.assignments.find? conversation.assignmentId = some assignment
  client : assignment.clientUserId = clientUserId
  cashier : assignment.cashierUserId = cashierUserId
  active : conversation.status = .active
  running : assignment.endedAt = none
  activeClient : accounts.activeClient clientUserId = true
  availableCashier : accounts.availableCashier cashierUserId = true
  subscribed : ∃ subscription ∈ accounts.subscriptions,
    subscription.cashierUserId = cashierUserId ∧ Accounts.inForce now subscription = true

/-- The two users are the parties of a live conversation. -/
def Counterparts (accounts : Accounts) (a b : Uuid) (now : ℕ) : Prop :=
  ∃ conversation assignment, Live accounts a b now conversation assignment ∨
    Live accounts b a now conversation assignment

/-- The eligibility query finds exactly the live conversations. -/
theorem mem_currentByParticipants {a b : Uuid} {now : ℕ} {conversation : Conversation} :
    conversation ∈ accounts.currentByParticipants a b now ↔
      ∃ assignment, Live accounts a b now conversation assignment := by
  unfold Accounts.currentByParticipants
  rw [List.mem_flatMap]
  constructor
  · rintro ⟨other, hother, hmem⟩
    cases hassignment : accounts.assignments.find? other.assignmentId with
    | none => simp [hassignment] at hmem
    | some assignment =>
      rw [hassignment] at hmem
      dsimp only at hmem
      split_ifs at hmem with hlive
      · obtain ⟨subscription, hsubscription, rfl⟩ := List.mem_map.mp hmem
        obtain ⟨hrow, hforce⟩ := List.mem_filter.mp hsubscription
        rw [Bool.and_eq_true, beq_iff_eq] at hforce
        obtain ⟨hclient, hcashier, hrunning, hactive, havailable, hactiveClient⟩ := hlive
        exact ⟨assignment, hother, hassignment, hclient, hcashier, hactive, hrunning,
          hactiveClient, havailable, subscription, hrow, hforce⟩
      · cases hmem
  · rintro ⟨assignment, h⟩
    refine ⟨conversation, h.member, ?_⟩
    rw [h.found]
    dsimp only
    rw [if_pos ⟨h.client, h.cashier, h.running, h.active, h.availableCashier, h.activeClient⟩]
    obtain ⟨subscription, hrow, hcashier, hforce⟩ := h.subscribed
    refine List.mem_map.mpr ⟨subscription, List.mem_filter.mpr ⟨hrow, ?_⟩, rfl⟩
    rw [Bool.and_eq_true, beq_iff_eq]
    exact ⟨hcashier, hforce⟩

/-- Whether two users have a conversation, by the eligibility query. -/
def counterparts (accounts : Accounts) (a b : Uuid) (now : ℕ) : Bool :=
  !(accounts.currentByParticipants a b now).isEmpty ||
    !(accounts.currentByParticipants b a now).isEmpty

theorem counterparts_iff {a b : Uuid} {now : ℕ} :
    counterparts accounts a b now = true ↔ Counterparts accounts a b now := by
  have hnonempty : ∀ c d, (!(accounts.currentByParticipants c d now).isEmpty) = true ↔
      ∃ conversation assignment, Live accounts c d now conversation assignment := by
    intro c d
    rw [Bool.not_eq_true', List.isEmpty_eq_false_iff_exists_mem]
    exact exists_congr fun conversation => mem_currentByParticipants
  rw [counterparts, Bool.or_eq_true, hnonempty, hnonempty, Counterparts]
  simp only [exists_or]

/-! ## The part of the tables a user may see -/

/-- Both parties of the assignment are seen. -/
def between (seen : Uuid → Bool) (assignment : Assignment) : Bool :=
  seen assignment.clientUserId && seen assignment.cashierUserId

/-- **The accounts of some users**: their rows, and their relationships with each other. -/
def onlyAccounts (seen : Uuid → Bool) (accounts : Accounts) : Accounts where
  users := accounts.users.filter fun user => seen user.id
  devices := accounts.devices.filter fun device => seen device.userId
  deviceKeys := accounts.deviceKeys.filter fun row => seen row.userId
  sessions := accounts.sessions.filter fun session => seen session.userId
  cashierProfiles := accounts.cashierProfiles.filter fun profile => seen profile.userId
  subscriptions := accounts.subscriptions.filter fun subscription =>
    seen subscription.cashierUserId
  assignments := accounts.assignments.filter (between seen)
  conversations := accounts.conversations.filter fun conversation =>
    (accounts.assignments.find? conversation.assignmentId).any (between seen)

/-- **The directory of some users.** The device lists are no keys. -/
def only (seen : Uuid → Bool) (db : Directory) : Directory where
  accounts := onlyAccounts seen db.accounts
  deviceKeys deviceId :=
    if (db.accounts.deviceKeys.find? deviceId).any (fun row => seen row.userId) then
      db.deviceKeys deviceId
    else none
  lists := DeviceLists.empty
  identities := db.identities.filter fun identity => seen identity.userId
  certificates := db.certificates.filter fun certificate => seen certificate.userId

theorem currentUserSession_only (h : seen principal.id = true) (deviceId : Uuid) (now : ℕ) :
    (onlyAccounts seen accounts).currentUserSession principal deviceId now =
      accounts.currentUserSession principal deviceId now := by
  have husers : (onlyAccounts seen accounts).users.find? principal.id =
      accounts.users.find? principal.id :=
    Table.find?_filter_of fun user _ hid => hid ▸ h
  have hsessions : (onlyAccounts seen accounts).sessions.find? principal.sessionId =
      (accounts.sessions.find? principal.sessionId).filter fun session => seen session.userId :=
    Table.find?_filter
  unfold Accounts.currentUserSession
  rw [husers, hsessions]
  cases hsession : accounts.sessions.find? principal.sessionId with
  | none => rfl
  | some session =>
    by_cases hseen : seen session.userId = true
    · rw [Option.filter_some, if_pos hseen]
    · -- a session of somebody unseen is not the caller's
      have hother : (session.userId == principal.id) = false :=
        beq_eq_false_iff_ne.mpr fun heq => hseen (heq ▸ h)
      rw [Option.filter_some, if_neg hseen]
      cases accounts.users.find? principal.id <;> simp [hother]

theorem availableCashier_only {userId : Uuid} (h : seen userId = true) :
    (onlyAccounts seen accounts).availableCashier userId = accounts.availableCashier userId := by
  have hprofiles : (onlyAccounts seen accounts).cashierProfiles.find? userId =
      accounts.cashierProfiles.find? userId := Table.find?_filter_of fun row _ hid => hid ▸ h
  have husers : (onlyAccounts seen accounts).users.find? userId = accounts.users.find? userId :=
    Table.find?_filter_of fun row _ hid => hid ▸ h
  unfold Accounts.availableCashier
  rw [hprofiles, husers]

theorem activeClient_only {userId : Uuid} (h : seen userId = true) :
    (onlyAccounts seen accounts).activeClient userId = accounts.activeClient userId := by
  have husers : (onlyAccounts seen accounts).users.find? userId = accounts.users.find? userId :=
    Table.find?_filter_of fun row _ hid => hid ▸ h
  unfold Accounts.activeClient
  rw [husers]

/-- The subscriptions of a cashier who is seen. -/
theorem subscriptions_only {userId : Uuid} (h : seen userId = true) (now : ℕ) :
    ((onlyAccounts seen accounts).subscriptions.rows.filter fun subscription =>
      subscription.cashierUserId == userId && Accounts.inForce now subscription) =
      accounts.subscriptions.rows.filter fun subscription =>
        subscription.cashierUserId == userId && Accounts.inForce now subscription := by
  show (List.filter _ (List.filter _ _)) = _
  rw [List.filter_filter]
  refine List.filter_congr fun subscription _ => ?_
  by_cases hcashier : subscription.cashierUserId = userId
  · simp [hcashier, h]
  · simp [hcashier]

/-- A query over part of the rows, where the others give nothing. -/
theorem flatMap_filter_of {α β : Type} {p : α → Bool} {f g : α → List β} {rows : List α}
    (hkept : ∀ a ∈ rows, p a = true → f a = g a) (hdropped : ∀ a ∈ rows, p a = false → g a = []) :
    (rows.filter p).flatMap f = rows.flatMap g := by
  induction rows with
  | nil => rfl
  | cons a rest ih =>
    have hrest := ih (fun b hb => hkept b (List.mem_cons_of_mem _ hb))
      fun b hb => hdropped b (List.mem_cons_of_mem _ hb)
    by_cases hp : p a = true
    · rw [List.filter_cons_of_pos hp, List.flatMap_cons, List.flatMap_cons, hrest,
        hkept a List.mem_cons_self hp]
    · rw [List.filter_cons_of_neg hp, List.flatMap_cons, hrest,
        hdropped a List.mem_cons_self (Bool.not_eq_true _ ▸ hp), List.nil_append]

/-- **The eligibility of two users** is that of the tables of both. -/
theorem currentByParticipants_only {a b : Uuid} (ha : seen a = true) (hb : seen b = true)
    (now : ℕ) : (onlyAccounts seen accounts).currentByParticipants a b now =
      accounts.currentByParticipants a b now := by
  unfold Accounts.currentByParticipants
  refine flatMap_filter_of (fun conversation _ hkept => ?_) fun conversation _ hdropped => ?_
  · obtain ⟨assignment, hassignment, hbetween⟩ := (Option.any_eq_true _ _).mp hkept
    have hfound : (onlyAccounts seen accounts).assignments.find? conversation.assignmentId =
        some assignment := by
      refine Table.find?_filter.trans ?_
      rw [hassignment, Option.filter_some, if_pos hbetween]
    rw [hfound, hassignment]
    dsimp only
    rw [availableCashier_only hb, activeClient_only ha, subscriptions_only hb]
  · cases hassignment : accounts.assignments.find? conversation.assignmentId with
    | none => rfl
    | some assignment =>
      rw [hassignment, Option.any_some] at hdropped
      dsimp only
      rw [if_neg]
      rintro ⟨rfl, rfl, -⟩
      rw [between, ha, hb] at hdropped
      cases hdropped

/-- Users who are not both seen have no conversation in the part. -/
theorem currentByParticipants_only_eq_nil {a b : Uuid} (h : ¬ (seen a = true ∧ seen b = true))
    (now : ℕ) : (onlyAccounts seen accounts).currentByParticipants a b now = [] := by
  refine List.eq_nil_iff_forall_not_mem.mpr fun conversation hmem => h ?_
  obtain ⟨assignment, hlive⟩ := mem_currentByParticipants.mp hmem
  obtain ⟨hmember, -⟩ := Table.find?_eq_some.mp hlive.found
  have hbetween := (Table.mem_filter.mp hmember).2
  rw [between, Bool.and_eq_true, hlive.client, hlive.cashier] at hbetween
  exact hbetween

/-- The rows for one conversation are its parties, one of them the participant. -/
theorem live_of_mem_currentOfConversation {userId conversationId deviceId : Uuid} {now : ℕ}
    {parties : Uuid × Uuid}
    (h : parties ∈ accounts.currentOfConversation userId conversationId deviceId now) :
    ∃ conversation assignment, accounts.conversations.find? conversationId = some conversation ∧
      Live accounts parties.1 parties.2 now conversation assignment ∧
      (userId = parties.1 ∨ userId = parties.2) := by
  unfold Accounts.currentOfConversation at h
  cases hconversation : accounts.conversations.find? conversationId with
  | none => simp [hconversation] at h
  | some conversation =>
    cases hdevice : accounts.devices.find? deviceId with
    | none => simp [hconversation, hdevice] at h
    | some device =>
      cases hassignment : accounts.assignments.find? conversation.assignmentId with
      | none => simp [hconversation, hdevice, hassignment] at h
      | some assignment =>
        rw [hconversation, hdevice] at h
        dsimp only at h
        rw [hassignment] at h
        dsimp only at h
        split_ifs at h with hlive
        · obtain ⟨subscription, hsubscription, rfl⟩ := List.mem_map.mp h
          obtain ⟨hrow, hforce⟩ := List.mem_filter.mp hsubscription
          rw [Bool.and_eq_true, beq_iff_eq] at hforce
          obtain ⟨hactive, hrunning, hparty, -, -, havailable, hclient⟩ := hlive
          exact ⟨conversation, assignment, rfl,
            ⟨(Table.find?_eq_some.mp hconversation).1, hassignment, rfl, rfl, hactive, hrunning,
              hclient, havailable, subscription, hrow, hforce⟩, hparty⟩
        · cases h

/-- The other party of such a row is a counterpart. -/
theorem counterparts_of_mem {userId conversationId deviceId : Uuid} {now : ℕ}
    {parties : Uuid × Uuid}
    (h : parties ∈ accounts.currentOfConversation userId conversationId deviceId now) :
    (userId = parties.1 ∧ Counterparts accounts userId parties.2 now) ∨
      (userId = parties.2 ∧ Counterparts accounts userId parties.1 now) := by
  obtain ⟨conversation, assignment, -, hlive, rfl | rfl⟩ := live_of_mem_currentOfConversation h
  · exact .inl ⟨rfl, conversation, assignment, .inl hlive⟩
  · exact .inr ⟨rfl, conversation, assignment, .inr hlive⟩

/-- **The eligibility for a conversation** is that of the tables of its participant and
all counterparts. -/
theorem currentOfConversation_only {userId conversationId deviceId : Uuid} {now : ℕ}
    (hown : seen userId = true)
    (hseen : ∀ other, Counterparts accounts userId other now → seen other = true) :
    (onlyAccounts seen accounts).currentOfConversation userId conversationId deviceId now =
      accounts.currentOfConversation userId conversationId deviceId now := by
  -- A conversation that is dropped has no parties who are current.
  have hempty : ∀ {conversation : Conversation},
      accounts.conversations.find? conversationId = some conversation →
      (accounts.assignments.find? conversation.assignmentId).any (between seen) = false →
      accounts.currentOfConversation userId conversationId deviceId now = [] := by
    intro conversation hconversation hdropped
    refine List.eq_nil_iff_forall_not_mem.mpr fun parties hmem => ?_
    obtain ⟨found, assignment, hfound, hlive, -⟩ := live_of_mem_currentOfConversation hmem
    obtain rfl := Option.some.inj (hconversation.symm.trans hfound)
    rw [hlive.found, Option.any_some, between, hlive.client, hlive.cashier] at hdropped
    have hboth : seen parties.1 = true ∧ seen parties.2 = true := by
      rcases counterparts_of_mem hmem with ⟨rfl, hother⟩ | ⟨rfl, hother⟩
      · exact ⟨hown, hseen _ hother⟩
      · exact ⟨hseen _ hother, hown⟩
    rw [hboth.1, hboth.2] at hdropped
    cases hdropped
  -- The two lookups are compared step by step: the conversation, its assignment, the device.
  cases hconversation : accounts.conversations.find? conversationId with
  | none =>
    have hpart : (onlyAccounts seen accounts).conversations.find? conversationId = none := by
      refine Table.find?_filter.trans ?_
      rw [hconversation, Option.filter_none]
    unfold Accounts.currentOfConversation
    rw [hpart, hconversation]
  | some conversation =>
    have hpart : (onlyAccounts seen accounts).conversations.find? conversationId =
        (some conversation).filter fun conversation =>
          (accounts.assignments.find? conversation.assignmentId).any (between seen) := by
      rw [← hconversation]
      exact Table.find?_filter
    rw [Option.filter_some] at hpart
    by_cases hkept : (accounts.assignments.find? conversation.assignmentId).any (between seen) =
        true
    · rw [if_pos hkept] at hpart
      obtain ⟨assignment, hassignment, hbetween⟩ := (Option.any_eq_true _ _).mp hkept
      have hfound : (onlyAccounts seen accounts).assignments.find? conversation.assignmentId =
          some assignment := by
        refine Table.find?_filter.trans ?_
        rw [hassignment, Option.filter_some, if_pos hbetween]
      have hdevices : (onlyAccounts seen accounts).devices.find? deviceId =
          (accounts.devices.find? deviceId).filter fun device => seen device.userId :=
        Table.find?_filter
      rw [between, Bool.and_eq_true] at hbetween
      unfold Accounts.currentOfConversation
      rw [hpart, hconversation, hdevices]
      cases hdevice : accounts.devices.find? deviceId with
      | none => rfl
      | some device =>
        by_cases hdeviceSeen : seen device.userId = true
        · rw [Option.filter_some, if_pos hdeviceSeen]
          dsimp only
          rw [hfound, hassignment]
          dsimp only
          rw [availableCashier_only hbetween.2, activeClient_only hbetween.1,
            subscriptions_only hbetween.2]
        -- A device of somebody unseen is not the requester's.
        · rw [Option.filter_some, if_neg hdeviceSeen]
          dsimp only
          rw [hassignment]
          dsimp only
          rw [if_neg]
          rintro ⟨-, -, -, hdeviceOwner, -⟩
          exact hdeviceSeen (hdeviceOwner ▸ hown)
    · rw [hempty hconversation (Bool.eq_false_iff.mpr hkept)]
      rw [if_neg hkept] at hpart
      unfold Accounts.currentOfConversation
      rw [hpart]

/-! ## Identifiers -/

/-- A UUID is its digits with the dashes between. -/
theorem dashed_uuidHex (id : Uuid) :
    Contracts.IsHex (uuidHex id) ∧ dashed (uuidHex id) = id.text := by
  obtain ⟨p, q, r, t, v, htext, hp, hq, hr, ht, hv⟩ := Contracts.fixed_groups.mp id.valid
  have hdash : (js "-").filter (fun u => u != 0x2D) = [] := rfl
  have hhex : uuidHex id = p ++ q ++ r ++ t ++ v := by
    rw [uuidHex, htext]
    simp only [List.filter_append, Contracts.filter_group hp, Contracts.filter_group hq,
      Contracts.filter_group hr, Contracts.filter_group ht, Contracts.filter_group hv, hdash,
      List.append_nil]
  have hfixed : fixed (times 32 isLowerHex) (p ++ q ++ r ++ t ++ v) = true := by
    have hsplit : times 32 isLowerHex = times 8 isLowerHex ++ times 4 isLowerHex ++
      times 4 isLowerHex ++ times 4 isLowerHex ++ times 12 isLowerHex := rfl
    rw [hsplit]
    exact fixed_append_of (fixed_append_of (fixed_append_of (fixed_append_of hp hq) hr) ht) hv
  obtain ⟨hlength, hdigits⟩ := fixed_times.mp hfixed
  rw [hhex]
  refine ⟨⟨hlength, hdigits⟩, ?_⟩
  rw [htext, Contracts.dashed_append (length_of_fixed hp) (length_of_fixed hq)
    (length_of_fixed hr) (length_of_fixed ht)]

theorem eq_of_uuidHex {a b : Uuid} (h : uuidHex a = uuidHex b) : a = b := by
  refine Uuid.text_injective ?_
  rw [← (dashed_uuidHex a).2, ← (dashed_uuidHex b).2, h]

/-- The digits of an id of the server are those of one user. -/
theorem eq_of_matrixUserIdFromUuid {a b : Uuid} {serverName : JsString}
    (h : matrixUserIdFromUuid a serverName = matrixUserIdFromUuid b serverName) : a = b := by
  simp only [matrixUserIdFromUuid, List.append_assoc] at h
  have hlength : (uuidHex a).length = (uuidHex b).length := by
    rw [(dashed_uuidHex a).1.length, (dashed_uuidHex b).1.length]
  exact eq_of_uuidHex (List.append_inj_left (List.append_cancel_left h) hlength)

/-- An id that is read as one user is not that of another. -/
theorem eq_of_sinochatUserId {matrixUserId serverName : JsString} {a b : Uuid}
    (h : sinochatUserIdFromMatrixUserId matrixUserId serverName = some a)
    (hid : matrixUserId = matrixUserIdFromUuid b serverName) : b = a := by
  obtain ⟨hex, hhex, htext, hlower⟩ := Contracts.sinochatUserIdFromMatrixUserId_eq_some.mp h
  have hletters : Contracts.toLowerCase (js "@u") = js "@u" := rfl
  rw [hid, matrixUserIdFromUuid, Contracts.toLowerCase_append, Contracts.toLowerCase_append,
    Contracts.toLowerCase_append, hletters, (dashed_uuidHex b).1.toLowerCase_eq] at hlower
  simp only [List.append_assoc] at hlower
  have hlength : (uuidHex b).length = hex.length := by
    rw [(dashed_uuidHex b).1.length, hhex.length]
  refine Uuid.text_injective ?_
  rw [htext, ← List.append_inj_left (List.append_cancel_left hlower) hlength,
    (dashed_uuidHex b).2]

/-! ## The tables -/

/-- **The tables of a reachable state**: ids are those of their users, and certificates
belong to the owners of their devices. -/
structure Consistent (serverName : JsString) (db : Directory) : Prop where
  constraints : DeviceConstraints db.accounts
  canonical : ∀ row ∈ db.accounts.deviceKeys,
    row.matrixUserId = matrixUserIdFromUuid row.userId serverName
  certified : ∀ certificate ∈ db.certificates, ∃ row ∈ db.accounts.deviceKeys,
    row.deviceId = certificate.deviceId ∧ row.userId = certificate.userId
  identities : ∀ identity ∈ db.identities,
    identity.matrixUserId = matrixUserIdFromUuid identity.userId serverName

/-- A first upload is of the user and the device it is for. -/
theorem userId_of_parseInitial {value : Json} {userId deviceId : JsString}
    {upload : KeyUpload.InitialMatrixKeyUpload}
    (h : KeyUpload.parseInitialMatrixKeyUpload scheme value userId deviceId = .ok upload) :
    upload.deviceKeys.userId = userId := by
  obtain ⟨parsed, hparsed, h⟩ := bind_eq_ok.mp h
  obtain ⟨deviceKeys, hkeys, h⟩ := bind_eq_ok.mp h
  obtain rfl := Except.ok.inj h
  obtain ⟨_, -, hparsed⟩ := bind_eq_ok.mp hparsed
  obtain ⟨body, -, hparsed⟩ := bind_eq_ok.mp hparsed
  obtain ⟨_, -, hparsed⟩ := bind_eq_ok.mp hparsed
  obtain ⟨device?, hdevice, hparsed⟩ := bind_eq_ok.mp hparsed
  obtain ⟨_, -, hparsed⟩ := bind_eq_ok.mp hparsed
  obtain ⟨_, -, hparsed⟩ := bind_eq_ok.mp hparsed
  obtain ⟨_, -, hparsed⟩ := bind_eq_ok.mp hparsed
  obtain ⟨_, -, hparsed⟩ := bind_eq_ok.mp hparsed
  obtain ⟨_, -, hparsed⟩ := bind_eq_ok.mp hparsed
  obtain ⟨_, -, hparsed⟩ := bind_eq_ok.mp hparsed
  obtain rfl := Except.ok.inj hparsed
  obtain rfl : device? = some deviceKeys := orThrow_eq_ok.mp hkeys
  cases hvalue : Json.get? (js "device_keys") body with
  | none =>
    rw [hvalue] at hdevice
    cases hdevice
  | some value =>
    rw [hvalue] at hdevice
    obtain ⟨device, hparse, hsome⟩ := bind_eq_ok.mp hdevice
    obtain rfl : device = deviceKeys := Option.some.inj (Except.ok.inj hsome)
    obtain ⟨_, -, hparse⟩ := bind_eq_ok.mp hparse
    obtain ⟨_, -, hparse⟩ := bind_eq_ok.mp hparse
    obtain ⟨_, -, hparse⟩ := bind_eq_ok.mp hparse
    obtain ⟨_, -, hparse⟩ := bind_eq_ok.mp hparse
    obtain ⟨_, -, hparse⟩ := bind_eq_ok.mp hparse
    obtain ⟨_, -, hparse⟩ := bind_eq_ok.mp hparse
    obtain ⟨_, -, hparse⟩ := bind_eq_ok.mp hparse
    obtain ⟨_, -, hparse⟩ := bind_eq_ok.mp hparse
    obtain ⟨_, -, hparse⟩ := bind_eq_ok.mp hparse
    obtain rfl := Except.ok.inj hparse
    rfl

/-- **Every step keeps the tables consistent.** -/
theorem Consistent.step {db db' : Directory} {action : KeyTableAction}
    (h : Consistent env.matrixServerName db) (hstep : KeyTableStep env scheme db action db') :
    Consistent env.matrixServerName db' := by
  cases hstep with
  | @register userId deviceId value upload hupload hnone hdevice hkeys =>
    refine ⟨⟨?_, ?_⟩, ?_, ?_, h.identities⟩
    · intro a ha b hb hab
      rcases (Table.mem_insert (h := hdevice)).mp ha with ha | rfl <;>
        rcases (Table.mem_insert (h := hdevice)).mp hb with hb | rfl
      · exact h.constraints.one a ha b hb hab
      · exact absurd hab (hnone a ha)
      · exact absurd hab.symm (hnone b hb)
      · rfl
    · intro row hrow
      rcases (Table.mem_insert (h := hkeys)).mp hrow with hrow | rfl
      · obtain ⟨device, hmem, hids⟩ := h.constraints.owner row hrow
        exact ⟨device, (Table.mem_insert (h := hdevice)).mpr (.inl hmem), hids⟩
      · exact ⟨_, (Table.mem_insert (h := hdevice)).mpr (.inr rfl), rfl, rfl⟩
    · intro row hrow
      rcases (Table.mem_insert (h := hkeys)).mp hrow with hrow | rfl
      · exact h.canonical row hrow
      · exact userId_of_parseInitial hupload
    · intro certificate hcertificate
      obtain ⟨row, hrow, hids⟩ := h.certified certificate hcertificate
      exact ⟨row, (Table.mem_insert (h := hkeys)).mpr (.inl hrow), hids⟩
  | bootstrap hbootstrap =>
    rcases CrossSigning.bootstrap_cases hbootstrap with
      ⟨row, -, rfl, -⟩ | ⟨body, context, request, -, hcontext, -, hcreated, -⟩
    · exact h
    · refine ⟨hcreated.accounts ▸ h.constraints, hcreated.accounts ▸ h.canonical, ?_, ?_⟩
      · intro certificate hcertificate
        have hfind := (Table.find?_eq_some (k := certificate.deviceId)).mpr ⟨hcertificate, rfl⟩
        rw [hcreated.certificates] at hfind
        rw [hcreated.accounts]
        split_ifs at hfind
        · cases hfind
          exact hcontext.published
        · exact h.certified certificate (Table.find?_eq_some.mp hfind).1
      · intro identity hidentity
        have hfind := (Table.find?_eq_some (k := identity.userId)).mpr ⟨hidentity, rfl⟩
        rw [hcreated.identities] at hfind
        split_ifs at hfind
        · cases hfind
          exact hcontext.matrixUserId
        · exact h.identities identity (Table.find?_eq_some.mp hfind).1
  | changeAccounts hkeys hconstraints =>
    refine ⟨hconstraints, ?_, ?_, h.identities⟩
    · rw [show (Directory.accounts _).deviceKeys = _ from hkeys]
      exact h.canonical
    · rw [show (Directory.accounts _).deviceKeys = _ from hkeys]
      exact h.certified
  | changeLists => exact ⟨h.constraints, h.canonical, h.certified, h.identities⟩

theorem consistent_of_reachable {db : Directory} (h : (keyTables env scheme).Reachable db) :
    Consistent env.matrixServerName db := by
  obtain ⟨trace, hrun⟩ := h
  refine hrun.stateInvariant (I := Consistent env.matrixServerName) (fun db hdb => ?_)
    fun _ _ _ => Consistent.step
  obtain ⟨hkeys, hidentities, hcertificates, hconstraints⟩ := hdb
  refine ⟨hconstraints, fun row hrow => ?_, fun certificate hcertificate => ?_,
    fun identity hidentity => ?_⟩
  · rw [hkeys] at hrow
    cases hrow
  · rw [hcertificates] at hcertificate
    cases hcertificate
  · rw [hidentities] at hidentity
    cases hidentity

end KeyQuery

end SinoChat
