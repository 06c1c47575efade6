import SinoChat.KeyDirectory.Stamps
import SinoChat.ToDevice.Script

/-!
# Claims and the order of clock readings

A transaction that reads the clock under the device-set lock of its target
reads a time no key of the target is ahead of, and nobody changes those keys
before it commits. A related claim reads before it has the lock: what commits
in between may be later than its reading, and the database then rejects it.
It is safe exactly as long as no such commit happens while it waits
(`NoneWaiting`).
-/

namespace SinoChat

open Js

variable {env : Deployment}

/-! ## Owners -/

/-- The user a published device belongs to. -/
def Accounts.owner (accounts : Accounts) (deviceId : Uuid) : Option Uuid :=
  (accounts.deviceKeys.find? deviceId).map MatrixDeviceKey.userId

/-- The devices of a user. -/
def Accounts.devicesOf (accounts : Accounts) (userId deviceId : Uuid) : Prop :=
  accounts.owner deviceId = some userId

theorem Accounts.owner_eq_some {accounts : Accounts} {deviceId userId : Uuid} :
    accounts.owner deviceId = some userId ↔
      ∃ row ∈ accounts.deviceKeys, row.deviceId = deviceId ∧ row.userId = userId := by
  rw [owner, Option.map_eq_some_iff]
  constructor
  · rintro ⟨row, hrow, hu⟩
    obtain ⟨hmem, hdevice⟩ := Table.find?_eq_some.mp hrow
    exact ⟨row, hmem, hdevice, hu⟩
  · rintro ⟨row, hmem, hdevice, hu⟩
    exact ⟨row, Table.find?_eq_some.mpr ⟨hmem, hdevice⟩, hu⟩

/-- Owners stay while identities do. -/
theorem Accounts.owner_of_kept {before after : Accounts}
    (h : ∀ row ∈ before.deviceKeys, row ∈ after.deviceKeys) {deviceId userId : Uuid}
    (howner : before.owner deviceId = some userId) : after.owner deviceId = some userId := by
  obtain ⟨row, hmem, hdevice, hu⟩ := owner_eq_some.mp howner
  exact owner_eq_some.mpr ⟨row, h row hmem, hdevice, hu⟩

/-- A session that passes the check is of the owner of its device. -/
theorem Accounts.owner_of_session {accounts : Accounts} (h : accounts.SessionsOwnDevices)
    {principal : SessionPrincipal} {deviceId : Uuid} {now : ℕ}
    (hsession : accounts.currentUserSession principal deviceId now = true)
    (hpublished : (accounts.deviceKeys.find? deviceId).isSome = true) :
    accounts.owner deviceId = some principal.id := by
  obtain ⟨row, hrow⟩ := Option.isSome_iff_exists.mp hpublished
  obtain ⟨hmem, hdevice⟩ := Table.find?_eq_some.mp hrow
  unfold currentUserSession at hsession
  split at hsession
  · rename_i session user hs hu
    obtain ⟨hsmem, -⟩ := Table.find?_eq_some.mp hs
    simp only [Bool.and_eq_true, beq_iff_eq] at hsession
    have howns := h session hsmem row hmem (by rw [hdevice]; exact hsession.1.1.1.1.1.2)
    exact owner_eq_some.mpr ⟨row, hmem, hdevice, howns.trans hsession.1.1.1.1.1.1⟩
  · cases hsession

/-- A bound that holds of fewer devices. -/
theorem UpTo.of_imp {keys : KeyStore} {devices others : Uuid → Prop} {now bound : ℕ}
    (h : UpTo keys devices now) (hle : now ≤ bound)
    (hone : ∀ key ∈ keys.oneTimeKeys, others key.deviceId → devices key.deviceId)
    (hfallback : ∀ key ∈ keys.fallbackKeys, others key.deviceId → devices key.deviceId) :
    UpTo keys others bound where
  oneTimeKeys key hkey hd := (h.oneTimeKeys key hkey (hone key hkey hd)).trans hle
  fallbackKeys key hkey hd := (h.fallbackKeys key hkey (hfallback key hkey hd)).trans hle
  firstClaimed key hkey hd t ht :=
    (h.firstClaimed key hkey (hfallback key hkey hd) t ht).trans hle

/-! ## What a transaction does -/

/-- The devices whose keys an upload adds or a claim takes are its scope's. -/
theorem requireDirectoryDevice_eq_ok {principal : SessionPrincipal} {deviceId : Uuid}
    (h : requireDirectoryDevice principal = .ok deviceId) : principal.deviceId = some deviceId := by
  obtain ⟨_, -, h⟩ := bind_eq_ok.mp h
  exact orThrow_eq_ok.mp h

theorem apply_upload {principal : SessionPrincipal} {new : MatrixKeyUpload} {scope : ClaimScope}
    {now : ℕ} {db db' : Db}
    (h : (KeyRequest.upload principal new).apply env scope now db = .ok db') :
    ∃ deviceId one fallback slots, principal.deviceId = some deviceId ∧
      db' = { db with keys := { db.keys with
        oneTimeKeys := db.keys.oneTimeKeys ++ one
        fallbackKeys := db.keys.fallbackKeys ++ fallback, slots } } ∧
      (∀ row ∈ one, row.deviceId = deviceId ∧ row.uploadedAt = now ∧ row.claimedAt = none) ∧
      (∀ row ∈ fallback, row.deviceId = deviceId ∧ row.uploadedAt = now ∧
        row.firstClaimedAt = none) ∧
      (one.map MatrixOneTimeKey.id).Sublist (new.oneTimeKeys.map UploadedKey.rowId) ∧
      (fallback.map MatrixFallbackKey.id).Sublist (new.fallbackKeys.map UploadedKey.rowId) ∧
      (slots = db.keys.slots ∨ ∃ row ∈ db.keys.fallbackKeys ++ fallback, row.deviceId = deviceId ∧
        slots = Function.update db.keys.slots deviceId (some row.id)) := by
  obtain ⟨deviceId, hdevice, h⟩ := bind_eq_ok.mp h
  obtain ⟨inserted, hinserted, h⟩ := bind_eq_ok.mp h
  obtain ⟨keys, hkeys, h⟩ := bind_eq_ok.mp h
  cases h
  obtain ⟨one, rfl, hone, hids⟩ := insertOneTimeKeys_rows hinserted
  obtain ⟨fallback, slots, rfl, hfallback, hfids, hslots⟩ := rotateFallbackKey_rows hkeys
  exact ⟨deviceId, one, fallback, slots, requireDirectoryDevice_eq_ok hdevice, rfl, hone,
    hfallback, hids, hfids, hslots⟩

/-- A claim takes keys of devices of its scope's user, possibly of none. -/
theorem apply_claim {claim : KeyClaim} {scope : ClaimScope} {now : ℕ} {db db' : Db}
    (h : (KeyRequest.claim claim).apply env scope now db = .ok db') :
    ∃ claimRequests targets, (∀ target ∈ targets, db.accounts.devicesOf scope.userId target) ∧
      db' = { db with keys :=
        KeyStore.takeFor { db.keys with claimRequests } claim.call.rowId now targets } := by
  obtain ⟨deviceId, -, h⟩ := bind_eq_ok.mp h
  obtain ⟨parsed, -, h⟩ := bind_eq_ok.mp h
  obtain ⟨hash, -, h⟩ := bind_eq_ok.mp h
  obtain ⟨⟨db'', claimed⟩, hrun, h⟩ := bind_eq_ok.mp h
  cases h
  unfold runClaim at hrun
  split at hrun
  · obtain ⟨_, -, hrun⟩ := bind_eq_ok.mp hrun
    cases hrun
    exact ⟨db.keys.claimRequests, [], by simp, rfl⟩
  · cases hrun
    refine ⟨_, _, ?_, rfl⟩
    intro target htarget
    obtain ⟨row, hrow, rfl⟩ := List.mem_map.mp (List.mem_sortBy.mp htarget)
    obtain ⟨hmem, hrow⟩ := List.mem_filter.mp hrow
    simp only [Bool.and_eq_true, beq_iff_eq] at hrow
    exact Accounts.owner_eq_some.mpr ⟨row, hmem, rfl, hrow.1.1.1.1⟩

/-! ## What a transaction knows -/

/-- The transaction claims keys of a user: the one a related claim names, or
the one it was admitted for. -/
def KeyTransaction.Claims (env : Deployment) (t : KeyTransaction) (userId : Uuid) : Prop :=
  match t.request with
  | .upload _ _ => False
  | .claim (.related _) => t.request.target env.matrixServerName = some userId
  | .claim (.ofConversation _ _) => ∃ scope, t.scope = some scope ∧ scope.userId = userId

theorem KeyTransaction.claims_of_related {t : KeyTransaction} (h : t.request.Related)
    {userId : Uuid} :
    t.Claims env userId ↔ t.request.target env.matrixServerName = some userId := by
  obtain ⟨request, now, scope, pending, locked⟩ := t
  cases request with
  | upload => exact absurd h id
  | claim claim =>
    cases claim with
    | ofConversation => exact absurd h id
    | related => exact Iff.rfl

/-- What is known of a transaction. -/
structure TxInv (env : Deployment) (db : Db) (t : KeyTransaction) : Prop where
  reading : ∀ now, t.now = some now → now ≤ db.clock
  late : ¬ t.request.Related → t.now.isSome → t.scope.isSome ∧ t.pending = []
  within : ∀ scope, t.scope = some scope → scope.userId ∈ t.pending ∨ scope.userId ∈ t.locked
  named : t.request.Related → ∀ scope, t.scope = some scope →
    t.request.target env.matrixServerName = some scope.userId
  own : ∀ principal new, t.request = .upload principal new →
    (∀ scope, t.scope = some scope → scope.userId = principal.id) ∧
    (t.now.isSome → ∀ deviceId, principal.deviceId = some deviceId →
      db.accounts.owner deviceId = some principal.id)
  fresh : ∀ now userId, t.now = some now → t.Claims env userId →
    UpTo db.keys (db.accounts.devicesOf userId) now

/-- The claims of an admitted transaction are its scope's user. -/
theorem TxInv.claims_scope {db : Db} {t : KeyTransaction} (h : TxInv env db t)
    {claim : KeyClaim} (hrequest : t.request = .claim claim) {scope : ClaimScope}
    (hscope : t.scope = some scope) : t.Claims env scope.userId := by
  have hnamed := h.named
  unfold KeyTransaction.Claims
  rw [hrequest] at hnamed ⊢
  cases claim with
  | ofConversation conversationId call => exact ⟨scope, hscope, rfl⟩
  | related call => exact hnamed trivial scope hscope

/-- **What a run keeps.** -/
structure KeyClockInv (env : Deployment) (w : KeyClockWorld) : Prop where
  stamps : StampInv w.db.keys
  owned : ∀ key ∈ w.db.keys.oneTimeKeys, (w.db.accounts.owner key.deviceId).isSome
  ownedFallback : ∀ key ∈ w.db.keys.fallbackKeys, (w.db.accounts.owner key.deviceId).isSome
  past : UpTo w.db.keys (fun _ => True) w.db.clock
  reserved : ∀ n t, w.transactions n = some t → t.request.rowIds.Nodup ∧
    ∀ id ∈ t.request.rowIds, id ∈ w.drawn ∧ (∀ key ∈ w.db.keys.oneTimeKeys, key.id ≠ id) ∧
      ∀ key ∈ w.db.keys.fallbackKeys, key.id ≠ id
  drawn : ∀ key ∈ w.db.keys.oneTimeKeys, key.id ∈ w.drawn
  drawnFallback : ∀ key ∈ w.db.keys.fallbackKeys, key.id ∈ w.drawn
  apart : ∀ n m t other, w.transactions n = some t → w.transactions m = some other → n ≠ m →
    t.request.rowIds.Disjoint other.request.rowIds
  sessions : w.db.accounts.SessionsOwnDevices
  locks : ∀ n m t other userId, w.transactions n = some t → w.transactions m = some other →
    userId ∈ t.locked → userId ∈ other.locked → n = m
  transactions : ∀ n t, w.transactions n = some t → TxInv env w.db t

/-- **No related claim waits.** A transaction on the keys of a user commits
only while no related claim for this user has read the clock and not yet
locked the user's device set. -/
def NoneWaiting (env : Deployment) (w : KeyClockWorld) : KeyClockAction → Prop
  | .committed n => ∀ t scope, w.transactions n = some t → t.scope = some scope →
    ∀ m other, w.transactions m = some other → other.request.Related → other.now.isSome →
      other.request.target env.matrixServerName = some scope.userId →
      scope.userId ∈ other.locked
  | _ => True

/-! ## Steps of the transactions -/

theorem Function.update_eq_some {α β : Type*} [DecidableEq α] {f : α → Option β} {a a' : α}
    {x : Option β} {b : β} :
    Function.update f a x a' = some b ↔ a' = a ∧ x = some b ∨ a' ≠ a ∧ f a' = some b := by
  by_cases h : a' = a
  · subst h
    simp
  · simp [h]

/-- A transaction in its place that fits the others. -/
theorem KeyClockInv.set {w : KeyClockWorld} (h : KeyClockInv env w) {n : ℕ}
    {x : Option KeyTransaction}
    (hids : ∀ t, x = some t → ∃ old, w.transactions n = some old ∧ t.request = old.request)
    (hlocks : ∀ t, x = some t → ∀ m other userId, m ≠ n → w.transactions m = some other →
      userId ∈ t.locked → userId ∉ other.locked)
    (htx : ∀ t, x = some t → TxInv env w.db t) :
    KeyClockInv env { w with transactions := Function.update w.transactions n x } where
  stamps := h.stamps
  owned := h.owned
  ownedFallback := h.ownedFallback
  past := h.past
  drawn := h.drawn
  drawnFallback := h.drawnFallback
  sessions := h.sessions
  reserved m t hm := by
    rcases Function.update_eq_some.mp hm with ⟨rfl, hx⟩ | ⟨-, hm⟩
    · obtain ⟨old, hold, hrequest⟩ := hids t hx
      rw [hrequest]
      exact h.reserved m old hold
    · exact h.reserved m t hm
  apart m k t other hm hk hne := by
    rcases Function.update_eq_some.mp hm with ⟨rfl, hx⟩ | ⟨hmn, hm'⟩
    · obtain ⟨rfl, -⟩ | ⟨-, hk'⟩ := Function.update_eq_some.mp hk
      · exact absurd rfl hne
      · obtain ⟨old, hold, hrequest⟩ := hids t hx
        rw [hrequest]
        exact h.apart m k old other hold hk' hne
    · obtain ⟨rfl, hx⟩ | ⟨-, hk'⟩ := Function.update_eq_some.mp hk
      · obtain ⟨old, hold, hrequest⟩ := hids other hx
        rw [hrequest]
        exact h.apart m k t old hm' hold hne
      · exact h.apart m k t other hm' hk' hne
  locks m k t other userId hm hk ht ho := by
    rcases Function.update_eq_some.mp hm with ⟨rfl, hx⟩ | ⟨hmn, hm'⟩
    · obtain ⟨rfl, hx'⟩ | ⟨hkn, hk'⟩ := Function.update_eq_some.mp hk
      · rfl
      · exact absurd ho (hlocks t hx k other userId hkn hk' ht)
    · obtain ⟨rfl, hx⟩ | ⟨-, hk'⟩ := Function.update_eq_some.mp hk
      · exact absurd ht (hlocks other hx m t userId hmn hm' ho)
      · exact h.locks m k t other userId hm' hk' ht ho
  transactions m t hm := by
    rcases Function.update_eq_some.mp hm with ⟨-, hx⟩ | ⟨-, hm⟩
    · exact htx t hx
    · exact h.transactions m t hm

/-- **Alone at the commit.** Where no related claim waits, no other
transaction claims the keys of the user a transaction commits on. -/
theorem KeyClockInv.alone {w : KeyClockWorld} (h : KeyClockInv env w) {n m : ℕ}
    {t other : KeyTransaction} {scope : ClaimScope} (hn : w.transactions n = some t)
    (hscope : t.scope = some scope) (hpending : t.pending = [])
    (hwait : NoneWaiting env w (.committed n)) (hm : w.transactions m = some other)
    (hread : other.now.isSome) (hclaims : other.Claims env scope.userId) : m = n := by
  have hlocked : scope.userId ∈ t.locked := by
    simpa [hpending] using (h.transactions n t hn).within scope hscope
  have hother := h.transactions m other hm
  refine h.locks m n other t scope.userId hm hn ?_ hlocked
  by_cases hrelated : other.request.Related
  · exact hwait t scope hn hscope m other hm hrelated hread
      ((KeyTransaction.claims_of_related hrelated).mp hclaims)
  · have hlate := hother.late hrelated hread
    unfold KeyTransaction.Claims at hclaims
    split at hclaims
    · cases hclaims
    · rename_i hrequest
      rw [hrequest] at hrelated
      exact absurd trivial hrelated
    · obtain ⟨scope', hscope', heq⟩ := hclaims
      simpa [hlate.2, heq] using hother.within scope' hscope'

/-- Transactions go on when identities stay and the keys they claim do not get later. -/
theorem TxInv.mono {before after : Db} {t : KeyTransaction} (h : TxInv env before t)
    (hclock : before.clock ≤ after.clock)
    (hkept : ∀ row ∈ before.accounts.deviceKeys, row ∈ after.accounts.deviceKeys)
    (hfresh : ∀ now userId, t.now = some now → t.Claims env userId →
      UpTo before.keys (before.accounts.devicesOf userId) now →
      UpTo after.keys (after.accounts.devicesOf userId) now) : TxInv env after t where
  reading now hnow := (h.reading now hnow).trans hclock
  late := h.late
  within := h.within
  named := h.named
  own principal new hrequest := by
    obtain ⟨hscope, howner⟩ := h.own principal new hrequest
    exact ⟨hscope, fun hread deviceId hdevice =>
      Accounts.owner_of_kept hkept (howner hread deviceId hdevice)⟩
  fresh now userId hnow hclaims := hfresh now userId hnow hclaims (h.fresh now userId hnow hclaims)

/-- The keys of a user's devices after the accounts change are those of before. -/
theorem KeyClockInv.upTo_kept {w : KeyClockWorld} (h : KeyClockInv env w) {accounts : Accounts}
    (hkept : ∀ row ∈ w.db.accounts.deviceKeys, row ∈ accounts.deviceKeys) {userId : Uuid} {now : ℕ}
    (hupTo : UpTo w.db.keys (w.db.accounts.devicesOf userId) now) :
    UpTo w.db.keys (accounts.devicesOf userId) now := by
  have hback : ∀ deviceId, (w.db.accounts.owner deviceId).isSome →
      accounts.devicesOf userId deviceId → w.db.accounts.devicesOf userId deviceId := by
    intro deviceId hsome hafter
    obtain ⟨userId', howner⟩ := Option.isSome_iff_exists.mp hsome
    obtain rfl : userId' = userId := by
      simpa using (Accounts.owner_of_kept hkept howner).symm.trans hafter
    exact howner
  exact hupTo.of_imp le_rfl (fun key hkey => hback _ (h.owned key hkey))
    (fun key hkey => hback _ (h.ownedFallback key hkey))

/-! ## The keys of an upload -/

/-- The rows an upload adds: of one device, at one time, not claimed. -/
structure AddedKeys (deviceId : Uuid) (now : ℕ) (one : List MatrixOneTimeKey)
    (fallback : List MatrixFallbackKey) : Prop where
  oneTimeKeys : ∀ row ∈ one, row.deviceId = deviceId ∧ row.uploadedAt = now ∧ row.claimedAt = none
  fallbackKeys : ∀ row ∈ fallback, row.deviceId = deviceId ∧ row.uploadedAt = now ∧
    row.firstClaimedAt = none

/-- The keys behind an upload. -/
def KeyStore.adding (keys : KeyStore) (one : List MatrixOneTimeKey)
    (fallback : List MatrixFallbackKey) (slots : Uuid → Option Uuid) : KeyStore :=
  { keys with
    oneTimeKeys := keys.oneTimeKeys ++ one
    fallbackKeys := keys.fallbackKeys ++ fallback, slots }

section Adding

variable {deviceId : Uuid} {now : ℕ} {one : List MatrixOneTimeKey}
  {fallback : List MatrixFallbackKey} {slots : Uuid → Option Uuid}

/-- Keys of a time stay up to a bound that is not before it, for the device they are of. -/
theorem UpTo.adding {keys : KeyStore} {devices : Uuid → Prop} {bound : ℕ}
    (h : UpTo keys devices bound) (hnew : AddedKeys deviceId now one fallback)
    (hbound : devices deviceId → now ≤ bound) :
    UpTo (keys.adding one fallback slots) devices bound where
  oneTimeKeys key hkey hd := by
    rcases List.mem_append.mp hkey with hold | hadded
    · exact h.oneTimeKeys key hold hd
    · obtain ⟨hdevice, hat, -⟩ := hnew.oneTimeKeys key hadded
      exact hat.trans_le (hbound (hdevice ▸ hd))
  fallbackKeys key hkey hd := by
    rcases List.mem_append.mp hkey with hold | hadded
    · exact h.fallbackKeys key hold hd
    · obtain ⟨hdevice, hat, -⟩ := hnew.fallbackKeys key hadded
      exact hat.trans_le (hbound (hdevice ▸ hd))
  firstClaimed key hkey hd time htime := by
    rcases List.mem_append.mp hkey with hold | hadded
    · exact h.firstClaimed key hold hd time htime
    · simp [(hnew.fallbackKeys key hadded).2.2] at htime

/-- The tables fit together behind an upload with fresh ids. -/
theorem StampInv.adding {keys : KeyStore} (h : StampInv keys)
    (hnew : AddedKeys deviceId now one fallback)
    (hids : (one.map MatrixOneTimeKey.id).Nodup)
    (hfids : (fallback.map MatrixFallbackKey.id).Nodup)
    (hfresh : ∀ row ∈ one, ∀ key ∈ keys.oneTimeKeys, key.id ≠ row.id)
    (hffresh : ∀ row ∈ fallback, ∀ key ∈ keys.fallbackKeys, key.id ≠ row.id)
    (hslots : slots = keys.slots ∨ ∃ row ∈ keys.fallbackKeys ++ fallback,
      row.deviceId = deviceId ∧ slots = Function.update keys.slots deviceId (some row.id)) :
    StampInv (keys.adding one fallback slots) where
  ids := by
    rw [KeyStore.adding, List.map_append]
    refine List.nodup_append.mpr ⟨h.ids, hids, ?_⟩
    rintro _ hold _ hadded rfl
    obtain ⟨key, hkey, hid⟩ := List.mem_map.mp hold
    obtain ⟨row, hrow, hrowId⟩ := List.mem_map.mp hadded
    exact hfresh row hrow key hkey (hid.trans hrowId.symm)
  fallbackIds := by
    rw [KeyStore.adding, List.map_append]
    refine List.nodup_append.mpr ⟨h.fallbackIds, hfids, ?_⟩
    rintro _ hold _ hadded rfl
    obtain ⟨key, hkey, hid⟩ := List.mem_map.mp hold
    obtain ⟨row, hrow, hrowId⟩ := List.mem_map.mp hadded
    exact hffresh row hrow key hkey (hid.trans hrowId.symm)
  slots := by
    intro device id hslot
    have hkept : keys.slots device = some id →
        ∃ row ∈ keys.fallbackKeys ++ fallback, row.id = id ∧ row.deviceId = device := by
      intro hold
      obtain ⟨row, hrow, hrest⟩ := h.slots device id hold
      exact ⟨row, List.mem_append_left _ hrow, hrest⟩
    have hslot : slots device = some id := hslot
    rcases hslots with rfl | ⟨row, hrow, hrowDevice, rfl⟩
    · exact hkept hslot
    · rcases Function.update_eq_some.mp hslot with ⟨rfl, hid⟩ | ⟨-, hold⟩
      · exact ⟨row, hrow, by simpa using hid, hrowDevice⟩
      · exact hkept hold
  claimed key hkey := by
    rcases List.mem_append.mp hkey with hold | hadded
    · exact h.claimed key hold
    · simp [claimClockCheck, (hnew.oneTimeKeys key hadded).2.2]
  firstClaimed key hkey := by
    rcases List.mem_append.mp hkey with hold | hadded
    · exact h.firstClaimed key hold
    · simp [firstClaimClockCheck, (hnew.fallbackKeys key hadded).2.2]

end Adding

/-! ## Commits -/

/-- The keys of an upload are of its device and under ids that were kept for it. -/
structure Uploads (w : KeyClockWorld) (t : KeyTransaction) (principal : SessionPrincipal)
    (deviceId : Uuid) (now : ℕ) (one : List MatrixOneTimeKey) (fallback : List MatrixFallbackKey) :
    Prop where
  rows : AddedKeys deviceId now one fallback
  owner : w.db.accounts.owner deviceId = some principal.id
  ids : (one.map MatrixOneTimeKey.id).Nodup
  fallbackIds : (fallback.map MatrixFallbackKey.id).Nodup
  mine : ∀ row ∈ one, row.id ∈ t.request.rowIds
  mineFallback : ∀ row ∈ fallback, row.id ∈ t.request.rowIds

/-- What an upload commits. -/
theorem KeyClockInv.uploads {w : KeyClockWorld} (h : KeyClockInv env w) {n now : ℕ}
    {t : KeyTransaction} {scope : ClaimScope} {principal : SessionPrincipal}
    {new : MatrixKeyUpload} (hn : w.transactions n = some t)
    (hrequest : t.request = .upload principal new) (hnow : t.now = some now) {db' : Db}
    (happly : (KeyRequest.upload principal new).apply env scope now w.db = .ok db') :
    ∃ deviceId one fallback slots, Uploads w t principal deviceId now one fallback ∧
      db' = { w.db with keys := w.db.keys.adding one fallback slots } ∧
      (slots = w.db.keys.slots ∨ ∃ row ∈ w.db.keys.fallbackKeys ++ fallback,
        row.deviceId = deviceId ∧
          slots = Function.update w.db.keys.slots deviceId (some row.id)) := by
  obtain ⟨hnodup, -⟩ := h.reserved n t hn
  obtain ⟨-, howner⟩ := (h.transactions n t hn).own principal new hrequest
  obtain ⟨deviceId, one, fallback, slots, hdevice, rfl, hone, hfallback, hids, hfids, hslots⟩ :=
    apply_upload happly
  have hrowIds : t.request.rowIds =
      new.oneTimeKeys.map UploadedKey.rowId ++ new.fallbackKeys.map UploadedKey.rowId := by
    rw [hrequest]
    exact List.map_append
  rw [hrowIds] at hnodup
  obtain ⟨hnodupOne, hnodupFallback, -⟩ := List.nodup_append.mp hnodup
  refine ⟨deviceId, one, fallback, slots, ⟨⟨hone, hfallback⟩,
    howner (by simp [hnow]) deviceId hdevice, hids.nodup hnodupOne, hfids.nodup hnodupFallback,
    fun row hrow => ?_, fun row hrow => ?_⟩, rfl, hslots⟩
  · rw [hrowIds]
    exact List.mem_append_left _ (hids.subset (List.mem_map_of_mem hrow))
  · rw [hrowIds]
    exact List.mem_append_right _ (hfids.subset (List.mem_map_of_mem hrow))

/-- **An upload commits.** -/
theorem KeyClockInv.commitUpload {w : KeyClockWorld} (h : KeyClockInv env w) {n now : ℕ}
    {t : KeyTransaction} {scope : ClaimScope} {principal : SessionPrincipal}
    {new : MatrixKeyUpload} (hn : w.transactions n = some t)
    (hrequest : t.request = .upload principal new) (hnow : t.now = some now)
    (hscope : t.scope = some scope) (hpending : t.pending = [])
    (hwait : NoneWaiting env w (.committed n)) {db' : Db}
    (happly : (KeyRequest.upload principal new).apply env scope now w.db = .ok db') :
    KeyClockInv env
      { w with db := db', transactions := Function.update w.transactions n none } := by
  have ht := h.transactions n t hn
  have hle := ht.reading now hnow
  obtain ⟨-, hreserved⟩ := h.reserved n t hn
  have hset := h.set (n := n) (x := none) (by simp) (by simp) (by simp)
  obtain ⟨deviceId, one, fallback, slots, hnew, rfl, hslots⟩ :=
    h.uploads hn hrequest hnow happly
  have happart : ∀ m other, m ≠ n → w.transactions m = some other →
      ∀ id ∈ t.request.rowIds, id ∉ other.request.rowIds :=
    fun m other hne hm id hid hother => h.apart n m t other hn hm (Ne.symm hne) hid hother
  refine ⟨h.stamps.adding hnew.rows hnew.ids hnew.fallbackIds
      (fun row hrow key hkey => (hreserved _ (hnew.mine row hrow)).2.1 key hkey)
      (fun row hrow key hkey => (hreserved _ (hnew.mineFallback row hrow)).2.2 key hkey) hslots,
    ?_, ?_, h.past.adding hnew.rows fun _ => hle, ?_, ?_, ?_, hset.apart, h.sessions, hset.locks,
    ?_⟩
  · intro key hkey
    rcases List.mem_append.mp hkey with hold | hadded
    · exact h.owned key hold
    · simp [(hnew.rows.oneTimeKeys key hadded).1, hnew.owner]
  · intro key hkey
    rcases List.mem_append.mp hkey with hold | hadded
    · exact h.ownedFallback key hold
    · simp [(hnew.rows.fallbackKeys key hadded).1, hnew.owner]
  · intro m other hm
    obtain ⟨-, hm⟩ | ⟨hne, hm⟩ := Function.update_eq_some.mp hm
    · cases hm
    obtain ⟨hother, hrest⟩ := h.reserved m other hm
    refine ⟨hother, fun id hid => ⟨(hrest id hid).1, fun key hkey => ?_, fun key hkey => ?_⟩⟩
    · rcases List.mem_append.mp hkey with hold | hadded
      · exact (hrest id hid).2.1 key hold
      · rintro rfl
        exact happart m other hne hm _ (hnew.mine key hadded) hid
    · rcases List.mem_append.mp hkey with hold | hadded
      · exact (hrest id hid).2.2 key hold
      · rintro rfl
        exact happart m other hne hm _ (hnew.mineFallback key hadded) hid
  · intro key hkey
    rcases List.mem_append.mp hkey with hold | hadded
    · exact h.drawn key hold
    · exact (hreserved _ (hnew.mine key hadded)).1
  · intro key hkey
    rcases List.mem_append.mp hkey with hold | hadded
    · exact h.drawnFallback key hold
    · exact (hreserved _ (hnew.mineFallback key hadded)).1
  · intro m other hm
    obtain ⟨-, hm⟩ | ⟨hne, hm⟩ := Function.update_eq_some.mp hm
    · cases hm
    refine (h.transactions m other hm).mono le_rfl (fun _ hrow => hrow) ?_
    -- another transaction that claims keys of the device would be the uploader's own
    intro read userId hread hclaims hupTo
    refine hupTo.adding hnew.rows fun hdevice => ?_
    obtain rfl : principal.id = userId := by simpa using hnew.owner.symm.trans hdevice
    have hown := (ht.own principal new hrequest).1 scope hscope
    exact absurd (h.alone hn hscope hpending hwait hm (by simp [hread]) (hown ▸ hclaims)) hne

/-- **A claim commits.** -/
theorem KeyClockInv.commitClaim {w : KeyClockWorld} (h : KeyClockInv env w) {n now : ℕ}
    {t : KeyTransaction} {scope : ClaimScope} {claim : KeyClaim}
    (hn : w.transactions n = some t) (hrequest : t.request = .claim claim)
    (hnow : t.now = some now) (hscope : t.scope = some scope) (hpending : t.pending = [])
    (hwait : NoneWaiting env w (.committed n)) {db' : Db}
    (happly : (KeyRequest.claim claim).apply env scope now w.db = .ok db') :
    KeyClockInv env
      { w with db := db', transactions := Function.update w.transactions n none } := by
  have ht := h.transactions n t hn
  have hle := ht.reading now hnow
  have hset := h.set (n := n) (x := none) (by simp) (by simp) (by simp)
  have hupTo := ht.fresh now scope.userId hnow (ht.claims_scope hrequest hscope)
  obtain ⟨claimRequests, targets, htargets, rfl⟩ := apply_claim happly
  have hstart : StampInv { w.db.keys with claimRequests } :=
    ⟨h.stamps.ids, h.stamps.fallbackIds, h.stamps.slots, h.stamps.claimed, h.stamps.firstClaimed⟩
  have hstartUpTo : UpTo { w.db.keys with claimRequests }
      (w.db.accounts.devicesOf scope.userId) now :=
    ⟨hupTo.oneTimeKeys, hupTo.fallbackKeys, hupTo.firstClaimed⟩
  obtain ⟨hmarks, -⟩ := takeFor_marks claim.call.rowId hstart htargets hstartUpTo
  -- The rows behind the claim are those before it, with other marks.
  have hold : ∀ key ∈ (KeyStore.takeFor { w.db.keys with claimRequests } claim.call.rowId now
      targets).oneTimeKeys, ∃ old ∈ w.db.keys.oneTimeKeys, key.id = old.id ∧
        key.deviceId = old.deviceId := by
    intro key hkey
    obtain ⟨old, hmem, hcontent, -⟩ := hmarks.mem hkey
    obtain ⟨hid, hdevice, -⟩ := MatrixOneTimeKey.fields_of_content hcontent
    exact ⟨old, hmem, hid, hdevice⟩
  have holdFallback : ∀ key ∈ (KeyStore.takeFor { w.db.keys with claimRequests }
      claim.call.rowId now targets).fallbackKeys, ∃ old ∈ w.db.keys.fallbackKeys,
        key.id = old.id ∧ key.deviceId = old.deviceId := by
    intro key hkey
    obtain ⟨old, hmem, hcontent, -⟩ := hmarks.mem_fallback hkey
    obtain ⟨hid, hdevice, -⟩ := MatrixFallbackKey.fields_of_content hcontent
    exact ⟨old, hmem, hid, hdevice⟩
  refine ⟨hstart.marks hmarks hstartUpTo, ?_, ?_, ?_, ?_, ?_, ?_, hset.apart, h.sessions,
    hset.locks, ?_⟩
  · intro key hkey
    obtain ⟨old, hmem, -, hdevice⟩ := hold key hkey
    exact hdevice ▸ h.owned old hmem
  · intro key hkey
    obtain ⟨old, hmem, -, hdevice⟩ := holdFallback key hkey
    exact hdevice ▸ h.ownedFallback old hmem
  -- What was marked was marked at a time before now.
  · have hpast : UpTo { w.db.keys with claimRequests } (fun _ => True) w.db.clock :=
      ⟨h.past.oneTimeKeys, h.past.fallbackKeys, h.past.firstClaimed⟩
    exact hpast.marks hmarks fun _ _ _ => hle
  · intro m other hm
    obtain ⟨hnodup, hrest⟩ := hset.reserved m other hm
    refine ⟨hnodup, fun id hid => ⟨(hrest id hid).1, fun key hkey => ?_, fun key hkey => ?_⟩⟩
    · obtain ⟨old, hmem, heq, -⟩ := hold key hkey
      exact heq ▸ (hrest id hid).2.1 old hmem
    · obtain ⟨old, hmem, heq, -⟩ := holdFallback key hkey
      exact heq ▸ (hrest id hid).2.2 old hmem
  · intro key hkey
    obtain ⟨old, hmem, heq, -⟩ := hold key hkey
    exact heq ▸ h.drawn old hmem
  · intro key hkey
    obtain ⟨old, hmem, heq, -⟩ := holdFallback key hkey
    exact heq ▸ h.drawnFallback old hmem
  -- Another transaction on the same keys would have waited for this one.
  · intro m other hm
    obtain ⟨-, hm⟩ | ⟨hne, hm⟩ := Function.update_eq_some.mp hm
    · cases hm
    refine (h.transactions m other hm).mono le_rfl (fun _ hrow => hrow) ?_
    intro read userId hread hclaims hother
    have hother : UpTo { w.db.keys with claimRequests } (w.db.accounts.devicesOf userId) read :=
      ⟨hother.oneTimeKeys, hother.fallbackKeys, hother.firstClaimed⟩
    refine hother.marks hmarks ?_
    intro deviceId hdevice hdevice'
    obtain rfl : scope.userId = userId := by
      simpa [Accounts.devicesOf] using hdevice.symm.trans hdevice'
    exact absurd (h.alone hn hscope hpending hwait hm (by simp [hread]) hclaims) hne

/-! ## Runs -/

/-- The target of a related claim is the user its scope is for. -/
theorem target_of_admission {request : KeyRequest} (hrelated : request.Related)
    {accounts : Accounts} {now : ℕ} {scope : ClaimScope} {users : List Uuid}
    (h : request.admission env accounts now = .ok (scope, users)) :
    request.target env.matrixServerName = some scope.userId := by
  cases request with
  | upload => exact absurd hrelated id
  | claim claim =>
    cases claim with
    | ofConversation => exact absurd hrelated id
    | related call =>
      obtain ⟨deviceId, -, h⟩ := bind_eq_ok.mp h
      obtain ⟨parsed, hparsed, h⟩ := bind_eq_ok.mp h
      split at h
      · rename_i matrixUserId devices hone
        obtain ⟨found, hfound, h⟩ := bind_eq_ok.mp h
        cases h
        obtain ⟨published, -, hfound⟩ := bind_eq_ok.mp hfound
        obtain ⟨_, -, hfound⟩ := bind_eq_ok.mp hfound
        obtain ⟨userId, huserId, hfound⟩ := bind_eq_ok.mp hfound
        simp only [KeyRequest.target, hparsed, hone]
        split at hfound
        · obtain ⟨_, -, hfound⟩ := bind_eq_ok.mp hfound
          cases hfound
          exact orThrow_eq_ok.mp huserId
        · obtain ⟨conversationId, -, hfound⟩ := bind_eq_ok.mp hfound
          cases hfound
          exact orThrow_eq_ok.mp huserId
      · cases h

/-- An admitted transaction has its scope's user among the locks to take. -/
theorem mem_of_admission {request : KeyRequest} {accounts : Accounts} {now : ℕ} {scope : ClaimScope}
    {users : List Uuid} (h : request.admission env accounts now = .ok (scope, users)) :
    scope.userId ∈ users := by
  cases request with
  | upload =>
    cases h
    exact List.mem_singleton.mpr rfl
  | claim claim =>
    cases claim with
    | ofConversation conversationId call =>
      obtain ⟨deviceId, -, h⟩ := bind_eq_ok.mp h
      obtain ⟨parsed, -, h⟩ := bind_eq_ok.mp h
      obtain ⟨parties, -, h⟩ := bind_eq_ok.mp h
      obtain ⟨_, -, h⟩ := bind_eq_ok.mp h
      cases h
      simp only [lockOrder, List.mem_sortBy, List.mem_dedup]
      split <;> simp
    | related call =>
      obtain ⟨deviceId, -, h⟩ := bind_eq_ok.mp h
      obtain ⟨parsed, -, h⟩ := bind_eq_ok.mp h
      split at h
      · obtain ⟨found, -, h⟩ := bind_eq_ok.mp h
        cases h
        simp [lockOrder, List.mem_sortBy]
      · cases h

/-- A transaction that has read the clock is up to date with all keys. -/
theorem TxInv.read {w : KeyClockWorld} (h : KeyClockInv env w) {n : ℕ} {t : KeyTransaction}
    (hn : w.transactions n = some t)
    (hwhen : if t.request.Related then t.scope = none else t.scope.isSome ∧ t.pending = [])
    (hsession : t.request.checkSession w.db.accounts w.db.clock = .ok ()) :
    TxInv env w.db { t with now := some w.db.clock } := by
  have ht := h.transactions n t hn
  refine ⟨?_, ?_, ht.within, ht.named, ?_, ?_⟩
  · rintro _ ⟨⟩
    exact le_rfl
  · intro hrelated _
    rw [if_neg hrelated] at hwhen
    exact hwhen
  · intro principal new hrequest
    refine ⟨(ht.own principal new hrequest).1, fun _ deviceId hdevice => ?_⟩
    have hrequest : t.request = .upload principal new := hrequest
    rw [hrequest] at hsession
    obtain ⟨device, hdevice', hsession⟩ := bind_eq_ok.mp hsession
    obtain ⟨_, -, hsession⟩ := bind_eq_ok.mp hsession
    obtain ⟨_, hcurrent, hpublished⟩ := bind_eq_ok.mp hsession
    obtain rfl : device = deviceId := by
      simpa using (requireDirectoryDevice_eq_ok hdevice').symm.trans hdevice
    exact Accounts.owner_of_session h.sessions (require_eq_ok.mp hcurrent)
      (require_eq_ok.mp hpublished)
  · rintro _ userId ⟨⟩ -
    exact h.past.of_imp le_rfl (fun _ _ _ => trivial) fun _ _ _ => trivial

/-- A transaction begins with row ids that nobody has drawn. -/
theorem KeyClockInv.begin {w : KeyClockWorld} (h : KeyClockInv env w) {n : ℕ} {request : KeyRequest}
    (hnodup : request.rowIds.Nodup) (hfresh : ∀ id ∈ request.rowIds, id ∉ w.drawn) :
    KeyClockInv env ⟨w.db, Function.update w.transactions n (some ⟨request, none, none, [], []⟩),
      request.rowIds ++ w.drawn⟩ := by
  have hnew : ∀ id ∈ request.rowIds, (∀ key ∈ w.db.keys.oneTimeKeys, key.id ≠ id) ∧
      ∀ key ∈ w.db.keys.fallbackKeys, key.id ≠ id := by
    refine fun id hid => ⟨?_, ?_⟩
    · rintro key hkey rfl
      exact hfresh _ hid (h.drawn key hkey)
    · rintro key hkey rfl
      exact hfresh _ hid (h.drawnFallback key hkey)
  have hdisjoint : ∀ m t, w.transactions m = some t →
      request.rowIds.Disjoint t.request.rowIds :=
    fun m t hm id hid hother => hfresh id hid ((h.reserved m t hm).2 id hother).1
  refine ⟨h.stamps, h.owned, h.ownedFallback, h.past, ?_,
    fun key hkey => List.mem_append_right _ (h.drawn key hkey),
    fun key hkey => List.mem_append_right _ (h.drawnFallback key hkey), ?_, h.sessions, ?_, ?_⟩
  · intro m t hm
    rcases Function.update_eq_some.mp hm with ⟨-, hx⟩ | ⟨-, hm⟩
    · cases hx
      exact ⟨hnodup, fun id hid => ⟨List.mem_append_left _ hid, hnew id hid⟩⟩
    · refine ⟨(h.reserved m t hm).1, fun id hid => ?_⟩
      obtain ⟨hdrawn, hrest⟩ := (h.reserved m t hm).2 id hid
      exact ⟨List.mem_append_right _ hdrawn, hrest⟩
  · intro m k t other hm hk hne
    rcases Function.update_eq_some.mp hm with ⟨hmn, hx⟩ | ⟨-, hm⟩ <;>
      rcases Function.update_eq_some.mp hk with ⟨hkn, hx'⟩ | ⟨-, hk⟩
    · exact absurd (hmn.trans hkn.symm) hne
    · cases hx
      exact hdisjoint k other hk
    · cases hx'
      exact (hdisjoint m t hm).symm
    · exact h.apart m k t other hm hk hne
  · intro m k t other userId hm hk ht ho
    rcases Function.update_eq_some.mp hm with ⟨-, hx⟩ | ⟨-, hm⟩
    · cases hx
      cases ht
    · rcases Function.update_eq_some.mp hk with ⟨-, hx⟩ | ⟨-, hk⟩
      · cases hx
        cases ho
      · exact h.locks m k t other userId hm hk ht ho
  · intro m t hm
    rcases Function.update_eq_some.mp hm with ⟨-, hx⟩ | ⟨-, hm⟩
    · cases hx
      exact ⟨by simp, by simp, by simp, by simp, by simp, by simp⟩
    · exact h.transactions m t hm

/-- A transaction goes on in its place with the locks it has. -/
theorem KeyClockInv.goesOn {w : KeyClockWorld} (h : KeyClockInv env w) {n : ℕ}
    {t t' : KeyTransaction} (hn : w.transactions n = some t) (hrequest : t'.request = t.request)
    (hlocked : t'.locked = t.locked) (htx : TxInv env w.db t') :
    KeyClockInv env { w with transactions := Function.update w.transactions n (some t') } := by
  refine h.set (fun _ hx => ?_) (fun _ hx m other userId hne hm hin ho => ?_) fun _ hx => ?_
  · cases hx
    exact ⟨t, hn, hrequest⟩
  · cases hx
    rw [hlocked] at hin
    exact hne (h.locks m n other t userId hm hn ho hin)
  · cases hx
    exact htx

/-- What is known of a transaction that is admitted. -/
theorem TxInv.admitted {db : Db} {t : KeyTransaction} (ht : TxInv env db t)
    (hscope : t.scope = none) {scope : ClaimScope} {users : List Uuid}
    (hadmission : t.request.admission env db.accounts db.clock = .ok (scope, users)) :
    TxInv env db { t with scope := some scope, pending := users } := by
  have hnone : ¬ t.request.Related → t.now ≠ none → False := fun hrelated hread => by
    simpa [hscope] using (ht.late hrelated (Option.isSome_iff_ne_none.mpr hread)).1
  refine ⟨ht.reading, ?_, ?_, ?_, ?_, ?_⟩
  · exact fun hrelated hread => (hnone hrelated (Option.isSome_iff_ne_none.mp hread)).elim
  · rintro _ ⟨⟩
    exact .inl (mem_of_admission hadmission)
  · rintro hrelated _ ⟨⟩
    exact target_of_admission hrelated hadmission
  · intro principal new hrequest
    refine ⟨?_, (ht.own principal new hrequest).2⟩
    have hrequest : t.request = .upload principal new := hrequest
    rw [hrequest] at hadmission
    rintro _ ⟨⟩
    cases hadmission
    rfl
  · intro now userId hnow hclaims
    by_cases hrelated : t.request.Related
    · refine ht.fresh now userId hnow ?_
      have hrelated' : KeyRequest.Related
          ({ t with scope := some scope, pending := users } : KeyTransaction).request := hrelated
      exact (KeyTransaction.claims_of_related hrelated).mpr
        ((KeyTransaction.claims_of_related hrelated').mp hclaims)
    · exact (hnone hrelated (by rw [hnow]; simp)).elim

/-- What is known of a transaction that takes its next lock. -/
theorem TxInv.locking {db : Db} {t : KeyTransaction} (ht : TxInv env db t) {userId : Uuid}
    {rest : List Uuid} (hpending : t.pending = userId :: rest) :
    TxInv env db { t with pending := rest, locked := userId :: t.locked } := by
  refine ⟨ht.reading, ?_, ?_, ht.named, ht.own, ht.fresh⟩
  · intro hrelated hread
    rw [(ht.late hrelated hread).2] at hpending
    cases hpending
  · intro scope hscope
    have hin := ht.within scope hscope
    rw [hpending] at hin
    rcases hin with hin | hin
    · rcases List.mem_cons.mp hin with rfl | hin
      · exact .inr List.mem_cons_self
      · exact .inl hin
    · exact .inr (List.mem_cons_of_mem _ hin)

/-- A transaction takes a lock that nobody has. -/
theorem KeyClockInv.lock {w : KeyClockWorld} (h : KeyClockInv env w) {n : ℕ} {t : KeyTransaction}
    {userId : Uuid} {rest : List Uuid} (hn : w.transactions n = some t)
    (hpending : t.pending = userId :: rest)
    (hfree : ∀ m other, w.transactions m = some other → userId ∉ other.locked) :
    KeyClockInv env { w with
      transactions := Function.update w.transactions n
        (some { t with pending := rest, locked := userId :: t.locked }) } := by
  refine h.set (fun _ hx => ?_) (fun _ hx m other locked hne hm hin ho => ?_) fun _ hx => ?_
  · cases hx
    exact ⟨t, hn, rfl⟩
  · cases hx
    rcases List.mem_cons.mp hin with rfl | hin
    · exact hfree m other hm ho
    · exact hne (h.locks m n other t locked hm hn ho hin)
  · cases hx
    exact (h.transactions n t hn).locking hpending

/-- The accounts change, and the devices of the directory stay. -/
theorem KeyClockInv.changeAccounts {w : KeyClockWorld} (h : KeyClockInv env w) {accounts : Accounts}
    (hkept : ∀ row ∈ w.db.accounts.deviceKeys, row ∈ accounts.deviceKeys)
    (hsessions : accounts.SessionsOwnDevices) :
    KeyClockInv env { w with db := { w.db with accounts } } := by
  refine ⟨h.stamps, ?_, ?_, h.past, h.reserved, h.drawn, h.drawnFallback, h.apart, hsessions,
    h.locks, fun m t hm => (h.transactions m t hm).mono le_rfl hkept fun _ _ _ _ =>
      h.upTo_kept hkept⟩
  · intro key hkey
    obtain ⟨userId, howner⟩ := Option.isSome_iff_exists.mp (h.owned key hkey)
    exact Option.isSome_iff_exists.mpr ⟨userId, Accounts.owner_of_kept hkept howner⟩
  · intro key hkey
    obtain ⟨userId, howner⟩ := Option.isSome_iff_exists.mp (h.ownedFallback key hkey)
    exact Option.isSome_iff_exists.mpr ⟨userId, Accounts.owner_of_kept hkept howner⟩

/-- **One step** that makes no related claim wait too long. -/
theorem KeyClockInv.step {w w' : KeyClockWorld} {action : KeyClockAction}
    (h : KeyClockInv env w) (hstep : KeyClockStep env w action w')
    (hwait : NoneWaiting env w action) : KeyClockInv env w' := by
  cases hstep with
  | begin hn hnodup hfresh => exact h.begin hnodup hfresh
  | readClock hn hread hwhen hsession => exact h.goesOn hn rfl rfl (.read h hn hwhen hsession)
  | admission hn hscope hread hadmission =>
    exact h.goesOn hn rfl rfl ((h.transactions _ _ hn).admitted hscope hadmission)
  | lock hn hpending hfree => exact h.lock hn hpending hfree
  | @commit n now t scope db' hn hnow hscope hpending happly hchecks =>
    cases hrequest : t.request with
    | upload principal new =>
      exact h.commitUpload hn hrequest hnow hscope hpending hwait (hrequest ▸ happly)
    | claim claim =>
      exact h.commitClaim hn hrequest hnow hscope hpending hwait (hrequest ▸ happly)
  | reject => exact h.set (by simp) (by simp) (by simp)
  | abort => exact h.set (by simp) (by simp) (by simp)
  | changeAccounts hkept hsessions => exact h.changeAccounts hkept hsessions
  | tick hclock =>
    exact ⟨h.stamps, h.owned, h.ownedFallback,
      h.past.of_imp hclock (fun _ _ => id) (fun _ _ => id), h.reserved, h.drawn, h.drawnFallback,
      h.apart, h.sessions, h.locks, fun m t hm =>
        (h.transactions m t hm).mono hclock (fun _ hrow => hrow) fun _ _ _ _ => id⟩

theorem keyClockInv_of_initial {w : KeyClockWorld} (h : KeyClockInitial w) :
    KeyClockInv env w := by
  obtain ⟨⟨clock, accounts, lists, queue, keys⟩, transactions, drawn⟩ := w
  obtain ⟨rfl, rfl, hsessions⟩ := h
  exact ⟨⟨by simp, by simp, by simp, by simp, by simp⟩, by simp, by simp,
    ⟨by simp, by simp, by simp⟩, by simp, by simp, by simp, by simp, hsessions, by simp, by simp⟩

/-- The invariant along runs in which no related claim waits too long. -/
theorem keyClockInv {trace : List KeyClockAction} {w : KeyClockWorld}
    (h : ((keyClock env).guarded (NoneWaiting env)).Run trace w) : KeyClockInv env w :=
  h.stateInvariant (fun _ => keyClockInv_of_initial) fun _ _ _ hinv hstep =>
    hinv.step hstep.1 hstep.2

/-- **A claim in time is not rejected.** -/
theorem KeyClockInv.not_rejected {w w' : KeyClockWorld} (h : KeyClockInv env w) {n : ℕ}
    (hstep : KeyClockStep env w (.rejected n) w') : False := by
  cases hstep with
  | reject hn hnow hscope hpending happly hrejected =>
    rename_i now t scope db'
    have ht := h.transactions n t hn
    cases hrequest : t.request with
    | upload =>
      rw [hrequest] at hrejected
      exact hrejected
    | claim claim =>
      have hupTo := ht.fresh now scope.userId hnow (ht.claims_scope hrequest hscope)
      rw [hrequest] at happly hrejected
      obtain ⟨claimRequests, targets, htargets, rfl⟩ := apply_claim happly
      have hstamps : StampInv { w.db.keys with claimRequests } :=
        ⟨h.stamps.ids, h.stamps.fallbackIds, h.stamps.slots, h.stamps.claimed,
          h.stamps.firstClaimed⟩
      have hchecks : clockChecks w.db.clock w.db.keys (KeyStore.takeFor
          { w.db.keys with claimRequests } claim.call.rowId now targets) = true :=
        takeFor_checks hstamps rfl htargets
          ⟨hupTo.oneTimeKeys, hupTo.fallbackKeys, hupTo.firstClaimed⟩ (ht.reading now hnow)
      exact Bool.false_ne_true (hrejected.symm.trans hchecks)

/-! ## Scripts -/

/-- A world with the numbers its transactions are among. -/
structure KeyClockScene where
  world : KeyClockWorld
  running : List ℕ
  covers : ∀ m, m ∉ running → world.transactions m = none

/-- The machine on scenes. -/
def keyClockScenes (env : Deployment) : Machine KeyClockScene KeyClockAction where
  init s := KeyClockInitial s.world
  step s action s' := KeyClockStep env s.world action s'.world

/-- A run of scenes is one of their worlds. -/
theorem run_of_scenes {trace : List KeyClockAction} {s : KeyClockScene}
    (h : (keyClockScenes env).Run trace s) : (keyClock env).Run trace s.world := by
  simpa using h.map (N := keyClock env) KeyClockScene.world some (fun _ => id) fun _ _ _ => id

theorem guarded_of_scenes {trace : List KeyClockAction} {s : KeyClockScene}
    (h : ((keyClockScenes env).guarded fun s => NoneWaiting env s.world).Run trace s) :
    ((keyClock env).guarded (NoneWaiting env)).Run trace s.world := by
  simpa using h.map (N := (keyClock env).guarded (NoneWaiting env)) KeyClockScene.world some
    (fun _ => id) fun _ _ _ => id

/-- No related claim waits among the transactions of a scene. -/
def KeyClockScene.noneWaiting (env : Deployment) (s : KeyClockScene) : KeyClockAction → Bool
  | .committed n => s.running.all fun m =>
    (s.world.transactions n).all fun t => t.scope.all fun scope =>
      (s.world.transactions m).all fun other =>
        !(other.request.Related && other.now.isSome &&
          other.request.target env.matrixServerName = some scope.userId) ||
          other.locked.contains scope.userId
  | _ => true

theorem KeyClockScene.noneWaiting_of_eq {s : KeyClockScene} {action : KeyClockAction}
    (h : s.noneWaiting env action = true) : NoneWaiting env s.world action := by
  unfold NoneWaiting
  split
  · intro t scope hn hscope m other hm hrelated hnow htarget
    have hin : m ∈ s.running := by
      by_contra hout
      simp [s.covers m hout] at hm
    obtain ⟨now, hnow⟩ := Option.isSome_iff_exists.mp hnow
    simpa [hn, hscope, hm, hrelated, hnow, htarget] using List.all_eq_true.mp h m hin
  · trivial

/-- A transaction in its place. -/
def KeyClockScene.put (s : KeyClockScene) (n : ℕ) (db : Db) (x : Option KeyTransaction)
    (drawn : List Uuid) : KeyClockScene where
  world := ⟨db, Function.update s.world.transactions n x, drawn⟩
  running := n :: s.running
  covers m hm := by
    rw [List.mem_cons, not_or] at hm
    exact (Function.update_of_ne hm.1 _ _).trans (s.covers m hm.2)

/-- A command of a script. -/
inductive KeyClockCommand where
  | begin (n : ℕ) (request : KeyRequest)
  | readClock (n : ℕ)
  | admission (n : ℕ)
  | lock (n : ℕ)
  | finish (n : ℕ)
  | tick (clock : ℕ)

/-- Carry out a command; a transaction that is done commits or is rejected. -/
def KeyClockCommand.exec (env : Deployment) (s : KeyClockScene) :
    KeyClockCommand → Option (KeyClockAction × KeyClockScene)
  | begin n request =>
    if s.world.transactions n = none ∧ request.rowIds.Nodup ∧
        ∀ id ∈ request.rowIds, id ∉ s.world.drawn then
      some (.begun n request, s.put n s.world.db (some ⟨request, none, none, [], []⟩)
        (request.rowIds ++ s.world.drawn))
    else none
  | readClock n =>
    (s.world.transactions n).bind fun t =>
      if t.now = none ∧
          (if t.request.Related then t.scope = none else t.scope.isSome ∧ t.pending = []) then
        match t.request.checkSession s.world.db.accounts s.world.db.clock with
        | .ok () => some (.clockRead n, s.put n s.world.db
            (some { t with now := some s.world.db.clock }) s.world.drawn)
        | .error _ => none
      else none
  | admission n =>
    (s.world.transactions n).bind fun t =>
      if t.scope = none ∧ (t.request.Related → t.now.isSome) then
        match t.request.admission env s.world.db.accounts s.world.db.clock with
        | .ok (scope, users) => some (.admitted n, s.put n s.world.db
            (some { t with scope := some scope, pending := users }) s.world.drawn)
        | .error _ => none
      else none
  | lock n =>
    (s.world.transactions n).bind fun t =>
      match t.pending with
      | [] => none
      | userId :: rest =>
        if ∀ m ∈ s.running, (s.world.transactions m).all fun other => userId ∉ other.locked then
          some (.locked n userId, s.put n s.world.db
            (some { t with pending := rest, locked := userId :: t.locked }) s.world.drawn)
        else none
  | finish n =>
    (s.world.transactions n).bind fun t =>
      match t.now, t.scope, t.pending with
      | some now, some scope, [] =>
        match t.request.apply env scope now s.world.db with
        | .ok db' =>
          if t.request.Rejected s.world.db.clock s.world.db.keys db'.keys then
            some (.rejected n, s.put n s.world.db none s.world.drawn)
          else some (.committed n, s.put n db' none s.world.drawn)
        | .error _ => none
      | _, _, _ => none
  | tick clock =>
    if s.world.db.clock ≤ clock then
      some (.ticked, ⟨⟨{ s.world.db with clock }, s.world.transactions, s.world.drawn⟩, s.running,
        s.covers⟩)
    else none

theorem KeyClockCommand.exec_step (command : KeyClockCommand) (s : KeyClockScene)
    (action : KeyClockAction) (s' : KeyClockScene) (h : command.exec env s = some (action, s')) :
    (keyClockScenes env).step s action s' := by
  cases command with
  | begin n request =>
    simp only [exec] at h
    split_ifs at h with hcond
    cases h
    exact .begin hcond.1 hcond.2.1 hcond.2.2
  | readClock n =>
    obtain ⟨t, hn, h⟩ := Option.bind_eq_some_iff.mp h
    obtain ⟨hcond, h⟩ := Option.ite_none_right_eq_some.mp h
    split at h <;> cases h
    exact .readClock hn hcond.1 hcond.2 ‹_›
  | admission n =>
    obtain ⟨t, hn, h⟩ := Option.bind_eq_some_iff.mp h
    obtain ⟨hcond, h⟩ := Option.ite_none_right_eq_some.mp h
    split at h <;> cases h
    exact .admission hn hcond.1 hcond.2 ‹_›
  | lock n =>
    obtain ⟨t, hn, h⟩ := Option.bind_eq_some_iff.mp h
    split at h
    · cases h
    · split_ifs at h with hfree
      cases h
      refine .lock hn ‹_› fun m other hm => ?_
      have hin : m ∈ s.running := by
        by_contra hout
        simp [s.covers m hout] at hm
      simpa [hm] using hfree m hin
  | finish n =>
    obtain ⟨t, hn, h⟩ := Option.bind_eq_some_iff.mp h
    split at h
    · split at h
      · split_ifs at h with hrejected <;> cases h
        · exact .reject hn ‹_› ‹_› ‹_› ‹_› hrejected
        · exact .commit hn ‹_› ‹_› ‹_› ‹_› hrejected
      · cases h
    · cases h
  | tick clock =>
    simp only [exec] at h
    split_ifs at h with hle
    cases h
    exact .tick hle

/-- Carry out a command whose action leaves no related claim waiting. -/
def KeyClockCommand.execGuarded (env : Deployment) (s : KeyClockScene) (command : KeyClockCommand) :
    Option (KeyClockAction × KeyClockScene) :=
  (command.exec env s).filter fun result => s.noneWaiting env result.1

theorem KeyClockCommand.execGuarded_step (command : KeyClockCommand) (s : KeyClockScene)
    (action : KeyClockAction) (s' : KeyClockScene)
    (h : command.execGuarded env s = some (action, s')) :
    ((keyClockScenes env).guarded fun s => NoneWaiting env s.world).step s action s' := by
  obtain ⟨hexec, hnone⟩ := Option.filter_eq_some_iff.mp h
  exact ⟨command.exec_step s action s' hexec, KeyClockScene.noneWaiting_of_eq hnone⟩

namespace Sample

/-- The key directory before the first upload. -/
def keyClockScene : KeyClockScene where
  world := ⟨world.db, fun _ => none, []⟩
  running := []
  covers := fun _ _ => rfl

theorem keyClockScene_initial : (keyClockScenes deployment).init keyClockScene :=
  ⟨rfl, rfl, show ∀ session ∈ accounts.sessions.rows, ∀ row ∈ accounts.deviceKeys.rows,
    session.deviceId = some row.deviceId → row.userId = session.userId by decide +kernel⟩

/-- The client uploads a key. -/
def uploadKey (n : ℕ) : List KeyClockCommand :=
  [.begin n (.upload client (upload (uuidOf 0x0f000000000040008000000000000001))), .admission n,
    .lock n, .readClock n, .finish n]

/-- The cashier's claim of a key of the client, by their relationship. -/
def relatedClaim : KeyRequest :=
  .claim (.related ⟨cashier, [0x63], keysClaim, uuidOf 0x0f000000000040008000000000000002, 1000,
    1000⟩)

/-- The cashier claims it, once it is there. -/
def uploadThenClaim : List KeyClockCommand :=
  uploadKey 1 ++ [.begin 2 relatedClaim, .readClock 2, .admission 2, .lock 2, .lock 2, .finish 2]

/-- The cashier's related claim reads the clock before the upload. -/
def claimAroundUpload : List KeyClockCommand :=
  [.begin 2 relatedClaim, .readClock 2, .tick 2000] ++ uploadKey 1 ++
    [.admission 2, .lock 2, .lock 2, .finish 2]

end Sample

/-! ## The law of the readings -/

/-- **No claim is late.** In every run in which a transaction commits on the
keys of a user only while no related claim for this user has read the clock
and waits for the user's device set, the database rejects no claim for its
times. -/
theorem claims_never_late {trace : List KeyClockAction} {w : KeyClockWorld}
    (h : ((keyClock env).guarded (NoneWaiting env)).Run trace w) (n : ℕ) :
    .rejected n ∉ trace := by
  intro hmem
  obtain ⟨later, earlier, before, after, -, hrun, hstep, -⟩ := h.of_mem hmem
  exact (keyClockInv hrun).not_rejected hstep.1

/-- The commit of a transaction. -/
def KeyClockAction.commits (k : ℕ) : KeyClockAction → Bool
  | .committed n => n == k
  | _ => false

/-- The refusal of a transaction at its commit. -/
def KeyClockAction.rejects (k : ℕ) : KeyClockAction → Bool
  | .rejected n => n == k
  | _ => false

/-- The beginning of a related claim. -/
def KeyClockAction.beginsRelated (k : ℕ) : KeyClockAction → Bool
  | .begun n request => n == k && decide request.Related
  | _ => false

/-- A related claim commits behind an upload. -/
theorem claims_never_late_claimed : ∃ trace w request, request.Related ∧
    .begun 2 request ∈ trace ∧ .committed 2 ∈ trace ∧
      ((keyClock Sample.deployment).guarded (NoneWaiting Sample.deployment)).Run trace w ∧
        ∀ n, .rejected n ∉ trace := by
  obtain ⟨trace, s, hrun, hcheck⟩ := Machine.exists_run_of_perform
    (M := (keyClockScenes Sample.deployment).guarded fun s => NoneWaiting Sample.deployment s.world)
    KeyClockCommand.execGuarded_step Sample.keyClockScene_initial Sample.uploadThenClaim
    (fun trace _ => trace.any (KeyClockAction.commits 2) &&
      trace.any (KeyClockAction.beginsRelated 2)) (by decide +kernel)
  obtain ⟨hcommitted, hbegan⟩ := Bool.and_eq_true_iff.mp hcheck
  have hguarded := guarded_of_scenes hrun
  obtain ⟨began, hmem, hbegins⟩ := List.any_eq_true.mp hbegan
  unfold KeyClockAction.beginsRelated at hbegins
  split at hbegins
  · rename_i request
    obtain ⟨hnumber, hrelated⟩ := Bool.and_eq_true_iff.mp hbegins
    rw [beq_iff_eq.mp hnumber] at hmem
    refine ⟨trace, s.world, request, of_decide_eq_true hrelated, hmem, ?_, hguarded,
      claims_never_late hguarded⟩
    obtain ⟨action, hmem, haction⟩ := List.any_eq_true.mp hcommitted
    unfold KeyClockAction.commits at haction
    split at haction
    · rwa [beq_iff_eq.mp haction] at hmem
    · cases haction
  · cases hbegins

/-- A key uploaded while a related claim waits fails the claim. -/
theorem related_claim_late : ¬ ∀ env : Deployment, ∀ trace w, (keyClock env).Run trace w →
    ∀ n, .rejected n ∉ trace := by
  intro hall
  obtain ⟨trace, s, hrun, hcheck⟩ := Machine.exists_run_of_perform
    (M := keyClockScenes Sample.deployment) KeyClockCommand.exec_step
    Sample.keyClockScene_initial Sample.claimAroundUpload
    (fun trace _ => trace.any (KeyClockAction.rejects 2)) (by decide +kernel)
  obtain ⟨action, hmem, haction⟩ := List.any_eq_true.mp hcheck
  unfold KeyClockAction.rejects at haction
  split at haction
  · exact hall Sample.deployment trace s.world (run_of_scenes hrun) _ hmem
  · cases haction

end SinoChat
