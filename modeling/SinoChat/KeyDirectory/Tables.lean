import SinoChat.ToDevice.Log

/-!
# The key tables, row by row

Uploads and claims touch the key tables in a few ways only (`KeyMove`): they
add an unclaimed one-time key, add a fallback key, move a slot, record a
request, or record one result with the key it takes. What the tables keep
(`KeysInv`) and what never changes in them (`Keeps`) is checked against
these moves; a request is a sequence of them.
-/

namespace SinoChat

open Js

variable {env : Deployment}

/-! ## Names -/

/-- What the tables know a one-time key by, next to its row id. -/
def MatrixOneTimeKey.name (key : MatrixOneTimeKey) : Uuid × JsString := (key.deviceId, key.keyId)

/-- A one-time key without its claim mark. -/
def MatrixOneTimeKey.content (key : MatrixOneTimeKey) : MatrixOneTimeKey :=
  { key with claimedAt := none }

/-- A fallback key without the mark of its first claim. -/
def MatrixFallbackKey.content (key : MatrixFallbackKey) : MatrixFallbackKey :=
  { key with firstClaimedAt := none }

@[simp] theorem content_markClaimed (id : Uuid) (now : ℕ) (key : MatrixOneTimeKey) :
    (markClaimed id now key).content = key.content := by
  unfold markClaimed
  split <;> rfl

@[simp] theorem content_markFirstClaimed (id : Uuid) (now : ℕ) (key : MatrixFallbackKey) :
    (markFirstClaimed id now key).content = key.content := by
  unfold markFirstClaimed
  split <;> rfl

/-- What is read off the content, a mark does not change. -/
theorem read_markFirstClaimed {α : Type} (f : MatrixFallbackKey → α)
    (hf : ∀ key, f key = f key.content) (id : Uuid) (now : ℕ) (key : MatrixFallbackKey) :
    f (markFirstClaimed id now key) = f key := by
  rw [hf, content_markFirstClaimed, ← hf]

theorem read_markClaimed {α : Type} (f : MatrixOneTimeKey → α)
    (hf : ∀ key, f key = f key.content) (id : Uuid) (now : ℕ) (key : MatrixOneTimeKey) :
    f (markClaimed id now key) = f key := by
  rw [hf, content_markClaimed, ← hf]

theorem map_markClaimed {α : Type} (f : MatrixOneTimeKey → α)
    (hf : ∀ key, f key = f key.content) (id : Uuid) (now : ℕ) (rows : List MatrixOneTimeKey) :
    (rows.map (markClaimed id now)).map f = rows.map f := by
  rw [List.map_map]
  exact List.map_congr_left fun key _ => read_markClaimed f hf id now key

theorem map_markFirstClaimed {α : Type} (f : MatrixFallbackKey → α)
    (hf : ∀ key, f key = f key.content) (id : Uuid) (now : ℕ) (rows : List MatrixFallbackKey) :
    (rows.map (markFirstClaimed id now)).map f = rows.map f := by
  rw [List.map_map]
  exact List.map_congr_left fun key _ => read_markFirstClaimed f hf id now key

theorem mem_unclaimed {keys : KeyStore} {deviceId : Uuid} {key : MatrixOneTimeKey} :
    key ∈ keys.unclaimed deviceId ↔
      key ∈ keys.oneTimeKeys ∧ key.deviceId = deviceId ∧ key.claimedAt = none := by
  simp [KeyStore.unclaimed, List.mem_filter]

theorem oldestUnclaimed_eq_some {keys : KeyStore} {deviceId : Uuid} {key : MatrixOneTimeKey}
    (h : keys.oldestUnclaimed deviceId = some key) :
    key ∈ keys.unclaimed deviceId ∧
      ∀ other ∈ keys.unclaimed deviceId, handOutOrder key ≤ handOutOrder other := by
  refine ⟨List.mem_sortBy.mp (List.mem_of_mem_head? h), fun other hother => ?_⟩
  exact List.head_sortBy_le h hother

theorem oldestUnclaimed_eq_none {keys : KeyStore} {deviceId : Uuid}
    (h : keys.oldestUnclaimed deviceId = none) : keys.unclaimed deviceId = [] := by
  rw [KeyStore.oldestUnclaimed, List.head?_eq_none_iff] at h
  exact List.eq_nil_of_length_eq_zero (by rw [← @List.length_sortBy _ _ _ handOutOrder, h]; rfl)

/-- The older of two keys in the order of handing out was uploaded earlier. -/
theorem uploadedAt_le_of_handOutOrder {a b : MatrixOneTimeKey}
    (h : handOutOrder a ≤ handOutOrder b) : a.uploadedAt ≤ b.uploadedAt := by
  rcases (Prod.Lex.le_iff.mp h) with hlt | ⟨heq, -⟩
  · exact le_of_lt hlt
  · exact le_of_eq heq

/-- No row of either table holds a Curve25519 key. -/
theorem curveKeyUsed_eq_false {keys : KeyStore} {key : JsString} :
    keys.curveKeyUsed key = false ↔ (∀ row ∈ keys.oneTimeKeys, row.curve25519Key ≠ key) ∧
      ∀ row ∈ keys.fallbackKeys, row.curve25519Key ≠ key := by
  simp [KeyStore.curveKeyUsed, List.any_eq_false]

/-! ## Moves -/

/-- A row that may be added to the one-time keys: unclaimed, of an id, a name
and a Curve25519 key no row has, and not older than the rows there. -/
structure Addable (keys : KeyStore) (row : MatrixOneTimeKey) : Prop where
  unclaimed : row.claimedAt = none
  id : ∀ key ∈ keys.oneTimeKeys, key.id ≠ row.id
  name : ∀ key ∈ keys.oneTimeKeys, key.name ≠ row.name
  order : ∀ key ∈ keys.oneTimeKeys, key.uploadedAt ≤ row.uploadedAt
  curve : keys.curveKeyUsed row.curve25519Key = false

/-- **What happens to the key tables**, one row at a time. -/
inductive KeyMove : KeyStore → KeyStore → Prop
  | oneTimeKey {keys : KeyStore} {row : MatrixOneTimeKey} : Addable keys row →
      KeyMove keys { keys with oneTimeKeys := keys.oneTimeKeys ++ [row] }
  | fallbackKey {keys : KeyStore} {row : MatrixFallbackKey} :
      keys.curveKeyUsed row.curve25519Key = false →
      KeyMove keys { keys with fallbackKeys := keys.fallbackKeys ++ [row] }
  | slot {keys : KeyStore} {slots : Uuid → Option Uuid} : KeyMove keys { keys with slots }
  | request {keys : KeyStore} {request : MatrixKeyClaimRequest} :
      KeyMove keys { keys with claimRequests := keys.claimRequests ++ [request] }
  | result {keys : KeyStore} {claimRequestId recipientDeviceId : Uuid} {now : ℕ} :
      claimRequestId ∈ keys.claimRequests.map MatrixKeyClaimRequest.id →
      KeyMove keys (claimRecipientKey claimRequestId recipientDeviceId now keys)

/-- A sequence of moves. -/
abbrev KeyMoves : KeyStore → KeyStore → Prop := Relation.ReflTransGen KeyMove

/-! ## What the tables keep -/

/-- The rows of the key tables fit together: ids, names and Curve25519 keys
are unique, a one-time key is marked exactly when it is the result of a
claim, no key is a result twice, and of the keys of one device those claimed
are older than those that are not. -/
structure KeysInv (keys : KeyStore) : Prop where
  ids : (keys.oneTimeKeys.map MatrixOneTimeKey.id).Nodup
  names : (keys.oneTimeKeys.map MatrixOneTimeKey.name).Nodup
  curves : (keys.oneTimeKeys.map MatrixOneTimeKey.curve25519Key).Nodup
  apart : ∀ key ∈ keys.oneTimeKeys, ∀ fallback ∈ keys.fallbackKeys,
    fallback.curve25519Key ≠ key.curve25519Key
  marked : ∀ key ∈ keys.oneTimeKeys, key.claimedAt.isSome = true ↔
    some key.id ∈ keys.claimResults.map MatrixKeyClaimResult.oneTimeKeyId
  once : (keys.claimResults.filterMap MatrixKeyClaimResult.oneTimeKeyId).Nodup
  recorded : ∀ result ∈ keys.claimResults, ∀ id, result.oneTimeKeyId = some id →
    ∃ key ∈ keys.oneTimeKeys, key.id = id ∧ key.deviceId = result.recipientDeviceId
  fallback : ∀ result ∈ keys.claimResults, ∀ id, result.fallbackKeyId = some id →
    ∃ key ∈ keys.fallbackKeys, key.id = id
  requests : ∀ result ∈ keys.claimResults,
    result.claimRequestId ∈ keys.claimRequests.map MatrixKeyClaimRequest.id
  older : ∀ key ∈ keys.oneTimeKeys, ∀ other ∈ keys.oneTimeKeys, key.deviceId = other.deviceId →
    key.claimedAt.isSome = true → other.claimedAt = none → key.uploadedAt ≤ other.uploadedAt
  oldestFirst : keys.claimResults.Pairwise fun first second =>
    first.recipientDeviceId = second.recipientDeviceId →
    ∀ key ∈ keys.oneTimeKeys, ∀ other ∈ keys.oneTimeKeys, first.oneTimeKeyId = some key.id →
      second.oneTimeKeyId = some other.id → key.uploadedAt ≤ other.uploadedAt

theorem KeysInv.empty : KeysInv ⟨[], [], fun _ => none, [], []⟩ := by
  constructor <;> simp

/-- An id names one row. -/
theorem KeysInv.eq_of_id {keys : KeyStore} (h : KeysInv keys) {a b : MatrixOneTimeKey}
    (ha : a ∈ keys.oneTimeKeys) (hb : b ∈ keys.oneTimeKeys) (hid : a.id = b.id) : a = b :=
  List.inj_on_of_nodup_map h.ids ha hb hid

/-- A new key joins the tables. -/
theorem KeysInv.add {keys : KeyStore} (h : KeysInv keys) {row : MatrixOneTimeKey}
    (hrow : Addable keys row) :
    KeysInv { keys with oneTimeKeys := keys.oneTimeKeys ++ [row] } := by
  have hnew : ∀ {α : Type} (f : MatrixOneTimeKey → α), (keys.oneTimeKeys.map f).Nodup →
      (∀ key ∈ keys.oneTimeKeys, f key ≠ f row) →
      ((keys.oneTimeKeys ++ [row]).map f).Nodup := by
    intro α f hold hne
    rw [List.map_append, List.map_singleton, List.nodup_append]
    refine ⟨hold, List.nodup_singleton _, ?_⟩
    intro a ha b hb
    obtain ⟨key, hkey, rfl⟩ := List.mem_map.mp ha
    rw [List.mem_singleton.mp hb]
    exact hne key hkey
  -- the new row is the result of no claim, for results name rows that were there
  have hnone : ∀ result ∈ keys.claimResults, result.oneTimeKeyId ≠ some row.id := by
    intro result hresult hid
    obtain ⟨key, hkey, heq, -⟩ := h.recorded result hresult _ hid
    exact hrow.id key hkey heq
  obtain ⟨hcurve, hcurve'⟩ := curveKeyUsed_eq_false.mp hrow.curve
  have hcases : ∀ {key}, key ∈ keys.oneTimeKeys ++ [row] → key ∈ keys.oneTimeKeys ∨ key = row := by
    simp
  refine ⟨hnew _ h.ids hrow.id, hnew _ h.names hrow.name, hnew _ h.curves hcurve, ?_, ?_, h.once,
    ?_, h.fallback, h.requests, ?_, ?_⟩
  · intro key hkey
    rcases hcases hkey with hold | rfl
    · exact h.apart key hold
    · exact hcurve'
  · intro key hkey
    rcases hcases hkey with hold | rfl
    · exact h.marked key hold
    · simp only [hrow.unclaimed, Option.isSome_none, Bool.false_eq_true, false_iff, List.mem_map]
      rintro ⟨result, hresult, hid⟩
      exact hnone result hresult hid
  · intro result hresult id hid
    obtain ⟨key, hkey, hrest⟩ := h.recorded result hresult id hid
    exact ⟨key, List.mem_append_left _ hkey, hrest⟩
  · intro key hkey other hother hdevice hclaimed hunclaimed
    rcases hcases hkey with hold | rfl
    · rcases hcases hother with hold' | rfl
      · exact h.older key hold other hold' hdevice hclaimed hunclaimed
      · exact hrow.order key hold
    · simp [hrow.unclaimed] at hclaimed
  · refine h.oldestFirst.imp_of_mem ?_
    intro first second hfirst hsecond hordered hdevice key hkey other hother hid hid'
    rcases hcases hkey with hold | rfl
    · rcases hcases hother with hold' | rfl
      · exact hordered hdevice key hold other hold' hid hid'
      · exact absurd hid' (hnone second hsecond)
    · exact absurd hid (hnone first hfirst)

/-- The mark of a claim. -/
theorem mem_map_markClaimed {keys : KeyStore} (h : KeysInv keys) {taken : MatrixOneTimeKey}
    (htaken : taken ∈ keys.oneTimeKeys) {now : ℕ} {key : MatrixOneTimeKey} :
    key ∈ keys.oneTimeKeys.map (markClaimed taken.id now) ↔
      (key ∈ keys.oneTimeKeys ∧ key.id ≠ taken.id) ∨ key = { taken with claimedAt := some now } := by
  rw [List.mem_map]
  constructor
  · rintro ⟨row, hrow, rfl⟩
    by_cases hid : row.id = taken.id
    · obtain rfl := h.eq_of_id hrow htaken hid
      exact .inr (by simp [markClaimed])
    · exact .inl ⟨by simpa [markClaimed, hid] using hrow, by simp [markClaimed, hid]⟩
  · rintro (⟨hkey, hid⟩ | rfl)
    · exact ⟨key, hkey, by simp [markClaimed, hid]⟩
    · exact ⟨taken, htaken, by simp [markClaimed]⟩

/-- The oldest unclaimed key of a device becomes the result of a claim. -/
theorem KeysInv.take {keys : KeyStore} (h : KeysInv keys) {claimRequestId recipientDeviceId : Uuid}
    (hrequest : claimRequestId ∈ keys.claimRequests.map MatrixKeyClaimRequest.id) {now : ℕ}
    {taken : MatrixOneTimeKey} (htaken : keys.oldestUnclaimed recipientDeviceId = some taken) :
    KeysInv { keys with
      oneTimeKeys := keys.oneTimeKeys.map (markClaimed taken.id now)
      claimResults := keys.claimResults ++
        [⟨claimRequestId, recipientDeviceId, some taken.id, none, now⟩] } := by
  obtain ⟨hmem, holdest⟩ := oldestUnclaimed_eq_some htaken
  obtain ⟨hrow, hdevice, hunclaimed⟩ := mem_unclaimed.mp hmem
  have hnew : ∀ result ∈ keys.claimResults, result.oneTimeKeyId ≠ some taken.id := by
    intro result hresult hid
    have hmarked := (h.marked taken hrow).mpr (List.mem_map.mpr ⟨result, hresult, hid⟩)
    simp [hunclaimed] at hmarked
  have hcases : ∀ {key}, key ∈ keys.oneTimeKeys.map (markClaimed taken.id now) →
      (key ∈ keys.oneTimeKeys ∧ key.id ≠ taken.id) ∨ key = { taken with claimedAt := some now } :=
    fun hkey => (mem_map_markClaimed h hrow).mp hkey
  -- an unclaimed key of the device is not older than the one taken
  have hle : ∀ key ∈ keys.oneTimeKeys, key.deviceId = recipientDeviceId → key.claimedAt = none →
      taken.uploadedAt ≤ key.uploadedAt := fun key hkey hd hc =>
    uploadedAt_le_of_handOutOrder (holdest key (mem_unclaimed.mpr ⟨hkey, hd, hc⟩))
  refine ⟨?_, ?_, ?_, ?_, ?_, ?_, ?_, ?_, ?_, ?_, ?_⟩
  · rw [map_markClaimed _ (fun _ => rfl)]
    exact h.ids
  · rw [map_markClaimed _ (fun _ => rfl)]
    exact h.names
  · rw [map_markClaimed _ (fun _ => rfl)]
    exact h.curves
  · intro key hkey
    rcases hcases hkey with ⟨hold, -⟩ | rfl
    · exact h.apart key hold
    · exact h.apart taken hrow
  · intro key hkey
    rw [List.map_append, List.mem_append]
    rcases hcases hkey with ⟨hold, hne⟩ | rfl
    · rw [h.marked key hold]
      simp [hne]
    · simp
  · rw [List.filterMap_append, List.nodup_append]
    refine ⟨h.once, by simp, ?_⟩
    intro id hid id' hid' heq
    obtain ⟨result, hresult, hr⟩ := List.mem_filterMap.mp hid
    simp only [List.filterMap_cons, List.filterMap_nil, List.mem_singleton] at hid'
    exact hnew result hresult (by rw [hr, heq, hid'])
  · intro result hresult id hid
    rcases List.mem_append.mp hresult with hold | hlast
    · obtain ⟨key, hkey, rfl, hd⟩ := h.recorded result hold id hid
      have hne : key.id ≠ taken.id := fun heq => hnew result hold (by rw [hid, heq])
      exact ⟨key, (mem_map_markClaimed h hrow).mpr (.inl ⟨hkey, hne⟩), rfl, hd⟩
    · rw [List.mem_singleton] at hlast
      subst hlast
      cases hid
      exact ⟨_, (mem_map_markClaimed h hrow).mpr (.inr rfl), rfl, hdevice⟩
  · intro result hresult id hid
    rcases List.mem_append.mp hresult with hold | hlast
    · exact h.fallback result hold id hid
    · rw [List.mem_singleton] at hlast
      subst hlast
      cases hid
  · intro result hresult
    rcases List.mem_append.mp hresult with hold | hlast
    · exact h.requests result hold
    · rw [List.mem_singleton] at hlast
      subst hlast
      exact hrequest
  · intro key hkey other hother hd hclaimed hunclaimed'
    rcases hcases hother with ⟨hold', -⟩ | rfl
    · rcases hcases hkey with ⟨hold, -⟩ | rfl
      · exact h.older key hold other hold' hd hclaimed hunclaimed'
      · exact hle other hold' (hd.symm.trans hdevice) hunclaimed'
    · cases hunclaimed'
  · rw [List.pairwise_append]
    refine ⟨?_, List.pairwise_singleton _ _, ?_⟩
    · refine h.oldestFirst.imp_of_mem ?_
      intro first second hfirst hsecond hordered hd key hkey other hother hid hid'
      rcases hcases hkey with ⟨hold, -⟩ | rfl
      · rcases hcases hother with ⟨hold', -⟩ | rfl
        · exact hordered hd key hold other hold' hid hid'
        · exact absurd hid' (hnew second hsecond)
      · exact absurd hid (hnew first hfirst)
    · intro first hfirst second hsecond hd key hkey other hother hid hid'
      rw [List.mem_singleton] at hsecond
      subst hsecond
      rcases hcases hkey with ⟨hold, -⟩ | rfl
      · rcases hcases hother with ⟨-, hne⟩ | rfl
        · exact absurd (Option.some.inj hid').symm hne
        · -- the earlier result is of a key claimed before, hence an older one
          have hclaimed := (h.marked key hold).mpr (List.mem_map.mpr ⟨first, hfirst, hid⟩)
          obtain ⟨row, hrow', heq, hd'⟩ := h.recorded first hfirst _ hid
          obtain rfl := h.eq_of_id hrow' hold heq
          exact h.older row hold taken hrow (hd'.trans (hd.trans hdevice.symm)) hclaimed hunclaimed
      · exact absurd hid (hnew first hfirst)

/-- A result without a one-time key. -/
theorem KeysInv.pass {keys : KeyStore} (h : KeysInv keys) {result : MatrixKeyClaimResult}
    (hrequest : result.claimRequestId ∈ keys.claimRequests.map MatrixKeyClaimRequest.id)
    (hnone : result.oneTimeKeyId = none)
    (hfallback : ∀ id, result.fallbackKeyId = some id → ∃ key ∈ keys.fallbackKeys, key.id = id) :
    KeysInv { keys with claimResults := keys.claimResults ++ [result] } := by
  have hcases : ∀ {other}, other ∈ keys.claimResults ++ [result] →
      other ∈ keys.claimResults ∨ other = result := by
    simp
  refine { h with marked := ?_, once := ?_, recorded := ?_, fallback := ?_, requests := ?_,
                  oldestFirst := ?_ }
  · intro key hkey
    rw [h.marked key hkey, List.map_append, List.mem_append]
    simp [hnone]
  · rw [List.filterMap_append]
    simpa [hnone] using h.once
  · intro other hother id hid
    rcases hcases hother with hold | rfl
    · exact h.recorded other hold id hid
    · simp [hnone] at hid
  · intro other hother id hid
    rcases hcases hother with hold | rfl
    · exact h.fallback other hold id hid
    · exact hfallback id hid
  · intro other hother
    rcases hcases hother with hold | rfl
    · exact h.requests other hold
    · exact hrequest
  · rw [List.pairwise_append]
    refine ⟨h.oldestFirst, List.pairwise_singleton _ _, ?_⟩
    intro first _ second hsecond _ key _ other _ _ hid'
    rw [List.mem_singleton] at hsecond
    subst hsecond
    simp [hnone] at hid'

/-- The fallback keys may be marked. -/
theorem KeysInv.markFallback {keys : KeyStore} (h : KeysInv keys) (id : Uuid) (now : ℕ) :
    KeysInv { keys with fallbackKeys := keys.fallbackKeys.map (markFirstClaimed id now) } := by
  refine { h with apart := ?_, fallback := ?_ }
  · intro key hkey fallback hmem
    obtain ⟨row, hrow, rfl⟩ := List.mem_map.mp hmem
    rw [read_markFirstClaimed MatrixFallbackKey.curve25519Key fun _ => rfl]
    exact h.apart key hkey row hrow
  · intro result hresult fallbackId hid
    obtain ⟨key, hkey, rfl⟩ := h.fallback result hresult fallbackId hid
    exact ⟨_, List.mem_map.mpr ⟨key, hkey, rfl⟩,
      read_markFirstClaimed MatrixFallbackKey.id (fun _ => rfl) id now key⟩

/-- **Every move keeps the tables in order.** -/
theorem KeysInv.move {before after : KeyStore} (h : KeysInv before) (hmove : KeyMove before after) :
    KeysInv after := by
  cases hmove with
  | oneTimeKey hrow => exact h.add hrow
  | @fallbackKey row hcurve =>
    refine { h with apart := ?_, fallback := ?_ }
    · intro key hkey fallback hmem
      rcases List.mem_append.mp hmem with hold | hlast
      · exact h.apart key hkey fallback hold
      · rw [List.mem_singleton] at hlast
        subst hlast
        exact ((curveKeyUsed_eq_false.mp hcurve).1 key hkey).symm
    · intro result hresult id hid
      obtain ⟨key, hkey, hrest⟩ := h.fallback result hresult id hid
      exact ⟨key, List.mem_append_left _ hkey, hrest⟩
  | slot => exact { h with }
  | request =>
    refine { h with requests := fun result hresult => ?_ }
    rw [List.map_append, List.mem_append]
    exact .inl (h.requests result hresult)
  | @result claimRequestId recipientDeviceId now hrequest =>
    unfold claimRecipientKey
    split
    · rename_i taken htaken
      exact h.take hrequest htaken
    · split
      · rename_i current hcurrent
        have hfallbacks := h.markFallback current.id now
        refine hfallbacks.pass hrequest rfl ?_
        intro id hid
        cases hid
        obtain ⟨slot, -, hfind⟩ := Option.bind_eq_some_iff.mp hcurrent
        exact ⟨_, List.mem_map.mpr ⟨current, List.mem_of_find?_eq_some hfind, rfl⟩,
          read_markFirstClaimed MatrixFallbackKey.id (fun _ => rfl) current.id now current⟩
      · exact h.pass hrequest rfl (by simp)

theorem KeysInv.moves {before after : KeyStore} (h : KeysInv before)
    (hmoves : KeyMoves before after) : KeysInv after := by
  induction hmoves with
  | refl => exact h
  | tail _ hmove ih => exact ih.move hmove

/-! ## What never changes -/

/-- The rows of the key tables stay, their contents unchanged, and so does
the mark of a claimed key. -/
structure Keeps (before after : KeyStore) : Prop where
  oneTimeKeys : before.oneTimeKeys.map MatrixOneTimeKey.content <+:
    after.oneTimeKeys.map MatrixOneTimeKey.content
  fallbackKeys : before.fallbackKeys.map MatrixFallbackKey.content <+:
    after.fallbackKeys.map MatrixFallbackKey.content
  claimed : ∀ key ∈ before.oneTimeKeys, key.claimedAt.isSome = true → key ∈ after.oneTimeKeys
  requests : before.claimRequests <+: after.claimRequests

theorem Keeps.refl (keys : KeyStore) : Keeps keys keys :=
  ⟨List.prefix_refl _, List.prefix_refl _, fun _ h _ => h, List.prefix_refl _⟩

theorem Keeps.trans {a b c : KeyStore} (h : Keeps a b) (h' : Keeps b c) : Keeps a c where
  oneTimeKeys := h.oneTimeKeys.trans h'.oneTimeKeys
  fallbackKeys := h.fallbackKeys.trans h'.fallbackKeys
  claimed := fun key hkey hclaimed => h'.claimed key (h.claimed key hkey hclaimed) hclaimed
  requests := h.requests.trans h'.requests

theorem KeyMove.keeps {before after : KeyStore} (h : KeyMove before after)
    (hinv : KeysInv before) : Keeps before after := by
  cases h with
  | @oneTimeKey row hrow =>
    refine { Keeps.refl before with oneTimeKeys := ?_, claimed := ?_ }
    · rw [List.map_append]
      exact List.prefix_append _ _
    · exact fun key hkey _ => List.mem_append_left _ hkey
  | fallbackKey =>
    refine { Keeps.refl before with fallbackKeys := ?_ }
    rw [List.map_append]
    exact List.prefix_append _ _
  | slot => exact { Keeps.refl before with }
  | request => exact { Keeps.refl before with requests := List.prefix_append _ _ }
  | @result claimRequestId recipientDeviceId now =>
    unfold claimRecipientKey
    split
    · rename_i taken htaken
      obtain ⟨hrow, -, hunclaimed⟩ := mem_unclaimed.mp (oldestUnclaimed_eq_some htaken).1
      refine { Keeps.refl before with oneTimeKeys := ?_, claimed := ?_ }
      · exact ⟨[], by rw [List.append_nil, map_markClaimed _ fun _ => rfl]⟩
      · intro key hkey hclaimed
        refine (mem_map_markClaimed hinv hrow).mpr (.inl ⟨hkey, ?_⟩)
        intro hid
        rw [hinv.eq_of_id hkey hrow hid, hunclaimed] at hclaimed
        cases hclaimed
    · split
      · refine { Keeps.refl before with fallbackKeys := ?_ }
        exact ⟨[], by rw [List.append_nil, map_markFirstClaimed _ fun _ => rfl]⟩
      · exact { Keeps.refl before with }

theorem KeyMoves.keeps {before after : KeyStore} (h : KeyMoves before after)
    (hinv : KeysInv before) : Keeps before after := by
  induction h with
  | refl => exact Keeps.refl _
  | tail hmoves hmove ih => exact ih.trans (hmove.keeps (hinv.moves hmoves))

/-! ## An upload -/

/-- What an upload does: moves that add rows of its ids, of the time it read,
and record no claim. -/
structure Uploaded (ids : List Uuid) (now : ℕ) (before after : KeyStore) : Prop where
  moves : KeyMoves before after
  rows : ∀ key ∈ after.oneTimeKeys,
    key ∈ before.oneTimeKeys ∨ (key.id ∈ ids ∧ key.uploadedAt = now)
  requests : after.claimRequests = before.claimRequests
  results : after.claimResults = before.claimResults

theorem insertOneTimeKeys_uploaded {crypto : Crypto} {deviceId : Uuid} {now : ℕ}
    {uploads : List UploadedKey} {keys keys' : KeyStore}
    (hnodup : (uploads.map UploadedKey.rowId).Nodup)
    (hfresh : ∀ key ∈ keys.oneTimeKeys, key.id ∉ uploads.map UploadedKey.rowId)
    (hclock : ∀ key ∈ keys.oneTimeKeys, key.uploadedAt ≤ now)
    (h : insertOneTimeKeys crypto deviceId now uploads keys = .ok keys') :
    Uploaded (uploads.map UploadedKey.rowId) now keys keys' := by
  induction uploads generalizing keys with
  | nil =>
    cases h
    exact ⟨.refl, fun key hkey => .inl hkey, rfl, rfl⟩
  | cons upload rest ih =>
    simp only [List.map_cons, List.nodup_cons, List.mem_cons, not_or] at hnodup hfresh
    unfold insertOneTimeKeys at h
    obtain ⟨keyId, -, h⟩ := bind_eq_ok.mp h
    obtain ⟨canonicalSha256, -, h⟩ := bind_eq_ok.mp h
    split at h
    · obtain ⟨_, -, h⟩ := bind_eq_ok.mp h
      obtain ⟨hmoves, hrows, hrequests, hresults⟩ :=
        ih hnodup.2 (fun key hkey => (hfresh key hkey).2) hclock h
      refine ⟨hmoves, fun key hkey => ?_, hrequests, hresults⟩
      exact (hrows key hkey).imp_right fun hnew => ⟨List.mem_cons_of_mem _ hnew.1, hnew.2⟩
    · rename_i hnone
      obtain ⟨_, hcurve, h⟩ := bind_eq_ok.mp h
      obtain ⟨_, -, h⟩ := bind_eq_ok.mp h
      let row : MatrixOneTimeKey :=
        ⟨upload.rowId, deviceId, keyId, upload.key, upload.signedKey, canonicalSha256, now, none⟩
      have hrow : Addable keys row :=
        { unclaimed := rfl
          id := fun key hkey => (hfresh key hkey).1
          name := by
            intro key hkey hname
            have := List.find?_eq_none.mp hnone key hkey
            simp only [decide_eq_true_eq] at this
            exact this ⟨congrArg Prod.fst hname, congrArg Prod.snd hname⟩
          order := hclock
          curve := by simpa using hcurve }
      have hmem : ∀ {key}, key ∈ keys.oneTimeKeys ++ [row] → key ∈ keys.oneTimeKeys ∨ key = row := by
        simp
      have hfresh' : ∀ key ∈ keys.oneTimeKeys ++ [row], key.id ∉ rest.map UploadedKey.rowId := by
        intro key hkey
        rcases hmem hkey with hold | rfl
        · exact (hfresh key hold).2
        · exact hnodup.1
      have hclock' : ∀ key ∈ keys.oneTimeKeys ++ [row], key.uploadedAt ≤ now := by
        intro key hkey
        rcases hmem hkey with hold | rfl
        · exact hclock key hold
        · exact le_rfl
      obtain ⟨hmoves, hrows, hrequests, hresults⟩ := ih hnodup.2 hfresh' hclock' h
      refine ⟨.head (.oneTimeKey hrow) hmoves, fun key hkey => ?_, hrequests, hresults⟩
      rcases hrows key hkey with hadded | ⟨hid, htime⟩
      · rcases hmem hadded with hold | rfl
        · exact .inl hold
        · exact .inr ⟨List.mem_cons_self, rfl⟩
      · exact .inr ⟨List.mem_cons_of_mem _ hid, htime⟩

theorem setSlot_eq_ok {keys keys' : KeyStore} {deviceId : Uuid} {fallback : MatrixFallbackKey}
    (h : keys.setSlot deviceId fallback = .ok keys') : ∃ slots, keys' = { keys with slots } := by
  unfold KeyStore.setSlot at h
  split at h
  · exact ⟨_, (Except.ok.inj h).symm⟩
  · split_ifs at h
    · exact ⟨keys.slots, (Except.ok.inj h).symm⟩
    · exact ⟨_, (Except.ok.inj h).symm⟩

theorem rotateFallbackKey_uploaded {crypto : Crypto} {deviceId : Uuid} {now : ℕ}
    {uploads : List UploadedKey} {keys keys' : KeyStore}
    (h : rotateFallbackKey crypto deviceId now uploads keys = .ok keys') :
    Uploaded [] now keys keys' := by
  unfold rotateFallbackKey at h
  split at h
  · cases h
    exact ⟨.refl, fun key hkey => .inl hkey, rfl, rfl⟩
  · obtain ⟨keyId, -, h⟩ := bind_eq_ok.mp h
    obtain ⟨canonicalSha256, -, h⟩ := bind_eq_ok.mp h
    split at h
    · obtain ⟨_, -, h⟩ := bind_eq_ok.mp h
      obtain ⟨slots, rfl⟩ := setSlot_eq_ok h
      exact ⟨.single .slot, fun key hkey => .inl hkey, rfl, rfl⟩
    · obtain ⟨_, hcurve, h⟩ := bind_eq_ok.mp h
      obtain ⟨slots, rfl⟩ := setSlot_eq_ok h
      refine ⟨.tail (.single (.fallbackKey ?_)) .slot, fun key hkey => .inl hkey, rfl, rfl⟩
      simpa using hcurve

/-- **An upload is moves.** -/
theorem uploadKeys_uploaded {crypto : Crypto} {principal : SessionPrincipal}
    {upload : MatrixKeyUpload} {db db' : Db}
    (hnodup : upload.rowIds.Nodup) (hfresh : ∀ key ∈ db.keys.oneTimeKeys, key.id ∉ upload.rowIds)
    (hclock : ∀ key ∈ db.keys.oneTimeKeys, key.uploadedAt ≤ db.clock)
    (h : uploadKeys crypto principal upload db = .ok db') :
    Uploaded upload.rowIds db.clock db.keys db'.keys := by
  unfold uploadKeys at h
  obtain ⟨deviceId, -, h⟩ := bind_eq_ok.mp h
  obtain ⟨_, -, h⟩ := bind_eq_ok.mp h
  obtain ⟨_, -, h⟩ := bind_eq_ok.mp h
  obtain ⟨_, -, h⟩ := bind_eq_ok.mp h
  obtain ⟨inserted, hinserted, h⟩ := bind_eq_ok.mp h
  obtain ⟨keys, hrotated, h⟩ := bind_eq_ok.mp h
  cases h
  rw [MatrixKeyUpload.rowIds, List.map_append] at hnodup hfresh ⊢
  have hinsert := insertOneTimeKeys_uploaded (List.nodup_append.mp hnodup).1
    (fun key hkey hid => hfresh key hkey (List.mem_append_left _ hid)) hclock hinserted
  have hrotate := rotateFallbackKey_uploaded hrotated
  refine ⟨hinsert.moves.trans hrotate.moves, fun key hkey => ?_,
    hrotate.requests.trans hinsert.requests, hrotate.results.trans hinsert.results⟩
  rcases hrotate.rows key hkey with hold | ⟨hid, -⟩
  · exact (hinsert.rows key hold).imp_right fun hnew => ⟨List.mem_append_left _ hnew.1, hnew.2⟩
  · simp at hid

/-! ## A claim -/

/-- What a claim asks for: the device it claims for, the parsed call and its digest. -/
structure KeyClaim.Asks (env : Deployment) (claim : KeyClaim) (deviceId : Uuid)
    (parsed : ParsedClaim) (hash : JsString) : Prop where
  device : claim.call.principal.deviceId = some deviceId
  parses : parseClaimCall claim.call.rawRequestId claim.call.value = .ok parsed
  hash : claimSha256 env.crypto parsed.claim = .ok hash

/-- A claim that succeeds went through the part both claims share. -/
theorem KeyClaim.run_eq_ok {claim : KeyClaim} {db db' : Db} {claimed : ClaimedKeys}
    (h : claim.run env db = .ok (db', claimed)) :
    ∃ deviceId parsed hash scope excluded, claim.Asks env deviceId parsed hash ∧
      runClaim db deviceId scope parsed hash excluded claim.call.rowId claim.call.now =
        .ok (db', claimed) := by
  have hdirectory : ∀ {principal : SessionPrincipal} {deviceId : Uuid},
      requireDirectoryDevice principal = .ok deviceId → principal.deviceId = some deviceId := by
    intro principal deviceId hdevice
    obtain ⟨_, -, hdevice⟩ := bind_eq_ok.mp hdevice
    exact orThrow_eq_ok.mp hdevice
  cases claim with
  | ofConversation conversationId call =>
    simp only [KeyClaim.run, claimKeys] at h
    obtain ⟨deviceId, hdevice, h⟩ := bind_eq_ok.mp h
    obtain ⟨parsed, hparsed, h⟩ := bind_eq_ok.mp h
    obtain ⟨hash, hhash, h⟩ := bind_eq_ok.mp h
    obtain ⟨_, -, h⟩ := bind_eq_ok.mp h
    obtain ⟨_, -, h⟩ := bind_eq_ok.mp h
    obtain ⟨_, -, h⟩ := bind_eq_ok.mp h
    exact ⟨deviceId, parsed, hash, _, _, ⟨hdirectory hdevice, hparsed, hhash⟩, h⟩
  | related call =>
    simp only [KeyClaim.run, claimRelatedKeys] at h
    obtain ⟨deviceId, hdevice, h⟩ := bind_eq_ok.mp h
    obtain ⟨parsed, hparsed, h⟩ := bind_eq_ok.mp h
    split at h
    · obtain ⟨hash, hhash, h⟩ := bind_eq_ok.mp h
      obtain ⟨_, -, h⟩ := bind_eq_ok.mp h
      obtain ⟨scope, -, h⟩ := bind_eq_ok.mp h
      exact ⟨deviceId, parsed, hash, _, _, ⟨hdirectory hdevice, hparsed, hhash⟩, h⟩
    · simp at h

/-- A result for every target, the earlier ones of no effect on the later. -/
def resultFor (keys : KeyStore) (claimRequestId : Uuid) (now : ℕ) (target : Uuid) :
    MatrixKeyClaimResult :=
  match keys.oldestUnclaimed target with
  | some key => ⟨claimRequestId, target, some key.id, none, now⟩
  | none => ⟨claimRequestId, target, none, (keys.currentFallback target).map MatrixFallbackKey.id,
      now⟩

/-- A claim is recorded, before any key is taken. -/
def KeyStore.record (keys : KeyStore) (request : MatrixKeyClaimRequest) : KeyStore :=
  { keys with claimRequests := keys.claimRequests ++ [request] }

/-- A key for every target. -/
def KeyStore.takeFor (keys : KeyStore) (claimRequestId : Uuid) (now : ℕ) (targets : List Uuid) :
    KeyStore :=
  targets.foldl (fun keys target => claimRecipientKey claimRequestId target now keys) keys

/-- The record of a claim, by what was asked for. -/
def KeyClaim.request (claim : KeyClaim) (deviceId : Uuid) (conversationId : Option Uuid)
    (parsed : ParsedClaim) (hash : JsString) : MatrixKeyClaimRequest :=
  ⟨claim.call.rowId, deviceId, conversationId, parsed.requestId, hash⟩

/-- **What a claim does**: it is answered from its record, or it is recorded
with a result for each of different published devices. -/
inductive ClaimEffect (claim : KeyClaim) (deviceId : Uuid) (parsed : ParsedClaim)
    (hash : JsString) (db db' : Db) (claimed : ClaimedKeys) : Prop
  | repeated {previous : MatrixKeyClaimRequest} :
      db.keys.previousClaim deviceId parsed.requestId = some previous →
      previous.requestSha256 = hash → db' = db →
      claimed = buildClaimResponse db.accounts db.keys previous.id →
      ClaimEffect claim deviceId parsed hash db db' claimed
  | recorded {conversationId : Option Uuid} {targets : List Uuid} :
      db.keys.previousClaim deviceId parsed.requestId = none → targets.Nodup →
      (∀ target ∈ targets, (db.accounts.deviceKeys.find? target).isSome = true) →
      db' = { db with
        keys := (db.keys.record (claim.request deviceId conversationId parsed hash)).takeFor
          claim.call.rowId claim.call.now targets } →
      claimed = buildClaimResponse db'.accounts db'.keys claim.call.rowId →
      ClaimEffect claim deviceId parsed hash db db' claimed

/-- The targets of a claim are different devices, each with its identity. -/
theorem claimTargets_published (accounts : Accounts) (scope : ClaimScope)
    (requested : List JsString) (excluded : Option Uuid) :
    (claimTargets accounts scope requested excluded).Nodup ∧
      ∀ target ∈ claimTargets accounts scope requested excluded,
        (accounts.deviceKeys.find? target).isSome = true := by
  unfold claimTargets
  constructor
  · rw [(List.sortBy_perm _ _).nodup_iff]
    exact accounts.deviceKeys.nodup.sublist (List.filter_sublist.map _)
  · intro target htarget
    obtain ⟨row, hrow, rfl⟩ := List.mem_map.mp (List.mem_sortBy.mp htarget)
    rw [Table.find?_eq_some.mpr ⟨Table.mem_def.mpr (List.mem_filter.mp hrow).1, rfl⟩]
    rfl

theorem KeyClaim.effect {claim : KeyClaim} {db db' : Db} {claimed : ClaimedKeys}
    (h : claim.run env db = .ok (db', claimed)) :
    ∃ deviceId parsed hash, claim.Asks env deviceId parsed hash ∧
      ClaimEffect claim deviceId parsed hash db db' claimed := by
  obtain ⟨deviceId, parsed, hash, scope, excluded, hasks, hrun⟩ := KeyClaim.run_eq_ok h
  refine ⟨deviceId, parsed, hash, hasks, ?_⟩
  unfold runClaim at hrun
  split at hrun
  · rename_i previous hprevious
    obtain ⟨_, hsame, hrun⟩ := bind_eq_ok.mp hrun
    cases hrun
    simp only [require_eq_ok, Bool.and_eq_true, beq_iff_eq] at hsame
    exact .repeated hprevious hsame.2 rfl rfl
  · rename_i hprevious
    cases hrun
    exact .recorded hprevious (claimTargets_published _ _ _ _).1
      (claimTargets_published _ _ _ _).2 rfl rfl

end SinoChat
