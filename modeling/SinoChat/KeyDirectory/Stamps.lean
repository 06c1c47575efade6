import SinoChat.KeyDirectory.Tables
import SinoChat.Model.KeyClock

/-!
# The times in the key tables

What an upload adds and what a claim marks, as far as times and owners go.
A claim of the time `now` passes the conditions of the database when no key
of its targets was uploaded or first used after `now` (`takeFor_checks`).
-/

namespace SinoChat

open Js

/-! ## What an upload adds -/

/-- The rows an upload adds are of its device, its time and its ids, and unclaimed. -/
theorem insertOneTimeKeys_rows {crypto : Crypto} {deviceId : Uuid} {now : ℕ}
    {uploads : List UploadedKey} {keys keys' : KeyStore}
    (h : insertOneTimeKeys crypto deviceId now uploads keys = .ok keys') :
    ∃ new, keys' = { keys with oneTimeKeys := keys.oneTimeKeys ++ new } ∧
      (∀ row ∈ new, row.deviceId = deviceId ∧ row.uploadedAt = now ∧ row.claimedAt = none) ∧
      (new.map MatrixOneTimeKey.id).Sublist (uploads.map UploadedKey.rowId) := by
  induction uploads generalizing keys with
  | nil =>
    cases h
    exact ⟨[], by simp, by simp, by simp⟩
  | cons upload rest ih =>
    unfold insertOneTimeKeys at h
    obtain ⟨keyId, -, h⟩ := bind_eq_ok.mp h
    obtain ⟨canonicalSha256, -, h⟩ := bind_eq_ok.mp h
    split at h
    · obtain ⟨_, -, h⟩ := bind_eq_ok.mp h
      obtain ⟨new, hkeys, hrows, hids⟩ := ih h
      exact ⟨new, hkeys, hrows, hids.cons _⟩
    · obtain ⟨_, -, h⟩ := bind_eq_ok.mp h
      obtain ⟨_, -, h⟩ := bind_eq_ok.mp h
      obtain ⟨new, rfl, hrows, hids⟩ := ih h
      refine ⟨_ :: new, by rw [List.append_assoc]; rfl, ?_, ?_⟩
      · intro row hrow
        obtain rfl | hrow := List.mem_cons.mp hrow
        · exact ⟨rfl, rfl, rfl⟩
        · exact hrows row hrow
      · exact hids.cons_cons upload.rowId

/-- A fallback key of the device joins the table or was there, and at most
its slot changes. -/
theorem rotateFallbackKey_rows {crypto : Crypto} {deviceId : Uuid} {now : ℕ}
    {uploads : List UploadedKey} {keys keys' : KeyStore}
    (h : rotateFallbackKey crypto deviceId now uploads keys = .ok keys') :
    ∃ new slots, keys' = { keys with fallbackKeys := keys.fallbackKeys ++ new, slots } ∧
      (∀ row ∈ new, row.deviceId = deviceId ∧ row.uploadedAt = now ∧ row.firstClaimedAt = none) ∧
      (new.map MatrixFallbackKey.id).Sublist (uploads.map UploadedKey.rowId) ∧
      (slots = keys.slots ∨ ∃ row ∈ keys.fallbackKeys ++ new, row.deviceId = deviceId ∧
        slots = Function.update keys.slots deviceId (some row.id)) := by
  have hslot : ∀ {keys keys' : KeyStore} {row : MatrixFallbackKey},
      keys.setSlot deviceId row = .ok keys' → ∃ slots, keys' = { keys with slots } ∧
        (slots = keys.slots ∨ slots = Function.update keys.slots deviceId (some row.id)) := by
    intro keys keys' row h
    unfold KeyStore.setSlot at h
    split at h
    · cases h
      exact ⟨_, rfl, .inr rfl⟩
    · split_ifs at h <;> cases h
      · exact ⟨_, rfl, .inl rfl⟩
      · exact ⟨_, rfl, .inr rfl⟩
  unfold rotateFallbackKey at h
  split at h
  · cases h
    exact ⟨[], keys.slots, by simp, by simp, by simp, .inl rfl⟩
  · rename_i upload rest
    obtain ⟨keyId, -, h⟩ := bind_eq_ok.mp h
    obtain ⟨canonicalSha256, -, h⟩ := bind_eq_ok.mp h
    split at h
    · rename_i existing hexisting
      obtain ⟨_, -, h⟩ := bind_eq_ok.mp h
      obtain ⟨slots, rfl, hslots⟩ := hslot h
      refine ⟨[], slots, by simp, by simp, by simp, hslots.imp_right fun heq => ?_⟩
      have hfound := List.find?_some hexisting
      simp only [decide_eq_true_eq] at hfound
      exact ⟨existing, by simpa using List.mem_of_find?_eq_some hexisting, hfound.1, heq⟩
    · obtain ⟨_, -, h⟩ := bind_eq_ok.mp h
      obtain ⟨slots, rfl, hslots⟩ := hslot h
      refine ⟨_, slots, rfl, ?_, ?_, hslots.imp_right fun heq => ⟨_, by simp, rfl, heq⟩⟩
      · simp
      · simp

/-! ## What a claim marks -/

/-- The tables fit together: ids are unique, the current fallback key of a
device is its own, and no key is claimed before its upload. -/
structure StampInv (keys : KeyStore) : Prop where
  ids : (keys.oneTimeKeys.map MatrixOneTimeKey.id).Nodup
  fallbackIds : (keys.fallbackKeys.map MatrixFallbackKey.id).Nodup
  slots : ∀ deviceId id, keys.slots deviceId = some id →
    ∃ row ∈ keys.fallbackKeys, row.id = id ∧ row.deviceId = deviceId
  claimed : ∀ key ∈ keys.oneTimeKeys, claimClockCheck key = true
  firstClaimed : ∀ key ∈ keys.fallbackKeys, firstClaimClockCheck key = true

theorem StampInv.currentFallback {keys : KeyStore} (h : StampInv keys) {deviceId : Uuid}
    {row : MatrixFallbackKey} (hrow : keys.currentFallback deviceId = some row) :
    row ∈ keys.fallbackKeys ∧ row.deviceId = deviceId := by
  obtain ⟨id, hslot, hfind⟩ := Option.bind_eq_some_iff.mp hrow
  have hmem := List.mem_of_find?_eq_some hfind
  have hid : row.id = id := by simpa using List.find?_some hfind
  obtain ⟨other, hother, hoid, hdevice⟩ := h.slots deviceId id hslot
  obtain rfl := List.inj_on_of_nodup_map h.fallbackIds hother hmem (hoid.trans hid.symm)
  exact ⟨hmem, hdevice⟩

/-- No key of some devices was uploaded or first used after a time. -/
structure UpTo (keys : KeyStore) (devices : Uuid → Prop) (now : ℕ) : Prop where
  oneTimeKeys : ∀ key ∈ keys.oneTimeKeys, devices key.deviceId → key.uploadedAt ≤ now
  fallbackKeys : ∀ key ∈ keys.fallbackKeys, devices key.deviceId → key.uploadedAt ≤ now
  firstClaimed : ∀ key ∈ keys.fallbackKeys, devices key.deviceId →
    ∀ t, key.firstClaimedAt = some t → t ≤ now

/-- Rows of some devices are marked with a time; nothing else changes in
the keys and their slots. -/
structure Marks (devices : Uuid → Prop) (now : ℕ) (before after : KeyStore) : Prop where
  oneTimeKeys : ∃ f, after.oneTimeKeys = before.oneTimeKeys.map f ∧
    ∀ key ∈ before.oneTimeKeys, (f key).content = key.content ∧
      ((f key).claimedAt = key.claimedAt ∨ devices key.deviceId ∧ (f key).claimedAt = some now)
  fallbackKeys : ∃ f, after.fallbackKeys = before.fallbackKeys.map f ∧
    ∀ key ∈ before.fallbackKeys, (f key).content = key.content ∧
      ((f key).firstClaimedAt = key.firstClaimedAt ∨
        devices key.deviceId ∧ (f key).firstClaimedAt = some now)
  slots : after.slots = before.slots

theorem Marks.refl {devices : Uuid → Prop} {now : ℕ} (keys : KeyStore) :
    Marks devices now keys keys :=
  ⟨⟨fun key => key, by simp, fun _ _ => ⟨rfl, .inl rfl⟩⟩,
    ⟨fun key => key, by simp, fun _ _ => ⟨rfl, .inl rfl⟩⟩, rfl⟩

/-- A row after the marks, and the row it was. -/
theorem Marks.mem {devices : Uuid → Prop} {now : ℕ} {before after : KeyStore}
    (h : Marks devices now before after) {key : MatrixOneTimeKey} (hkey : key ∈ after.oneTimeKeys) :
    ∃ old ∈ before.oneTimeKeys, key.content = old.content ∧
      (key.claimedAt = old.claimedAt ∨ devices old.deviceId ∧ key.claimedAt = some now) := by
  obtain ⟨f, heq, hf⟩ := h.oneTimeKeys
  rw [heq] at hkey
  obtain ⟨old, hold, rfl⟩ := List.mem_map.mp hkey
  exact ⟨old, hold, hf old hold⟩

theorem Marks.mem_fallback {devices : Uuid → Prop} {now : ℕ} {before after : KeyStore}
    (h : Marks devices now before after) {key : MatrixFallbackKey}
    (hkey : key ∈ after.fallbackKeys) :
    ∃ old ∈ before.fallbackKeys, key.content = old.content ∧
      (key.firstClaimedAt = old.firstClaimedAt ∨
        devices old.deviceId ∧ key.firstClaimedAt = some now) := by
  obtain ⟨f, heq, hf⟩ := h.fallbackKeys
  rw [heq] at hkey
  obtain ⟨old, hold, rfl⟩ := List.mem_map.mp hkey
  exact ⟨old, hold, hf old hold⟩

theorem MatrixOneTimeKey.fields_of_content {a b : MatrixOneTimeKey} (h : a.content = b.content) :
    a.id = b.id ∧ a.deviceId = b.deviceId ∧ a.uploadedAt = b.uploadedAt := by
  have hfields : a.content.id = b.content.id ∧ a.content.deviceId = b.content.deviceId ∧
      a.content.uploadedAt = b.content.uploadedAt := by simp [h]
  exact hfields

theorem MatrixFallbackKey.fields_of_content {a b : MatrixFallbackKey} (h : a.content = b.content) :
    a.id = b.id ∧ a.deviceId = b.deviceId ∧ a.uploadedAt = b.uploadedAt := by
  have hfields : a.content.id = b.content.id ∧ a.content.deviceId = b.content.deviceId ∧
      a.content.uploadedAt = b.content.uploadedAt := by simp [h]
  exact hfields

theorem Marks.trans {devices : Uuid → Prop} {now : ℕ} {a b c : KeyStore}
    (h : Marks devices now a b) (h' : Marks devices now b c) : Marks devices now a c := by
  obtain ⟨⟨f, hf, hfs⟩, ⟨g, hg, hgs⟩, hslots⟩ := h
  obtain ⟨⟨f', hf', hfs'⟩, ⟨g', hg', hgs'⟩, hslots'⟩ := h'
  refine ⟨⟨f' ∘ f, by rw [hf', hf, List.map_map], fun key hkey => ?_⟩,
    ⟨g' ∘ g, by rw [hg', hg, List.map_map], fun key hkey => ?_⟩, hslots'.trans hslots⟩
  · obtain ⟨hc, hm⟩ := hfs key hkey
    obtain ⟨hc', hm'⟩ := hfs' (f key) (hf ▸ List.mem_map_of_mem hkey)
    refine ⟨hc'.trans hc, ?_⟩
    rcases hm' with hsame | ⟨hdev, hnow⟩
    · exact hm.imp hsame.trans fun ⟨hdev, hnow⟩ => ⟨hdev, hsame.trans hnow⟩
    · exact .inr ⟨(MatrixOneTimeKey.fields_of_content hc).2.1 ▸ hdev, hnow⟩
  · obtain ⟨hc, hm⟩ := hgs key hkey
    obtain ⟨hc', hm'⟩ := hgs' (g key) (hg ▸ List.mem_map_of_mem hkey)
    refine ⟨hc'.trans hc, ?_⟩
    rcases hm' with hsame | ⟨hdev, hnow⟩
    · exact hm.imp hsame.trans fun ⟨hdev, hnow⟩ => ⟨hdev, hsame.trans hnow⟩
    · exact .inr ⟨(MatrixFallbackKey.fields_of_content hc).2.1 ▸ hdev, hnow⟩

/-- Marks of a time not before the uploads keep the tables in order. -/
theorem StampInv.marks {devices : Uuid → Prop} {now : ℕ} {before after : KeyStore}
    (h : StampInv before) (hmarks : Marks devices now before after)
    (hupTo : UpTo before devices now) : StampInv after where
  ids := by
    obtain ⟨f, heq, hf⟩ := hmarks.oneTimeKeys
    have hids : before.oneTimeKeys.map (MatrixOneTimeKey.id ∘ f) = before.oneTimeKeys.map MatrixOneTimeKey.id :=
      List.map_congr_left fun key hkey => (MatrixOneTimeKey.fields_of_content (hf key hkey).1).1
    rw [heq, List.map_map, hids]
    exact h.ids
  fallbackIds := by
    obtain ⟨f, heq, hf⟩ := hmarks.fallbackKeys
    have hids : before.fallbackKeys.map (MatrixFallbackKey.id ∘ f) = before.fallbackKeys.map MatrixFallbackKey.id :=
      List.map_congr_left fun key hkey => (MatrixFallbackKey.fields_of_content (hf key hkey).1).1
    rw [heq, List.map_map, hids]
    exact h.fallbackIds
  slots deviceId id hslot := by
    rw [hmarks.slots] at hslot
    obtain ⟨row, hrow, hid, hdevice⟩ := h.slots deviceId id hslot
    obtain ⟨f, heq, hf⟩ := hmarks.fallbackKeys
    obtain ⟨hfid, hfdevice, -⟩ := MatrixFallbackKey.fields_of_content (hf row hrow).1
    exact ⟨f row, heq ▸ List.mem_map_of_mem hrow, hfid.trans hid, hfdevice.trans hdevice⟩
  claimed key hkey := by
    obtain ⟨old, hold, hcontent, hmark⟩ := hmarks.mem hkey
    obtain ⟨-, -, htime⟩ := MatrixOneTimeKey.fields_of_content hcontent
    unfold claimClockCheck
    rcases hmark with hsame | ⟨hdevice, hnow⟩
    · rw [hsame, htime]
      exact h.claimed old hold
    · rw [hnow, htime]
      simpa using hupTo.oneTimeKeys old hold hdevice
  firstClaimed key hkey := by
    obtain ⟨old, hold, hcontent, hmark⟩ := hmarks.mem_fallback hkey
    obtain ⟨-, -, htime⟩ := MatrixFallbackKey.fields_of_content hcontent
    unfold firstClaimClockCheck
    rcases hmark with hsame | ⟨hdevice, hnow⟩
    · rw [hsame, htime]
      exact h.firstClaimed old hold
    · rw [hnow, htime]
      simpa using hupTo.fallbackKeys old hold hdevice

/-- Marks of some devices leave the times of a larger time bound. -/
theorem UpTo.marks {devices others : Uuid → Prop} {now bound : ℕ} {before after : KeyStore}
    (h : UpTo before others bound) (hmarks : Marks devices now before after)
    (hle : ∀ deviceId, devices deviceId → others deviceId → now ≤ bound) :
    UpTo after others bound where
  oneTimeKeys key hkey hdevice := by
    obtain ⟨old, hold, hcontent, -⟩ := hmarks.mem hkey
    obtain ⟨-, hd, htime⟩ := MatrixOneTimeKey.fields_of_content hcontent
    rw [htime]
    exact h.oneTimeKeys old hold (hd ▸ hdevice)
  fallbackKeys key hkey hdevice := by
    obtain ⟨old, hold, hcontent, -⟩ := hmarks.mem_fallback hkey
    obtain ⟨-, hd, htime⟩ := MatrixFallbackKey.fields_of_content hcontent
    rw [htime]
    exact h.fallbackKeys old hold (hd ▸ hdevice)
  firstClaimed key hkey hdevice t ht := by
    obtain ⟨old, hold, hcontent, hmark⟩ := hmarks.mem_fallback hkey
    obtain ⟨-, hd, -⟩ := MatrixFallbackKey.fields_of_content hcontent
    rw [hd] at hdevice
    rcases hmark with hsame | ⟨hmarked, hnow⟩
    · exact h.firstClaimed old hold hdevice t (hsame.symm.trans ht)
    · obtain rfl : now = t := by simpa [hnow] using ht
      exact hle old.deviceId hmarked hdevice

/-! ## Results -/

/-- The result of a key fits the mark on it. -/
structure ResultFits (keys : KeyStore) (now : ℕ) (result : MatrixKeyClaimResult) : Prop where
  claimedAt : result.claimedAt = now
  oneTimeKey : ∀ id, result.oneTimeKeyId = some id →
    ∃ key ∈ keys.oneTimeKeys, key.id = id ∧ key.claimedAt = some now
  fallbackKey : ∀ id, result.fallbackKeyId = some id →
    ∃ key ∈ keys.fallbackKeys, key.id = id ∧ ∃ t, key.firstClaimedAt = some t ∧ t ≤ now

/-- Later marks of the same time leave it so. -/
theorem ResultFits.marks {devices : Uuid → Prop} {now : ℕ} {before after : KeyStore}
    {result : MatrixKeyClaimResult} (h : ResultFits before now result)
    (hmarks : Marks devices now before after) : ResultFits after now result where
  claimedAt := h.claimedAt
  oneTimeKey id hid := by
    obtain ⟨key, hkey, rfl, hclaimed⟩ := h.oneTimeKey id hid
    obtain ⟨f, heq, hf⟩ := hmarks.oneTimeKeys
    obtain ⟨hcontent, hmark⟩ := hf key hkey
    refine ⟨f key, heq ▸ List.mem_map_of_mem hkey,
      (MatrixOneTimeKey.fields_of_content hcontent).1, ?_⟩
    exact hmark.elim (fun hsame => hsame.trans hclaimed) And.right
  fallbackKey id hid := by
    obtain ⟨key, hkey, rfl, t, hfirst, hle⟩ := h.fallbackKey id hid
    obtain ⟨f, heq, hf⟩ := hmarks.fallbackKeys
    obtain ⟨hcontent, hmark⟩ := hf key hkey
    refine ⟨f key, heq ▸ List.mem_map_of_mem hkey,
      (MatrixFallbackKey.fields_of_content hcontent).1, ?_⟩
    rcases hmark with hsame | ⟨-, hnow⟩
    · exact ⟨t, hsame.trans hfirst, hle⟩
    · exact ⟨now, hnow, le_rfl⟩

theorem ResultFits.check {keys : KeyStore} {now clock : ℕ} {result : MatrixKeyClaimResult}
    (h : ResultFits keys now result) (hle : now ≤ clock) :
    resultClockCheck keys clock result = true := by
  obtain ⟨rfl, hone, hfallback⟩ := h
  simp only [resultClockCheck, Bool.and_eq_true, Option.all_eq_true, decide_eq_true_eq,
    List.any_eq_true, beq_iff_eq, Option.any_eq_true]
  exact ⟨⟨hone, hfallback⟩, hle⟩

/-- **One target.** A key of the target is marked, or was, and the result fits it. -/
theorem claimRecipientKey_marks {keys : KeyStore} (h : StampInv keys) (claimRequestId : Uuid)
    {target : Uuid} {now : ℕ} {devices : Uuid → Prop} (htarget : devices target)
    (hupTo : UpTo keys devices now) :
    Marks devices now keys (claimRecipientKey claimRequestId target now keys) ∧
      ∃ result, (claimRecipientKey claimRequestId target now keys).claimResults =
          keys.claimResults ++ [result] ∧
        ResultFits (claimRecipientKey claimRequestId target now keys) now result := by
  unfold claimRecipientKey
  split
  · rename_i taken htaken
    obtain ⟨hmem, hdevice, -⟩ := mem_unclaimed.mp (oldestUnclaimed_eq_some htaken).1
    refine ⟨⟨⟨_, rfl, fun key hkey => ⟨content_markClaimed _ _ _, ?_⟩⟩,
      ⟨fun key => key, by simp, fun _ _ => ⟨rfl, .inl rfl⟩⟩, rfl⟩, _, rfl, rfl, ?_, by simp⟩
    · by_cases hid : key.id = taken.id
      · obtain rfl := List.inj_on_of_nodup_map h.ids hkey hmem hid
        exact .inr ⟨hdevice ▸ htarget, by simp [markClaimed]⟩
      · exact .inl (by simp [markClaimed, hid])
    · intro id hid
      cases hid
      exact ⟨_, List.mem_map_of_mem hmem, by simp [markClaimed], by simp [markClaimed]⟩
  · split
    · rename_i current hcurrent
      obtain ⟨hmem, hdevice⟩ := h.currentFallback hcurrent
      refine ⟨⟨⟨fun key => key, by simp, fun _ _ => ⟨rfl, .inl rfl⟩⟩,
        ⟨_, rfl, fun key hkey => ⟨content_markFirstClaimed _ _ _, ?_⟩⟩, rfl⟩, _, rfl, rfl, by simp,
          ?_⟩
      · by_cases hid : key.id = current.id ∧ key.firstClaimedAt = none
        · obtain rfl := List.inj_on_of_nodup_map h.fallbackIds hkey hmem hid.1
          exact .inr ⟨hdevice ▸ htarget, by simp [markFirstClaimed, hid.2]⟩
        · exact .inl (by simp [markFirstClaimed, hid])
      · intro id hid
        cases hid
        refine ⟨_, List.mem_map_of_mem hmem, ?_, ?_⟩
        · exact read_markFirstClaimed MatrixFallbackKey.id (fun _ => rfl) _ _ _
        · cases hfirst : current.firstClaimedAt with
          | none => exact ⟨now, by simp [markFirstClaimed, hfirst], le_rfl⟩
          | some t =>
            exact ⟨t, by simp [markFirstClaimed, hfirst],
              hupTo.firstClaimed current hmem (hdevice ▸ htarget) t hfirst⟩
    · exact ⟨⟨⟨fun key => key, by simp, fun _ _ => ⟨rfl, .inl rfl⟩⟩,
        ⟨fun key => key, by simp, fun _ _ => ⟨rfl, .inl rfl⟩⟩, rfl⟩, _, rfl, rfl, by simp, by simp⟩

/-- **All targets**, one after the other. -/
theorem takeFor_marks (claimRequestId : Uuid) {now : ℕ} {devices : Uuid → Prop}
    {targets : List Uuid} {keys : KeyStore} (h : StampInv keys)
    (htargets : ∀ target ∈ targets, devices target) (hupTo : UpTo keys devices now) :
    Marks devices now keys (keys.takeFor claimRequestId now targets) ∧
      ∃ new, (keys.takeFor claimRequestId now targets).claimResults = keys.claimResults ++ new ∧
        ∀ result ∈ new, ResultFits (keys.takeFor claimRequestId now targets) now result := by
  induction targets generalizing keys with
  | nil => exact ⟨.refl _, [], by simp [KeyStore.takeFor], by simp⟩
  | cons target rest ih =>
    obtain ⟨hmarks, result, hresult, hfits⟩ :=
      claimRecipientKey_marks h claimRequestId (htargets target List.mem_cons_self) hupTo
    obtain ⟨hrest, new, hnew, hall⟩ := ih (h.marks hmarks hupTo)
      (fun t ht => htargets t (List.mem_cons_of_mem _ ht)) (hupTo.marks hmarks fun _ _ _ => le_rfl)
    refine ⟨hmarks.trans hrest, result :: new, ?_, ?_⟩
    · exact hnew.trans (by rw [hresult, List.append_assoc]; rfl)
    · intro r hr
      obtain rfl | hr := List.mem_cons.mp hr
      · exact hfits.marks hrest
      · exact hall r hr

/-- **A claim in time passes.** -/
theorem takeFor_checks {claimRequestId : Uuid} {now clock : ℕ} {devices : Uuid → Prop}
    {targets : List Uuid} {before keys : KeyStore} (h : StampInv keys)
    (hresults : keys.claimResults = before.claimResults)
    (htargets : ∀ target ∈ targets, devices target) (hupTo : UpTo keys devices now)
    (hle : now ≤ clock) :
    clockChecks clock before (keys.takeFor claimRequestId now targets) = true := by
  obtain ⟨hmarks, new, hnew, hall⟩ := takeFor_marks claimRequestId h htargets hupTo
  have hafter := h.marks hmarks hupTo
  have hdrop : (keys.takeFor claimRequestId now targets).claimResults.drop
      before.claimResults.length = new := by
    rw [hnew, hresults, List.drop_left]
  simp only [clockChecks, Bool.and_eq_true, List.all_eq_true, hdrop]
  exact ⟨⟨hafter.claimed, hafter.firstClaimed⟩, fun r hr => (hall r hr).check hle⟩

end SinoChat
