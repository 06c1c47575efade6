import SinoChat.Model.PreKeys

/-!
# Pre-keys and claims in the tables

A claim is recorded with the pre-key it has taken, and the unique indexes let one row
pass for a request and one for a pre-key, whichever transactions are open
(`RowsSound`). The bundles a transaction has put together are the records of claims it
sees (`Recorded`), and a pre-key is marked by the transaction that records its claim
(`Sound.marking`).

Whatever one transaction writes, commits or takes away, what the others see is still
there (`Later`), so that `Sound` is kept.
-/

namespace SinoChat

namespace PreKeys

open Heap (Row Unique Keeps There Differ seen committed mem_seen mem_committed)

/-! ## What an answer rests on -/

/-- A bundle is the record of a claim, as a transaction sees it or everybody does. -/
def Recorded (v : Option ℕ) (call : ClaimCall) (bundle : Bundle) (w : World) : Prop :=
  ∃ claim, There v id w.claims claim ∧ claim.id = bundle.claimId ∧
    claim.request = (call.requesterDeviceId, call.conversationId, bundle.deviceId) ∧
    claim.claimedAt = bundle.claimedAt ∧
    (claim.oneTimePreKeyId = none → bundle.oneTimePreKey = none) ∧
    ∀ k, claim.oneTimePreKeyId = some k → ∃ key, There v OneTimePreKey.content w.preKeys key ∧
      key.id = k ∧ bundle.oneTimePreKey = some key.answer

/-- What is there for `v` in one world is there in the other. -/
structure Later (v : Option ℕ) (w w' : World) : Prop where
  claims : ∀ {claim}, There v id w.claims claim → There v id w'.claims claim
  preKeys : ∀ {key}, There v OneTimePreKey.content w.preKeys key →
    There v OneTimePreKey.content w'.preKeys key

variable {w w' : World} {v : Option ℕ} {i : ℕ} {call : ClaimCall} {bundle : Bundle}

theorem Later.refl : Later v w w := ⟨id, id⟩

/-- What is recorded stays recorded. -/
theorem Recorded.later (h : Recorded v call bundle w) (hlater : Later v w w') :
    Recorded v call bundle w' := by
  obtain ⟨claim, hclaim, hid, hrequest, htime, hnone, hsome⟩ := h
  refine ⟨claim, hlater.claims hclaim, hid, hrequest, htime, hnone, fun k hk => ?_⟩
  obtain ⟨key, hkey, hkeyId, hanswer⟩ := hsome k hk
  exact ⟨key, hlater.preKeys hkey, hkeyId, hanswer⟩

/-- What a row is there with, up to its versions. -/
theorem there_id_of_content {rows : List (Row OneTimePreKey)} {k : OneTimePreKey}
    (h : There v OneTimePreKey.content rows k) : There v (·.id) rows k.id := by
  obtain ⟨r, hr, hseen, rfl⟩ := h
  exact ⟨r, hr, hseen, rfl⟩

/-- A row with an id that is there is there. -/
theorem there_of_id {rows : List (Row OneTimePreKey)} {id : Uuid}
    (h : There v (·.id) rows id) :
    ∃ key, There v OneTimePreKey.content rows key ∧ key.id = id := by
  obtain ⟨r, hr, hseen, rfl⟩ := h
  exact ⟨r.value.content, ⟨r, hr, hseen, rfl⟩, rfl⟩

/-- What is there with its content is there with its id, later too. -/
theorem Later.preKeyId (h : Later v w w') {id : Uuid} (hid : There v (·.id) w.preKeys id) :
    There v (·.id) w'.preKeys id := by
  obtain ⟨key, hkey, rfl⟩ := there_of_id hid
  exact there_id_of_content (h.preKeys hkey)

/-! ## The invariant -/

/-- The bundles a claim has made so far. -/
def ClaimPhase.bundles : ClaimPhase → List Bundle
  | .looking loop => loop.bundles
  | .selecting loop => loop.bundles
  | .marking loop _ => loop.bundles
  | .recording loop _ => loop.bundles
  | .committing loop => loop.bundles
  | _ => []

/-- The bundles of a transaction. -/
def Job.bundles : Job → List Bundle
  | .claim _ phase => phase.bundles
  | _ => []

/-- The pre-key a transaction has marked and not yet recorded a claim of, with the time. -/
def Job.marked : Job → Option (Uuid × ℕ)
  | .claim _ (.recording loop (some candidate)) => some (candidate, loop.claimedAt)
  | _ => none

/-- What holds of a transaction. -/
structure JobSound (w : World) (i : ℕ) (job : Job) : Prop where
  recorded : ∀ call phase, job = .claim call phase → ∀ b ∈ phase.bundles, Recorded (some i) call b w
  marked : ∀ id time, job.marked = some (id, time) → There (some i) (·.id) w.preKeys id

/-- A claim of a pre-key at a time. -/
def Claimed (v : Option ℕ) (w : World) (id : Uuid) (time : ℕ) : Prop :=
  ∃ claim, There v (fun c => c) w.claims claim ∧ claim.oneTimePreKeyId = some id ∧ claim.claimedAt = time

/-- What holds of the tables. -/
structure RowsSound (w : World) : Prop where
  claimIds : Unique (fun claim => some claim.id) w.claims
  requests : Unique (fun claim => some claim.request) w.claims
  claimKeys : Unique OneTimePreKeyClaim.oneTimePreKeyId w.claims
  claimsKept : Keeps id w.claims
  preKeyIds : Unique (fun key => some key.id) w.preKeys
  preKeysKept : Keeps OneTimePreKey.content w.preKeys
  /-- The foreign key of a claim. -/
  referenced : ∀ r ∈ w.claims, ∀ k, r.value.oneTimePreKeyId = some k →
    There r.insertedBy (·.id) w.preKeys k
  marks : ∀ r ∈ w.preKeys, ∀ time, r.value.claimedAt = some time →
    Claimed none w r.value.id time

/-- A transaction has marked a pre-key and not yet recorded a claim of it. -/
def World.Marked (w : World) (t : ℕ) (id : Uuid) (time : ℕ) : Prop :=
  ∃ transaction, w.transactions[t]? = some transaction ∧ transaction.job.marked = some (id, time)

/-- What holds of the tables and of the open transactions. -/
structure Sound (w : World) : Prop where
  rows : RowsSound w
  marking : ∀ r ∈ w.preKeys, ∀ t key time, r.update = some (t, key) → key.claimedAt = some time →
    Claimed (some t) w r.value.id time ∨ w.Marked t r.value.id time
  jobs : ∀ {j transaction}, w.transactions[j]? = some transaction → JobSound w j transaction.job
  covered : ∀ r ∈ w.claims, ∀ t, r.insertedBy = some t → ∃ transaction,
    w.transactions[t]? = some transaction ∧ ∃ b ∈ transaction.job.bundles, b.claimId = r.value.id

/-- A claimed key stays claimed. -/
theorem Claimed.later {id : Uuid} {time : ℕ} (h : Claimed v w id time) (hlater : Later v w w') :
    Claimed v w' id time := by
  obtain ⟨claim, hclaim, hkey, htime⟩ := h
  exact ⟨claim, hlater.claims hclaim, hkey, htime⟩

/-- A key that all see claimed is seen so by each. -/
theorem Claimed.mono {id : Uuid} {time : ℕ} (h : Claimed none w id time) : Claimed v w id time := by
  obtain ⟨claim, hclaim, hkey, htime⟩ := h
  exact ⟨claim, hclaim.mono v, hkey, htime⟩

/-- A job stays sound while others work. -/
theorem JobSound.later {job : Job} (h : JobSound w i job) (hlater : Later (some i) w w') :
    JobSound w' i job :=
  ⟨fun call phase hjob b hb => (h.recorded call phase hjob b hb).later hlater,
    fun id time hmarked => hlater.preKeyId (h.marked id time hmarked)⟩

/-- A job without bundles, and with nothing marked. -/
theorem JobSound.empty {job : Job} (hbundles : job.bundles = []) (hmarked : job.marked = none) :
    JobSound w i job := by
  refine ⟨?_, fun id time hsome => by rw [hmarked] at hsome; cases hsome⟩
  rintro call phase rfl b hb
  rw [show phase.bundles = [] from hbundles] at hb
  cases hb

/-! ## One transaction goes on -/

theorem getElem?_set_self' {l : List Transaction} {tr tr' : Transaction} (h : l[i]? = some tr) :
    (l.set i tr')[i]? = some tr' := by
  obtain ⟨hlt, -⟩ := List.getElem?_eq_some_iff.mp h
  exact List.getElem?_set_self hlt

/-- **The frame rule.** One transaction goes on in a world where everything that was there still
is. -/
theorem Sound.move (h : Sound w) {tr tr' : Transaction} (hi : w.transactions[i]? = some tr)
    (htransactions : w'.transactions = w.transactions.set i tr') (hrows : RowsSound w')
    (hlater : ∀ j, j ≠ i → Later (some j) w w') (hjob : JobSound w' i tr'.job)
    (hmarking : ∀ r ∈ w'.preKeys, ∀ t key time, r.update = some (t, key) →
      key.claimedAt = some time → Claimed (some t) w' r.value.id time ∨
        (t = i ∧ tr'.job.marked = some (r.value.id, time)) ∨ (t ≠ i ∧ w.Marked t r.value.id time))
    (hcovered : ∀ r ∈ w'.claims, ∀ t, r.insertedBy = some t →
      (t = i ∧ ∃ b ∈ tr'.job.bundles, b.claimId = r.value.id) ∨
        (t ≠ i ∧ ∃ r' ∈ w.claims, r'.insertedBy = some t ∧ r'.value = r.value)) : Sound w' := by
  have hself : w'.transactions[i]? = some tr' := by
    rw [htransactions]
    exact getElem?_set_self' hi
  have hother : ∀ j, j ≠ i → w'.transactions[j]? = w.transactions[j]? := fun j hne => by
    rw [htransactions, List.getElem?_set_ne hne.symm]
  refine ⟨hrows, ?_, ?_, ?_⟩
  · intro r hr t key time hupdate htime
    rcases hmarking r hr t key time hupdate htime with hclaimed | ⟨rfl, hmarked⟩ | ⟨hne, hmarked⟩
    · exact .inl hclaimed
    · exact .inr ⟨tr', hself, hmarked⟩
    · obtain ⟨transaction, htransaction, hmarked⟩ := hmarked
      exact .inr ⟨transaction, (hother t hne).trans htransaction, hmarked⟩
  · intro j transaction hj
    by_cases hne : j = i
    · subst hne
      rw [hself] at hj
      obtain rfl := Option.some.inj hj
      exact hjob
    · rw [hother j hne] at hj
      exact (h.jobs hj).later (hlater j hne)
  · intro r hr t ht
    rcases hcovered r hr t ht with ⟨rfl, hbundle⟩ | ⟨hne, r', hr', ht', hvalue⟩
    · exact ⟨tr', hself, hbundle⟩
    · obtain ⟨transaction, htransaction, hbundle⟩ := h.covered r' hr' t ht'
      rw [hvalue] at hbundle
      exact ⟨transaction, (hother t hne).trans htransaction, hbundle⟩

/-- A statement that writes nothing. -/
theorem Sound.quiet (h : Sound w) {tr tr' : Transaction} (hi : w.transactions[i]? = some tr)
    (hmarked : tr.job.marked = none) (hjob : JobSound w i tr'.job)
    (hbundles : ∀ b ∈ tr.job.bundles, b ∈ tr'.job.bundles) : Sound (w.goOn i tr') := by
  refine h.move hi rfl ⟨h.rows.claimIds, h.rows.requests, h.rows.claimKeys,
    h.rows.claimsKept, h.rows.preKeyIds, h.rows.preKeysKept, h.rows.referenced, h.rows.marks⟩
    (fun _ _ => ⟨id, id⟩) (hjob.later ⟨id, id⟩) ?_ ?_
  · intro r hr t key time hupdate htime
    rcases h.marking r hr t key time hupdate htime with hclaimed | hpending
    · exact .inl hclaimed
    · by_cases hne : t = i
      · subst hne
        obtain ⟨transaction, htransaction, hsome⟩ := hpending
        rw [hi] at htransaction
        obtain rfl := Option.some.inj htransaction
        rw [hmarked] at hsome
        cases hsome
      · exact .inr (.inr ⟨hne, hpending⟩)
  · intro r hr t ht
    by_cases hne : t = i
    · subst hne
      obtain ⟨transaction, htransaction, b, hb, hid⟩ := h.covered r hr t ht
      rw [hi] at htransaction
      obtain rfl := Option.some.inj htransaction
      exact .inl ⟨rfl, b, hbundles b hb, hid⟩
    · exact .inr ⟨hne, r, hr, ht, rfl⟩

/-! ### Versions of pre-keys -/

/-- The rows behind a write. -/
theorem mem_write {p : OneTimePreKey → Bool} {f : OneTimePreKey → OneTimePreKey}
    {rows : List (Row OneTimePreKey)} {r' : Row OneTimePreKey}
    (h : r' ∈ Heap.write i p f rows) : ∃ r ∈ rows, r' = r ∨
      (p (r.version i) = true ∧ r' = { r with update := some (i, f (r.version i)) }) := by
  obtain ⟨r, hr, rfl⟩ := List.mem_map.mp h
  refine ⟨r, hr, ?_⟩
  split_ifs with hwrite
  · exact .inr ⟨hwrite.2, rfl⟩
  · exact .inl rfl

/-- A write removes no row. -/
theorem later_write {p : OneTimePreKey → Bool} {f : OneTimePreKey → OneTimePreKey} :
    Later v w { w with preKeys := Heap.write i p f w.preKeys } :=
  ⟨id, fun hkey => hkey.write i p f⟩

/-- A write that keeps the keys keeps the rows sound. -/
theorem RowsSound.write (h : RowsSound w) {p : OneTimePreKey → Bool}
    {f : OneTimePreKey → OneTimePreKey} (hf : ∀ key, (f key).content = key.content) :
    RowsSound { w with preKeys := Heap.write i p f w.preKeys } := by
  refine ⟨h.claimIds, h.requests, h.claimKeys, h.claimsKept, h.preKeyIds.write i p f,
    h.preKeysKept.write hf i p, fun r hr k hk => (h.referenced r hr k hk).write i p f, ?_⟩
  intro r' hr' time htime
  obtain ⟨r, hr, rfl | ⟨-, rfl⟩⟩ := mem_write hr'
  · exact h.marks r' hr time htime
  · exact h.marks r hr time htime

/-- A transaction that has nothing marked has recorded what it sees as claimed. -/
theorem Sound.claimed_of_version (h : Sound w) {tr : Transaction}
    (hi : w.transactions[i]? = some tr) (hmarked : tr.job.marked = none) {r : Row OneTimePreKey}
    (hr : r ∈ w.preKeys) {time : ℕ} (htime : (r.version i).claimedAt = some time) :
    Claimed (some i) w r.value.id time := by
  have hvalue : r.version i = r.value ∨ r.update = some (i, r.version i) := by
    rw [Row.version]
    cases hupdate : r.update with
    | none => exact .inl rfl
    | some written =>
      obtain ⟨t, key⟩ := written
      by_cases ht : t = i
      · simp [ht]
      · simp [ht]
  rcases hvalue with hvalue | hupdate
  · rw [hvalue] at htime
    exact (h.rows.marks r hr time htime).mono
  · rcases h.marking r hr i _ time hupdate htime with hclaimed | ⟨transaction, htransaction, hsome⟩
    · exact hclaimed
    · rw [hi] at htransaction
      obtain rfl := Option.some.inj htransaction
      rw [hmarked] at hsome
      cases hsome

/-- A statement that writes versions of pre-keys. -/
theorem Sound.writeKeys (h : Sound w) {tr tr' : Transaction} (hi : w.transactions[i]? = some tr)
    (hmarked : tr.job.marked = none) {p : OneTimePreKey → Bool} {f : OneTimePreKey → OneTimePreKey}
    (hf : ∀ key, (f key).content = key.content) (hjob : JobSound w i tr'.job)
    (hbundles : ∀ b ∈ tr.job.bundles, b ∈ tr'.job.bundles)
    (hnew : ∀ r ∈ w.preKeys, p (r.version i) = true → ∀ time,
      (f (r.version i)).claimedAt = some time →
        Claimed (some i) w r.value.id time ∨ tr'.job.marked = some (r.value.id, time)) :
    Sound (World.goOn { w with preKeys := Heap.write i p f w.preKeys } i tr') := by
  refine h.move hi rfl ?_ ?_ (hjob.later ?_) ?_ ?_
  · have hrows := h.rows.write (i := i) (p := p) hf
    exact ⟨hrows.claimIds, hrows.requests, hrows.claimKeys, hrows.claimsKept, hrows.preKeyIds,
      hrows.preKeysKept, hrows.referenced, hrows.marks⟩
  · exact fun _ _ => ⟨id, fun hkey => hkey.write i p f⟩
  · exact ⟨id, fun hkey => hkey.write i p f⟩
  · intro r' hr' t key time hupdate htime
    obtain ⟨r, hr, rfl | ⟨hp, rfl⟩⟩ := mem_write hr'
    · rcases h.marking r' hr t key time hupdate htime with hclaimed | hpending
      · exact .inl hclaimed
      · by_cases hne : t = i
        · subst hne
          obtain ⟨transaction, htransaction, hsome⟩ := hpending
          rw [hi] at htransaction
          obtain rfl := Option.some.inj htransaction
          rw [hmarked] at hsome
          cases hsome
        · exact .inr (.inr ⟨hne, hpending⟩)
    · obtain ⟨rfl, rfl⟩ := Prod.mk.inj (Option.some.inj hupdate)
      rcases hnew r hr hp time htime with hclaimed | hpending
      · exact .inl hclaimed
      · exact .inr (.inl ⟨rfl, hpending⟩)
  · intro r hr t ht
    by_cases hne : t = i
    · subst hne
      obtain ⟨transaction, htransaction, b, hb, hid⟩ := h.covered r hr t ht
      rw [hi] at htransaction
      obtain rfl := Option.some.inj htransaction
      exact .inl ⟨rfl, b, hbundles b hb, hid⟩
    · exact .inr ⟨hne, r, hr, ht, rfl⟩

/-! ### New rows -/

/-- The unique indexes have let a claim pass. -/
theorem insertable_iff {claim : OneTimePreKeyClaim} : w.insertable claim = true ↔
    ∀ r ∈ w.claims, r.value.id ≠ claim.id ∧ r.value.request ≠ claim.request ∧
      ∀ k, claim.oneTimePreKeyId = some k → r.value.oneTimePreKeyId ≠ some k := by
  rw [World.insertable, List.all_eq_true]
  refine forall₂_congr fun r hr => ?_
  cases hkey : claim.oneTimePreKeyId with
  | none => simp
  | some k => simp [and_assoc]

/-- So does a claim of a key that is there. -/
theorem RowsSound.insertClaim (h : RowsSound w) {claim : OneTimePreKeyClaim}
    (hinsertable : w.insertable claim = true) {t : Option ℕ}
    (hkey : ∀ k, claim.oneTimePreKeyId = some k → There t (·.id) w.preKeys k) :
    RowsSound { w with claims := Heap.insert t [claim] w.claims } := by
  have hnew := insertable_iff.mp hinsertable
  have hsingle : ∀ {β : Type} (key : OneTimePreKeyClaim → Option β),
      (([claim] : List OneTimePreKeyClaim).map key).Pairwise Differ := fun key =>
    List.pairwise_singleton _ _
  refine ⟨h.claimIds.insert (hsingle _) ?_ t, h.requests.insert (hsingle _) ?_ t,
    h.claimKeys.insert (hsingle _) ?_ t, h.claimsKept.insert t _, h.preKeyIds, h.preKeysKept, ?_, ?_⟩
  · intro r hr value hvalue k hk hk'
    obtain rfl := List.mem_singleton.mp hvalue
    exact (hnew r hr).1 (Option.some.inj (hk.trans hk'.symm))
  · intro r hr value hvalue k hk hk'
    obtain rfl := List.mem_singleton.mp hvalue
    exact (hnew r hr).2.1 (Option.some.inj (hk.trans hk'.symm))
  · intro r hr value hvalue k hk hk'
    obtain rfl := List.mem_singleton.mp hvalue
    exact (hnew r hr).2.2 k hk' hk
  · intro r hr k hk
    rcases List.mem_append.mp hr with hr | hr
    · exact h.referenced r hr k hk
    · obtain rfl := List.mem_singleton.mp hr
      exact hkey k hk
  · intro r hr time htime
    exact (h.marks r hr time htime).later ⟨fun hclaim => hclaim.insert t _, id⟩

/-- A new claim is there. -/
theorem there_insertClaim {t : Option ℕ} {rows : List (Row OneTimePreKeyClaim)}
    {claim : OneTimePreKeyClaim} : There t id (Heap.insert t [claim] rows) claim :=
  show There t id _ (id claim) from Heap.there_insert List.mem_cons_self t

/-- A statement that records a claim. -/
theorem Sound.record (h : Sound w) {tr tr' : Transaction} (hi : w.transactions[i]? = some tr)
    {claim : OneTimePreKeyClaim} (hinsertable : w.insertable claim = true)
    (hkey : ∀ k, claim.oneTimePreKeyId = some k → There (some i) (·.id) w.preKeys k)
    (hmarked : ∀ id time, tr.job.marked = some (id, time) →
      claim.oneTimePreKeyId = some id ∧ claim.claimedAt = time)
    (hjob : JobSound { w with claims := Heap.insert (some i) [claim] w.claims } i tr'.job)
    (hbundles : ∀ b ∈ tr.job.bundles, b ∈ tr'.job.bundles)
    (hbundle : ∃ b ∈ tr'.job.bundles, b.claimId = claim.id) :
    Sound (World.goOn { w with claims := Heap.insert (some i) [claim] w.claims } i tr') := by
  have hrows := h.rows.insertClaim hinsertable hkey
  refine h.move hi rfl ⟨hrows.claimIds, hrows.requests, hrows.claimKeys, hrows.claimsKept, hrows.preKeyIds,
      hrows.preKeysKept, hrows.referenced, hrows.marks⟩ ?_ (hjob.later ⟨id, id⟩) ?_ ?_
  · exact fun _ _ => ⟨fun hclaim => hclaim.insert _ _, id⟩
  · intro r hr t key time hupdate htime
    have hlater : Later (some t) w
        (World.goOn { w with claims := Heap.insert (some i) [claim] w.claims } i tr') :=
      ⟨fun hclaim => hclaim.insert _ _, id⟩
    rcases h.marking r hr t key time hupdate htime with hclaimed | hpending
    · exact .inl (hclaimed.later hlater)
    · by_cases hne : t = i
      · subst hne
        obtain ⟨transaction, htransaction, hsome⟩ := hpending
        rw [hi] at htransaction
        obtain rfl := Option.some.inj htransaction
        obtain ⟨hid, htime⟩ := hmarked _ _ hsome
        exact .inl ⟨claim, there_insertClaim, hid, htime⟩
      · exact .inr (.inr ⟨hne, hpending⟩)
  · intro r hr t ht
    rcases List.mem_append.mp hr with hold | hnew
    · by_cases hne : t = i
      · subst hne
        obtain ⟨transaction, htransaction, b, hb, hid⟩ := h.covered r hold t ht
        rw [hi] at htransaction
        obtain rfl := Option.some.inj htransaction
        exact .inl ⟨rfl, b, hbundles b hb, hid⟩
      · exact .inr ⟨hne, r, hold, ht, rfl⟩
    · obtain rfl := List.mem_singleton.mp hnew
      exact .inl ⟨(Option.some.inj ht).symm, hbundle⟩

/-- So does an upload of unclaimed keys. -/
theorem RowsSound.insertKeys (h : RowsSound w) {keys : List OneTimePreKey}
    (huploadable : w.uploadable keys = true) (hunclaimed : ∀ key ∈ keys, key.claimedAt = none)
    (t : Option ℕ) : RowsSound { w with preKeys := Heap.insert t keys w.preKeys } := by
  simp only [World.uploadable, Bool.and_eq_true, decide_eq_true_eq, List.all_eq_true, bne_iff_ne]
    at huploadable
  obtain ⟨⟨hids, -⟩, hnew⟩ := huploadable
  refine ⟨h.claimIds, h.requests, h.claimKeys, h.claimsKept, h.preKeyIds.insert ?_ ?_ t,
    h.preKeysKept.insert t keys, fun r hr k hk => (h.referenced r hr k hk).insert t keys, ?_⟩
  · refine List.pairwise_map.mpr ((List.pairwise_map.mp hids).imp ?_)
    intro a b hne k hk hk'
    exact hne (Option.some.inj (hk.trans hk'.symm))
  · intro r hr key hkey k hk hk'
    exact (hnew r hr key hkey).1 (Option.some.inj (hk.trans hk'.symm))
  · intro r hr time htime
    rcases List.mem_append.mp hr with hr | hr
    · exact h.marks r hr time htime
    · obtain ⟨key, hkey, rfl⟩ := List.mem_map.mp hr
      rw [show (⟨key, t, none⟩ : Row OneTimePreKey).value.claimedAt = none from
        hunclaimed key hkey] at htime
      cases htime

/-- New rows of pre-keys hide nothing, and claim nothing. -/
theorem Sound.insertKeys (h : Sound w) {keys : List OneTimePreKey}
    (huploadable : w.uploadable keys = true) (hunclaimed : ∀ key ∈ keys, key.claimedAt = none)
    (t : Option ℕ) : Sound { w with preKeys := Heap.insert t keys w.preKeys } := by
  have hlater : ∀ v, Later v w { w with preKeys := Heap.insert t keys w.preKeys } := fun v =>
    ⟨id, fun hkey => hkey.insert t keys⟩
  refine ⟨h.rows.insertKeys huploadable hunclaimed t, ?_, fun hj => (h.jobs hj).later (hlater _),
    h.covered⟩
  intro r hr u key time hupdate htime
  rcases List.mem_append.mp hr with hr | hr
  · exact h.marking r hr u key time hupdate htime
  · obtain ⟨key, -, rfl⟩ := List.mem_map.mp hr
    cases hupdate

/-! ## The end of a transaction -/

/-- A kept claim keeps all that is read of it. -/
theorem Keeps.claim {β : Type} {rows : List (Row OneTimePreKeyClaim)} (h : Keeps id rows)
    (key : OneTimePreKeyClaim → β) : Keeps key rows := fun r hr u v hupdate => by
  rw [show v = r.value from h r hr u v hupdate]

/-- A kept key keeps all but its mark. -/
theorem Keeps.preKey {β : Type} {rows : List (Row OneTimePreKey)} (h : Keeps OneTimePreKey.content rows)
    (key : OneTimePreKey → β) (hkey : ∀ k, key k = key k.content) : Keeps key rows :=
  fun r hr u v hupdate => by rw [hkey v, h r hr u v hupdate, ← hkey]

/-- A commit removes no row. -/
theorem Sound.later_commit (h : Sound w) (v : Option ℕ) : Later v w (w.commitRows i) :=
  ⟨fun hclaim => hclaim.commit h.rows.claimsKept i, fun hkey => hkey.commit h.rows.preKeysKept i⟩

/-- An abort removes no row of another transaction. -/
theorem later_abort (hother : v ≠ some i) : Later v w (w.abortRows i) :=
  ⟨fun hclaim => hclaim.abort hother, fun hkey => hkey.abort hother⟩

/-- What a transaction claimed is claimed for all when it commits. -/
theorem Sound.claimed_commit (h : Sound w) {id : Uuid} {time : ℕ} (hclaimed : Claimed (some i) w id time) :
    Claimed none (w.commitRows i) id time := by
  obtain ⟨claim, hclaim, hkey, htime⟩ := hclaimed
  exact ⟨claim, hclaim.publish h.rows.claimsKept, hkey, htime⟩

/-- A commit keeps the rows sound. -/
theorem RowsSound.commit (h : Sound w) {tr : Transaction} (hi : w.transactions[i]? = some tr)
    (hmarked : tr.job.marked = none) : RowsSound (w.commitRows i) := by
  have hids : Keeps (fun key : OneTimePreKey => key.id) w.preKeys :=
    Keeps.preKey h.rows.preKeysKept _ fun _ => rfl
  refine ⟨h.rows.claimIds.commit (Keeps.claim h.rows.claimsKept _) i,
    h.rows.requests.commit (Keeps.claim h.rows.claimsKept _) i,
    h.rows.claimKeys.commit (Keeps.claim h.rows.claimsKept _) i, h.rows.claimsKept.commit i,
    h.rows.preKeyIds.commit (Keeps.preKey h.rows.preKeysKept _ fun _ => rfl) i,
    h.rows.preKeysKept.commit i, ?_, ?_⟩
  · intro r' hr' k hk
    obtain ⟨r, hr, rfl⟩ := List.mem_map.mp hr'
    have hvalue : (r.commit i).value = r.value :=
      Row.version_eq h.rows.claimsKept hr i
    rw [hvalue] at hk
    have hthere := h.rows.referenced r hr k hk
    by_cases hmine : r.insertedBy = some i
    · rw [show (r.commit i).insertedBy = none from if_pos hmine]
      rw [hmine] at hthere
      exact hthere.publish hids
    · rw [show (r.commit i).insertedBy = r.insertedBy from if_neg hmine]
      exact hthere.commit hids i
  · intro r' hr' time htime
    obtain ⟨r, hr, rfl⟩ := List.mem_map.mp hr'
    have hid : (r.commit i).value.id = r.value.id := Row.key_version hids hr i
    rw [hid]
    exact h.claimed_commit (h.claimed_of_version hi hmarked hr htime)

/-- **A commit.** -/
theorem Sound.commit (h : Sound w) {tr : Transaction} (hi : w.transactions[i]? = some tr)
    (hmarked : tr.job.marked = none) : Sound ((w.commitRows i).finish i tr) := by
  have hrows := RowsSound.commit h hi hmarked
  refine h.move hi rfl ⟨hrows.claimIds, hrows.requests,
    hrows.claimKeys, hrows.claimsKept, hrows.preKeyIds, hrows.preKeysKept, hrows.referenced,
    hrows.marks⟩ ?_ (JobSound.empty rfl rfl) ?_ ?_
  · intro j _
    have hlater := h.later_commit (i := i) (some j)
    exact ⟨hlater.claims, hlater.preKeys⟩
  · intro r' hr' t key time hupdate htime
    obtain ⟨r, hr, rfl⟩ := List.mem_map.mp hr'
    have hid : (r.commit i).value.id = r.value.id :=
      Row.key_version (Keeps.preKey h.rows.preKeysKept _ fun _ => rfl) hr i
    rw [Row.commit] at hupdate
    simp only at hupdate
    split_ifs at hupdate with hlocked
    rw [hid]
    have hne : t ≠ i := by
      rw [Row.lockedAgainst, hupdate] at hlocked
      simpa using hlocked
    rcases h.marking r hr t key time hupdate htime with hclaimed | hpending
    · have hlater := h.later_commit (i := i) (some t)
      exact .inl (hclaimed.later ⟨hlater.claims, hlater.preKeys⟩)
    · exact .inr (.inr ⟨hne, hpending⟩)
  · intro r' hr' t ht
    obtain ⟨r, hr, rfl⟩ := List.mem_map.mp hr'
    have hvalue : (r.commit i).value = r.value :=
      Row.version_eq h.rows.claimsKept hr i
    rw [Row.commit] at ht
    simp only at ht
    split_ifs at ht with hmine
    refine .inr ⟨?_, r, hr, ht, hvalue.symm⟩
    rintro rfl
    exact hmine ht

theorem RowsSound.abort (h : RowsSound w) : RowsSound (w.abortRows i) := by
  refine ⟨h.claimIds.abort i, h.requests.abort i, h.claimKeys.abort i, h.claimsKept.abort i,
    h.preKeyIds.abort i, h.preKeysKept.abort i, ?_, ?_⟩
  · intro r' hr' k hk
    obtain ⟨r, hr, rfl⟩ := List.mem_map.mp hr'
    obtain ⟨hmem, hother⟩ := List.mem_filter.mp hr
    exact (h.referenced r hmem k hk).abort (by simpa using hother)
  · intro r' hr' time htime
    obtain ⟨r, hr, rfl⟩ := List.mem_map.mp hr'
    exact (h.marks r (List.mem_filter.mp hr).1 time htime).later (later_abort nofun)

/-- **An abort.** -/
theorem Sound.abort (h : Sound w) {tr : Transaction} (hi : w.transactions[i]? = some tr) :
    Sound ((w.abortRows i).finish i tr) := by
  have hrows := h.rows.abort (i := i)
  refine h.move hi rfl ⟨hrows.claimIds, hrows.requests,
    hrows.claimKeys, hrows.claimsKept, hrows.preKeyIds, hrows.preKeysKept, hrows.referenced,
    hrows.marks⟩ ?_ (JobSound.empty rfl rfl) ?_ ?_
  · intro j hne
    have hlater := later_abort (w := w) (i := i) (v := some j) (by simpa using hne)
    exact ⟨hlater.claims, hlater.preKeys⟩
  · intro r' hr' t key time hupdate htime
    obtain ⟨r, hr, rfl⟩ := List.mem_map.mp hr'
    rw [Row.rollBack] at hupdate
    simp only at hupdate
    split_ifs at hupdate with hlocked
    have hne : t ≠ i := by
      rw [Row.lockedAgainst, hupdate] at hlocked
      simpa using hlocked
    rcases h.marking r (List.mem_filter.mp hr).1 t key time hupdate htime with hclaimed | hpending
    · have hlater := later_abort (w := w) (i := i) (v := some t) (by simpa using hne)
      exact .inl (hclaimed.later ⟨hlater.claims, hlater.preKeys⟩)
    · exact .inr (.inr ⟨hne, hpending⟩)
  · intro r' hr' t ht
    obtain ⟨r, hr, rfl⟩ := List.mem_map.mp hr'
    obtain ⟨hmem, hother⟩ := List.mem_filter.mp hr
    refine .inr ⟨?_, r, hmem, ht, rfl⟩
    rintro rfl
    simp only [decide_eq_true_eq] at hother
    exact hother ht

end PreKeys

end SinoChat
