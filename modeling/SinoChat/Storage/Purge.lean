import SinoChat.Model.VersionPurge

/-!
# A version purge is complete

The loop of `purgeVersions` names versions of its own key only, so it removes
nothing else whatever happens around it (`removed_key`). It ends when a page
holds no version of the key. That says that none is left where the provider
lists a key before the keys that extend it (`PrefixFirst`): then the versions
of the key fill the page from the start (`mem_versionsToPurge_list`). In a
provider with another order the page can be full of longer keys.

Undisturbed, every batch takes the first 1000 versions of the key away
(`exactVersions_deleteObjects`) and no batch repeats the one before it
(`batchFingerprint_injective`), so the loop ends in good time.
-/

namespace List

variable {α : Type*}

/-- Where the items with a property come first, the first of the list with
the property are the first with the property of the list. -/
theorem filter_take_of_pairwise {p : α → Bool} {l : List α} (n : ℕ)
    (h : l.Pairwise fun a b => p b = true → p a = true) :
    (l.take n).filter p = (l.filter p).take n := by
  induction l generalizing n with
  | nil => simp
  | cons a l ih =>
    obtain ⟨hhead, htail⟩ := List.pairwise_cons.mp h
    cases n with
    | zero => simp
    | succ n =>
      rw [List.take_succ_cons]
      by_cases ha : p a = true
      · rw [List.filter_cons_of_pos ha, List.filter_cons_of_pos ha, List.take_succ_cons, ih n htail]
      · -- without the property at the head nobody has it
        have hnone : ∀ b ∈ l, ¬ p b = true := fun b hb hpb => ha (hhead b hb hpb)
        have htake : ∀ b ∈ l.take n, ¬ p b = true := fun b hb => hnone b (List.mem_of_mem_take hb)
        rw [List.filter_cons_of_neg ha, List.filter_cons_of_neg ha,
          List.filter_eq_nil_iff.mpr hnone, List.filter_eq_nil_iff.mpr htake, List.take_nil]

end List

namespace SinoChat

open Js

variable {precedes : JsString → JsString → Prop}

/-! ## The versions of a key -/

/-- The versions and delete markers of exactly a key. -/
def exactVersions (store : VersionStore precedes) (key : JsString) : List ObjectVersion :=
  store.versions.filter fun version => version.key == key

theorem mem_exactVersions {store : VersionStore precedes} {key : JsString}
    {version : ObjectVersion} :
    version ∈ exactVersions store key ↔ version ∈ store.versions ∧ version.key = key := by
  simp [exactVersions]

/-- The names in a batch are those of the page's versions of the key. -/
theorem mem_versionsToPurge {key : JsString} {page : List ObjectVersion} {name : VersionName} :
    name ∈ versionsToPurge key page ↔
      ∃ version ∈ page, version.key = key ∧ version.versionId ≠ [] ∧ version.name = name := by
  have hpage : ∀ version : ObjectVersion,
      (version ∈ page.filter (fun version => !version.deleteMarker) ++
        page.filter fun version => version.deleteMarker) ↔ version ∈ page := by
    intro version
    cases hmarker : version.deleteMarker <;> simp [hmarker]
  unfold versionsToPurge
  simp only [List.mem_map, List.mem_filter, hpage, Bool.and_eq_true, beq_iff_eq, bne_iff_ne]
  constructor
  · rintro ⟨version, ⟨hmem, hkey, hid⟩, rfl⟩
    exact ⟨version, hmem, hkey, hid, by rw [ObjectVersion.name, hkey]⟩
  · rintro ⟨version, hmem, hkey, hid, rfl⟩
    exact ⟨version, ⟨hmem, hkey, hid⟩, by rw [ObjectVersion.name, hkey]⟩

theorem versionsToPurge_key {key : JsString} {page : List ObjectVersion} {name : VersionName}
    (h : name ∈ versionsToPurge key page) : name.1 = key := by
  obtain ⟨version, -, hkey, -, rfl⟩ := mem_versionsToPurge.mp h
  exact hkey

/-- **A purge removes versions of its key only**, whatever others do and
whichever calls fail. -/
theorem removed_key (events : StoreEvents precedes) (key : JsString) (batches call : ℕ)
    (previous : Option JsString) (store : VersionStore precedes) :
    ∀ version ∈ (purgeVersions events key batches call previous store).removed,
      version.key = key := by
  induction batches generalizing call previous store with
  | zero => simp [purgeVersions]
  | succ batches ih =>
    have hgone : ∀ (found : List ObjectVersion) (page : List ObjectVersion),
        ∀ version ∈ found.filter fun version =>
          ((versionsToPurge key page).filter fun name =>
            (events.failure (call + 1) name).isNone).contains version.name,
        version.key = key := by
      intro found page version hversion
      have hname := (List.mem_filter.mp hversion).2
      rw [List.contains_iff_mem] at hname
      exact versionsToPurge_key (List.mem_of_mem_filter hname)
    unfold purgeVersions
    dsimp only
    split_ifs
    · simp
    · simp
    · simp
    · exact hgone _ _
    · exact hgone _ _
    · intro version hversion
      rcases List.mem_append.mp hversion with hnow | hlater
      · exact hgone _ _ version hnow
      · exact ih _ _ _ version hlater

/-! ## The order of the provider -/

/-- The provider lists a key before the keys that extend it. -/
structure PrefixFirst (precedes : JsString → JsString → Prop) : Prop where
  antisymm : ∀ a b, precedes a b → precedes b a → a = b
  extension : ∀ a b : JsString, a <+: b → precedes a b

/-- **A page holds the first versions of the key.** -/
theorem filter_listObjectVersions (h : PrefixFirst precedes) (store : VersionStore precedes)
    (key : JsString) (maxKeys : ℕ) :
    (store.listObjectVersions key maxKeys).filter (fun version => version.key == key) =
      (exactVersions store key).take maxKeys := by
  unfold VersionStore.listObjectVersions exactVersions
  rw [List.filter_take_of_pairwise, List.filter_filter]
  · congr 1
    refine List.filter_congr fun version _ => ?_
    by_cases hkey : version.key = key
    · simp [hkey]
    · simp [hkey]
  · refine (store.ordered.filter _).imp_of_mem ?_
    intro a b ha _ hle hb
    rw [beq_iff_eq] at hb ⊢
    have hprefix : key <+: a.key := List.isPrefixOf_iff_prefix.mp (List.mem_filter.mp ha).2
    exact h.antisymm _ _ (hb ▸ hle) (h.extension _ _ hprefix)

/-- So the batch of a page names the first versions of the key. -/
theorem mem_versionsToPurge_list (h : PrefixFirst precedes) {store : VersionStore precedes}
    {key : JsString} {maxKeys : ℕ} {name : VersionName} :
    name ∈ versionsToPurge key (store.listObjectVersions key maxKeys) ↔
      ∃ version ∈ (exactVersions store key).take maxKeys, version.name = name := by
  rw [mem_versionsToPurge, ← filter_listObjectVersions h]
  constructor
  · rintro ⟨version, hmem, hkey, -, rfl⟩
    exact ⟨version, List.mem_filter.mpr ⟨hmem, by simpa using hkey⟩, rfl⟩
  · rintro ⟨version, hmem, rfl⟩
    obtain ⟨hlisted, hkey⟩ := List.mem_filter.mp hmem
    have hstored : version ∈ store.versions :=
      List.mem_of_mem_filter (List.mem_of_mem_take hlisted)
    exact ⟨version, hlisted, by simpa using hkey, (store.quoteless version hstored).1, rfl⟩

theorem versionsToPurge_eq_nil (h : PrefixFirst precedes) {store : VersionStore precedes}
    {key : JsString} (hnil : versionsToPurge key (store.listObjectVersions key purgeMaxKeys) = []) :
    exactVersions store key = [] := by
  cases hversions : exactVersions store key with
  | nil => rfl
  | cons version rest =>
    have hname : version.name ∈ versionsToPurge key (store.listObjectVersions key purgeMaxKeys) := by
      refine (mem_versionsToPurge_list h).mpr ⟨version, ?_, rfl⟩
      rw [hversions]
      exact List.mem_cons_self
    rw [hnil] at hname
    cases hname

/-- **A purge that returns leaves nothing of its key.** -/
theorem exactVersions_of_ok (h : PrefixFirst precedes) (events : StoreEvents precedes)
    (key : JsString) (batches call : ℕ) (previous : Option JsString)
    (store : VersionStore precedes)
    (hok : (purgeVersions events key batches call previous store).result = .ok ()) :
    exactVersions (purgeVersions events key batches call previous store).store key = [] := by
  induction batches generalizing call previous store with
  | zero => cases hok
  | succ batches ih =>
    unfold purgeVersions at hok ⊢
    dsimp only at hok ⊢
    split_ifs at hok ⊢ with hrejects hnil hrepeated hlost herrors
    · exact versionsToPurge_eq_nil h hnil
    · exact ih _ _ _ hok

/-! ## Fingerprints -/

/-- Two texts without a unit, each followed by nothing or by that unit. -/
theorem append_inj_of_not_mem {u : UInt16} {s t r r' : JsString} (hs : u ∉ s) (ht : u ∉ t)
    (hr : r = [] ∨ r.head? = some u) (hr' : r' = [] ∨ r'.head? = some u)
    (h : s ++ r = t ++ r') : s = t ∧ r = r' := by
  have htake : ∀ {s r : JsString}, u ∉ s → (r = [] ∨ r.head? = some u) →
      (s ++ r).takeWhile (· != u) = s := by
    intro s r hs hr
    have hall : ∀ v ∈ s, (v != u) = true := by
      intro v hv
      rw [bne_iff_ne]
      rintro rfl
      exact hs hv
    rw [List.takeWhile_append_of_pos hall]
    cases r with
    | nil => simp
    | cons v rest =>
      rcases hr with hnil | hhead
      · cases hnil
      · obtain rfl := Option.some.inj hhead
        simp
  have hst : s = t := by rw [← htake hs hr, h, htake ht hr']
  subst hst
  exact ⟨rfl, List.append_cancel_left h⟩

/-- Lines that all begin with one text, and go on without a line break. -/
def LinesOf (start : JsString) (lines : List JsString) : Prop :=
  ∀ line ∈ lines, ∃ id : JsString, (0x0A : UInt16) ∉ id ∧ line = start ++ id

/-- **Joined lines can be told apart** when all begin with the same text,
even if that text has line breaks. -/
theorem intercalate_injective {start : JsString} (hstart : start ≠ []) {ls ms : List JsString}
    (hls : LinesOf start ls) (hms : LinesOf start ms)
    (h : List.intercalate [0x0A] ls = List.intercalate [0x0A] ms) : ls = ms := by
  have hjoin : ∀ (line : JsString) (rest : List JsString), ∃ behind : JsString,
      List.intercalate [0x0A] (line :: rest) = line ++ behind ∧
        (rest = [] ∧ behind = [] ∨
          rest ≠ [] ∧ behind = 0x0A :: List.intercalate [0x0A] rest) := by
    intro line rest
    cases rest with
    | nil => exact ⟨[], by simp, .inl ⟨rfl, rfl⟩⟩
    | cons next rest =>
      refine ⟨0x0A :: List.intercalate [0x0A] (next :: rest), ?_, .inr ⟨by simp, rfl⟩⟩
      rw [List.intercalate_cons_cons, List.append_assoc]
      rfl
  induction ls generalizing ms with
  | nil =>
    cases ms with
    | nil => rfl
    | cons line rest =>
      obtain ⟨id, -, rfl⟩ := hms line List.mem_cons_self
      obtain ⟨behind, hbehind, -⟩ := hjoin (start ++ id) rest
      rw [hbehind] at h
      exact absurd (List.append_eq_nil_iff.mp (List.append_eq_nil_iff.mp h.symm).1).1 hstart
  | cons line rest ih =>
    obtain ⟨id, hid, rfl⟩ := hls line List.mem_cons_self
    obtain ⟨behind, hbehind, hcase⟩ := hjoin (start ++ id) rest
    cases ms with
    | nil =>
      rw [hbehind] at h
      exact absurd (List.append_eq_nil_iff.mp (List.append_eq_nil_iff.mp h).1).1 hstart
    | cons line' rest' =>
      obtain ⟨id', hid', rfl⟩ := hms line' List.mem_cons_self
      obtain ⟨behind', hbehind', hcase'⟩ := hjoin (start ++ id') rest'
      rw [hbehind, hbehind', List.append_assoc, List.append_assoc] at h
      have hends : ∀ {rest : List JsString} {behind : JsString},
          (rest = [] ∧ behind = [] ∨
            rest ≠ [] ∧ behind = 0x0A :: List.intercalate [0x0A] rest) →
          behind = [] ∨ behind.head? = some 0x0A := by
        rintro rest behind (⟨-, rfl⟩ | ⟨-, rfl⟩)
        · exact .inl rfl
        · exact .inr rfl
      obtain ⟨rfl, hrest⟩ := append_inj_of_not_mem hid hid' (hends hcase) (hends hcase')
        (List.append_cancel_left h)
      congr 1
      rcases hcase with ⟨rfl, rfl⟩ | ⟨hne, rfl⟩ <;> rcases hcase' with ⟨rfl, rfl⟩ | ⟨hne', rfl⟩
      · rfl
      · cases hrest
      · cases hrest
      · exact ih (fun l hl => hls l (List.mem_cons_of_mem _ hl))
          (fun l hl => hms l (List.mem_cons_of_mem _ hl)) (List.cons.inj hrest).2

/-- The names of versions of a key. -/
def NamesOf (key : JsString) (names : List VersionName) : Prop :=
  ∀ name ∈ names, name.1 = key ∧ (0x0A : UInt16) ∉ name.2

/-- **A fingerprint determines the batch.** -/
theorem batchFingerprint_injective {key : JsString} {names names' : List VersionName}
    (h : NamesOf key names) (h' : NamesOf key names')
    (heq : batchFingerprint names = batchFingerprint names') (name : VersionName) :
    name ∈ names ↔ name ∈ names' := by
  have hlines : ∀ {names : List VersionName}, NamesOf key names → LinesOf (key ++ [0x00])
      ((names.map fun name => name.1 ++ [0x00] ++ name.2).sortBy unitOrder) := by
    intro names hnames line hline
    obtain ⟨name, hname, rfl⟩ := List.mem_map.mp (List.mem_sortBy.mp hline)
    obtain ⟨hkey, hid⟩ := hnames name hname
    exact ⟨name.2, hid, by rw [hkey]⟩
  have hsame := intercalate_injective (by simp) (hlines h) (hlines h') heq
  have hmem : ∀ {names : List VersionName}, NamesOf key names →
      (name ∈ names ↔ name.1 = key ∧ key ++ [0x00] ++ name.2 ∈
        (names.map fun name => name.1 ++ [0x00] ++ name.2).sortBy unitOrder) := by
    intro names hnames
    rw [List.mem_sortBy, List.mem_map]
    constructor
    · intro hname
      obtain ⟨hkey, -⟩ := hnames name hname
      exact ⟨hkey, name, hname, by rw [hkey]⟩
    · rintro ⟨hkey, other, hother, hline⟩
      obtain ⟨hotherKey, -⟩ := hnames other hother
      rw [hotherKey] at hline
      have hid := List.append_cancel_left hline
      rwa [show name = other from Prod.ext (hkey.trans hotherKey.symm) hid.symm]
  rw [hmem h, hmem h', hsame]

/-! ## Undisturbed -/

/-- A batch of the page names versions of the key. -/
theorem namesOf_versionsToPurge (store : VersionStore precedes) (key : JsString) (maxKeys : ℕ) :
    NamesOf key (versionsToPurge key (store.listObjectVersions key maxKeys)) := by
  intro name hname
  obtain ⟨version, hmem, hkey, -, rfl⟩ := mem_versionsToPurge.mp hname
  exact ⟨hkey, (store.quoteless version (List.mem_of_mem_filter (List.mem_of_mem_take hmem))).2⟩

/-- **A deletion takes the first versions of the key away.** -/
theorem exactVersions_deleteObjects (h : PrefixFirst precedes) (store : VersionStore precedes)
    (key : JsString) (maxKeys : ℕ) :
    exactVersions (store.deleteObjects
        (versionsToPurge key (store.listObjectVersions key maxKeys))) key =
      (exactVersions store key).drop maxKeys := by
  have hnames : ((exactVersions store key).map ObjectVersion.name).Nodup :=
    store.named.sublist (List.filter_sublist.map _)
  have hcontains : ∀ version : ObjectVersion,
      (versionsToPurge key (store.listObjectVersions key maxKeys)).contains version.name = true ↔
        ∃ other ∈ (exactVersions store key).take maxKeys, other.name = version.name := by
    intro version
    rw [List.contains_iff_mem, mem_versionsToPurge_list h]
  have hfilter : exactVersions (store.deleteObjects
      (versionsToPurge key (store.listObjectVersions key maxKeys))) key =
        (exactVersions store key).filter fun version =>
          !(versionsToPurge key (store.listObjectVersions key maxKeys)).contains version.name := by
    unfold exactVersions VersionStore.deleteObjects VersionStore.without
    rw [List.filter_filter, List.filter_filter]
    exact List.filter_congr fun version _ => Bool.and_comm _ _
  rw [hfilter]
  nth_rewrite 1 [← List.take_append_drop maxKeys (exactVersions store key)]
  rw [← List.take_append_drop maxKeys (exactVersions store key), List.map_append,
    List.nodup_append] at hnames
  have htaken : ((exactVersions store key).take maxKeys).filter (fun version =>
      !(versionsToPurge key (store.listObjectVersions key maxKeys)).contains version.name) = [] := by
    rw [List.filter_eq_nil_iff]
    intro version hversion
    rw [Bool.not_eq_true', Bool.not_eq_false, hcontains]
    exact ⟨version, hversion, rfl⟩
  have hdropped : ((exactVersions store key).drop maxKeys).filter (fun version =>
      !(versionsToPurge key (store.listObjectVersions key maxKeys)).contains version.name) =
        (exactVersions store key).drop maxKeys := by
    rw [List.filter_eq_self]
    intro version hversion
    rw [Bool.not_eq_true', ← Bool.not_eq_true, hcontains]
    rintro ⟨other, hother, hname⟩
    exact hnames.2.2 _ (List.mem_map.mpr ⟨other, hother, rfl⟩) _
      (List.mem_map.mpr ⟨version, hversion, rfl⟩) hname
  rw [List.filter_append, htaken, hdropped, List.nil_append]

/-- An undisturbed batch: it deletes what it names. -/
theorem purgeVersions_quiet_succ (key : JsString) (batches call : ℕ) (previous : Option JsString)
    (store : VersionStore precedes) :
    purgeVersions .quiet key (batches + 1) call previous store =
      if versionsToPurge key (store.listObjectVersions key purgeMaxKeys) = [] then
        ⟨.ok (), store, []⟩
      else if previous = some (batchFingerprint
          (versionsToPurge key (store.listObjectVersions key purgeMaxKeys))) then
        ⟨.error (.thrown (js "OBJECT_VERSION_DELETE_NOT_VISIBLE")), store, []⟩
      else
        let rest := purgeVersions .quiet key batches (call + 2) (some (batchFingerprint
          (versionsToPurge key (store.listObjectVersions key purgeMaxKeys))))
          (store.deleteObjects (versionsToPurge key (store.listObjectVersions key purgeMaxKeys)))
        { rest with removed := (store.versions.filter fun version => (versionsToPurge key
          (store.listObjectVersions key purgeMaxKeys)).contains version.name) ++ rest.removed } := by
  have hgone : ∀ names : List VersionName, names.filter (fun name =>
      ((StoreEvents.quiet : StoreEvents precedes).failure (call + 1) name).isNone) = names :=
    fun names => List.filter_eq_self.mpr fun _ _ => rfl
  have herrors : ∀ names : List VersionName,
      names.filterMap ((StoreEvents.quiet : StoreEvents precedes).failure (call + 1)) = [] :=
    fun names => List.filterMap_eq_nil_iff.mpr fun _ _ => rfl
  rw [purgeVersions]
  dsimp only
  rw [hgone, herrors]
  rfl

/-- The fingerprint kept from before is of versions that are gone. -/
def Forgotten (key : JsString) (previous : Option JsString) (store : VersionStore precedes) : Prop :=
  ∀ fingerprint, previous = some fingerprint → ∃ names, NamesOf key names ∧
    fingerprint = batchFingerprint names ∧ ∀ version ∈ store.versions, version.name ∉ names

/-- **An undisturbed purge ends** when the batches that are left are enough
for the versions that are left and a last listing. -/
theorem purgeVersions_quiet (h : PrefixFirst precedes) (key : JsString) (batches call : ℕ)
    (previous : Option JsString) (store : VersionStore precedes)
    (hprevious : Forgotten key previous store)
    (hbatches : (exactVersions store key).length ≤ purgeMaxKeys * (batches - 1))
    (hpos : 0 < batches) :
    (purgeVersions .quiet key batches call previous store).result = .ok () := by
  induction batches generalizing call previous store with
  | zero => omega
  | succ batches ih =>
    have hnames := namesOf_versionsToPurge store key purgeMaxKeys
    rw [purgeVersions_quiet_succ]
    split_ifs with hnil hrepeated
    · rfl
    · -- the versions of the last batch are gone, and this batch has one
      obtain ⟨names, hold, hfingerprint, hforgotten⟩ := hprevious _ hrepeated
      obtain ⟨name, hname⟩ := List.exists_mem_of_ne_nil _ hnil
      obtain ⟨version, hmem, -, -, rfl⟩ := mem_versionsToPurge.mp hname
      have hstored := List.mem_of_mem_filter (List.mem_of_mem_take hmem)
      exact absurd ((batchFingerprint_injective hnames hold hfingerprint _).mp hname)
        (hforgotten version hstored)
    · have hnonempty : exactVersions store key ≠ [] := by
        intro hempty
        obtain ⟨name, hname⟩ := List.exists_mem_of_ne_nil _ hnil
        obtain ⟨version, hversion, -⟩ := (mem_versionsToPurge_list h).mp hname
        rw [hempty, List.take_nil] at hversion
        cases hversion
      have hlength := List.length_pos_iff.mpr hnonempty
      refine ih (call + 2) _ _ ?_ ?_ ?_
      · intro fingerprint hsame
        refine ⟨_, hnames, (Option.some.inj hsame).symm, ?_⟩
        intro version hversion
        have hkept := (List.mem_filter.mp hversion).2
        rw [Bool.not_eq_true', ← Bool.not_eq_true, List.contains_iff_mem] at hkept
        exact hkept
      · rw [exactVersions_deleteObjects h, List.length_drop]
        simp only [Nat.add_sub_cancel] at hbatches
        cases batches with
        | zero => omega
        | succ batches =>
          rw [Nat.add_sub_cancel]
          rw [Nat.mul_succ] at hbatches
          omega
      · cases batches with
        | zero => omega
        | succ batches => omega

/-- **An undisturbed purge keeps every other key.** -/
theorem purgeVersions_quiet_others (key : JsString) (batches call : ℕ) (previous : Option JsString)
    (store : VersionStore precedes) {version : ObjectVersion} (hkey : version.key ≠ key) :
    version ∈ (purgeVersions .quiet key batches call previous store).store.versions ↔
      version ∈ store.versions := by
  induction batches generalizing call previous store with
  | zero => exact Iff.rfl
  | succ batches ih =>
    rw [purgeVersions_quiet_succ]
    split_ifs
    · exact Iff.rfl
    · exact Iff.rfl
    · dsimp only
      rw [ih, VersionStore.deleteObjects, VersionStore.without, List.mem_filter, and_iff_left]
      rw [Bool.not_eq_true', ← Bool.not_eq_true, List.contains_iff_mem]
      exact fun hname => hkey (versionsToPurge_key hname)

/-! ## The storage its callers see -/

/-- Something is stored under exactly the keys with an object. -/
def Represents (storage : ObjectStorage) (store : VersionStore precedes) : Prop :=
  ∀ key, key ∈ storage.objects ↔ ∃ version ∈ store.versions, version.key = key

/-- **A purge that returns is a deletion** of the storage its callers see. -/
theorem represents_delete (h : PrefixFirst precedes) {storage : ObjectStorage} {key : JsString}
    {store : VersionStore precedes} (hstore : Represents storage store)
    (hok : (purgeAll .quiet key store).result = .ok ()) :
    Represents (storage.delete key) (purgeAll .quiet key store).store := by
  have hnone := exactVersions_of_ok h _ key _ _ _ store hok
  intro other
  rw [ObjectStorage.mem_objects_delete, hstore other]
  constructor
  · rintro ⟨⟨version, hversion, rfl⟩, hother⟩
    exact ⟨version, (purgeVersions_quiet_others key _ _ _ store hother).mpr hversion, rfl⟩
  · rintro ⟨version, hversion, rfl⟩
    have hother : version.key ≠ key := by
      intro hkey
      have hexact := mem_exactVersions.mpr ⟨hversion, hkey⟩
      rw [purgeAll, hnone] at hexact
      cases hexact
    exact ⟨⟨version, (purgeVersions_quiet_others key _ _ _ store hother).mp hversion, rfl⟩, hother⟩

/-- **Version purges.** Whatever others do and whichever calls fail, a purge
removes versions of its key only; where the provider lists a key before the
keys that extend it, a purge that returns leaves no version and no delete
marker of its key, and an undisturbed one returns if the batches before the
last listing are enough. -/
theorem version_purge_complete (precedes : JsString → JsString → Prop) :
    (∀ (events : StoreEvents precedes) (key : JsString) (store : VersionStore precedes),
      ∀ version ∈ (purgeAll events key store).removed, version.key = key) ∧
    (PrefixFirst precedes →
      ∀ (events : StoreEvents precedes) (key : JsString) (store : VersionStore precedes),
        (purgeAll events key store).result = .ok () →
        ∀ version ∈ (purgeAll events key store).store.versions, version.key ≠ key) ∧
    (PrefixFirst precedes → ∀ (key : JsString) (store : VersionStore precedes),
      (exactVersions store key).length ≤ purgeMaxKeys * (maxVersionPurgeBatches - 1) →
      (purgeAll .quiet key store).result = .ok ()) := by
  refine ⟨?_, ?_, ?_⟩
  · exact fun events key store => removed_key events key _ _ _ store
  · intro hfirst events key store hok version hversion hkey
    have hexact := mem_exactVersions.mpr ⟨hversion, hkey⟩
    rw [purgeAll, exactVersions_of_ok hfirst events key _ _ _ store hok] at hexact
    cases hexact
  · intro hfirst key store hbatches
    exact purgeVersions_quiet hfirst key _ _ none store (by rintro _ ⟨⟩) hbatches (by decide)

namespace VersionSample

/-- The order of S3: by the units of the keys. -/
def ascending (a b : JsString) : Prop := unitOrder a ≤ unitOrder b

instance (a b : JsString) : Decidable (ascending a b) := inferInstanceAs (Decidable (_ ≤ _))

theorem prefixFirst_ascending : PrefixFirst ascending where
  antisymm := fun a b hab hba =>
    List.map_injective_iff.mpr (fun _ _ h => UInt16.toNat_inj.mp h) (le_antisymm hab hba)
  extension := by
    rintro a b ⟨rest, rfl⟩
    unfold ascending unitOrder
    induction a with
    | nil =>
      cases rest with
      | nil => exact le_rfl
      | cons u rest => exact le_of_lt List.Lex.nil
    | cons u a ih => exact List.cons_le_cons _ ih

/-- An object with a version, a delete marker and an older version, beside
one whose key is longer. -/
def store : VersionStore ascending where
  versions := [⟨js "a/1", js "v3", true⟩, ⟨js "a/1", js "v2", false⟩, ⟨js "a/1", js "v1", false⟩,
    ⟨js "a/10", js "w1", false⟩]
  named := by decide
  quoteless := by decide
  ordered := by decide

theorem version_purge_sample : (purgeAll .quiet (js "a/1") store).result = .ok () ∧
    ∀ version ∈ (purgeAll .quiet (js "a/1") store).store.versions, version.key ≠ js "a/1" := by
  obtain ⟨-, hempty, hreturns⟩ := version_purge_complete ascending
  have hok := hreturns prefixFirst_ascending (js "a/1") store (by decide)
  exact ⟨hok, hempty prefixFirst_ascending _ _ store hok⟩

/-! ## Another order -/

/-- Keys from the last to the first. -/
def descending (a b : JsString) : Prop := unitOrder b ≤ unitOrder a

instance (a b : JsString) : Decidable (descending a b) := inferInstanceAs (Decidable (_ ≤ _))

/-- 1000 versions of a longer key, listed before the object itself. -/
def crowded : VersionStore descending where
  versions := (List.range 1000).map (fun n => ⟨js "a/10", decimal n, false⟩) ++
    [⟨js "a/1", js "v1", false⟩]
  named := by
    rw [List.map_append, List.map_map]
    refine List.Nodup.append (List.Nodup.map ?_ List.nodup_range) (List.nodup_singleton _) ?_
    · intro m n heq
      exact decimal_injective (Prod.ext_iff.mp heq).2
    · intro name hname hlast
      obtain ⟨n, -, rfl⟩ := List.mem_map.mp hname
      have hkey : js "a/10" = js "a/1" := (Prod.ext_iff.mp (List.mem_singleton.mp hlast)).1
      exact absurd hkey (by decide)
  quoteless := by
    intro version hversion
    rcases List.mem_append.mp hversion with hlong | hlast
    · obtain ⟨n, -, rfl⟩ := List.mem_map.mp hlong
      refine ⟨decimal_ne_nil n, fun hmem => ?_⟩
      have hdigit := isDigit_of_mem_decimal hmem
      revert hdigit
      decide
    · obtain rfl := List.mem_singleton.mp hlast
      decide
  ordered := by
    have hkeys : descending (js "a/10") (js "a/10") ∧ descending (js "a/10") (js "a/1") := by
      decide
    refine List.pairwise_append.mpr ⟨List.pairwise_map.mpr ?_, List.pairwise_singleton _ _, ?_⟩
    · exact List.pairwise_of_forall fun _ _ => hkeys.1
    · intro a ha b hb
      obtain ⟨n, -, rfl⟩ := List.mem_map.mp ha
      obtain rfl := List.mem_singleton.mp hb
      exact hkeys.2

/-- **In another order the page can be full**: the purge returns at once and
the object is still there. -/
theorem not_purged_descending : (purgeAll .quiet (js "a/1") crowded).result = .ok () ∧
    ∃ version ∈ (purgeAll .quiet (js "a/1") crowded).store.versions, version.key = js "a/1" := by
  have hpage : versionsToPurge (js "a/1") (crowded.listObjectVersions (js "a/1") purgeMaxKeys) =
      [] := by
    decide +kernel
  have hreturns : purgeAll .quiet (js "a/1") crowded = ⟨.ok (), crowded, []⟩ := by
    rw [purgeAll, show maxVersionPurgeBatches = 9999 + 1 from rfl, purgeVersions_quiet_succ,
      if_pos hpage]
  rw [hreturns]
  exact ⟨rfl, ⟨js "a/1", js "v1", false⟩, List.mem_append_right _ (List.mem_singleton_self _), rfl⟩

end VersionSample

end SinoChat
