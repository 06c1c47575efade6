import SinoChat.Common.Sorting
import SinoChat.Model.Storage
import SinoChat.Model.ToDevice

/-!
# Purging the versions of an object

`ObjectStorageService.delete` in the mode `purge-all`: list by prefix, delete
the versions and delete markers of the exact key, and list again from the
start until a listing holds none of them.

The provider keeps its versions in one fixed order of their keys, `precedes`.
Between any two calls others may change the store at will, and every call may
fail: a call that is rejected, and a deletion that reports errors, may have
removed part of what it named. All of this is `StoreEvents`.
-/

namespace SinoChat

open Js

/-- A version of an object, or a delete marker. -/
structure ObjectVersion where
  key : JsString
  versionId : JsString
  deleteMarker : Bool
  deriving DecidableEq

/-- What a deletion names: the key and the id of a version. -/
abbrev VersionName := JsString × JsString

/-- What names a version in a request. -/
def ObjectVersion.name (version : ObjectVersion) : VersionName := (version.key, version.versionId)

/-- The versions of a bucket in the order of the provider. An id names one
version of its key and is text that needs no quoting in a URL. -/
structure VersionStore (precedes : JsString → JsString → Prop) where
  versions : List ObjectVersion
  named : (versions.map ObjectVersion.name).Nodup
  quoteless : ∀ version ∈ versions, version.versionId ≠ [] ∧ 0x0A ∉ version.versionId
  ordered : versions.Pairwise fun a b => precedes a.key b.key

variable {precedes : JsString → JsString → Prop}

namespace VersionStore

/-- The store without the versions that meet a condition. -/
def without (store : VersionStore precedes) (condition : ObjectVersion → Bool) :
    VersionStore precedes where
  versions := store.versions.filter fun version => !condition version
  named := store.named.sublist (List.filter_sublist.map _)
  quoteless := fun version hversion => store.quoteless version (List.mem_of_mem_filter hversion)
  ordered := store.ordered.filter _

/-- `ListObjectVersionsCommand`, without a marker: the first versions and
delete markers of the keys that begin with a prefix. -/
def listObjectVersions (store : VersionStore precedes) (keyPrefix : JsString) (maxKeys : ℕ) :
    List ObjectVersion :=
  (store.versions.filter fun version => keyPrefix.isPrefixOf version.key).take maxKeys

/-- `DeleteObjectsCommand` removes the versions it names. -/
def deleteObjects (store : VersionStore precedes) (names : List VersionName) :
    VersionStore precedes :=
  store.without fun version => names.contains version.name

end VersionStore

/-- `MAX_VERSION_PURGE_BATCHES`. -/
def maxVersionPurgeBatches : ℕ := 10000

/-- `MaxKeys`. -/
def purgeMaxKeys : ℕ := 1000

/-- An entry of `Errors`. -/
structure DeleteError where
  code : Option JsString

/-- What happens around the calls of a purge, which are counted from zero. -/
structure StoreEvents (precedes : JsString → JsString → Prop) where
  /-- What others do before a call. -/
  others : ℕ → VersionStore precedes → VersionStore precedes
  /-- The promise of the call is rejected. -/
  rejects : ℕ → Bool
  /-- What the call could not remove. -/
  failure : ℕ → VersionName → Option DeleteError

/-- A response that reports an error, or a call that fails. -/
inductive PurgeError where
  | rejected
  | thrown (message : JsString)
  deriving DecidableEq

/-- How a purge ends: with the store it leaves and the versions it removed. -/
structure PurgeOutcome (precedes : JsString → JsString → Prop) where
  result : Except PurgeError Unit
  store : VersionStore precedes
  removed : List ObjectVersion

/-- The versions of a page that belong to the key: first those of
`Versions`, then those of `DeleteMarkers`. -/
def versionsToPurge (key : JsString) (page : List ObjectVersion) : List VersionName :=
  ((page.filter (fun version => !version.deleteMarker) ++
      page.filter fun version => version.deleteMarker).filter fun version =>
    version.key == key && version.versionId != []).map fun version => (key, version.versionId)

/-- The fingerprint of a batch. -/
def batchFingerprint (names : List VersionName) : JsString :=
  List.intercalate [0x0A] ((names.map fun name => name.1 ++ [0x00] ++ name.2).sortBy unitOrder)

/-- The message for the errors of a deletion. -/
def deleteFailed (errors : List DeleteError) : JsString :=
  js "OBJECT_VERSION_DELETE_FAILED:" ++ (errors.head?.bind DeleteError.code).getD (js "UNKNOWN")

/-- The loop of `delete`, for the batches that are left. -/
def purgeVersions (events : StoreEvents precedes) (key : JsString) :
    ℕ → ℕ → Option JsString → VersionStore precedes → PurgeOutcome precedes
  | 0, _, _, store => ⟨.error (.thrown (js "OBJECT_VERSION_PURGE_LIMIT_REACHED")), store, []⟩
  | batches + 1, call, previous, store =>
    let listed := events.others call store
    if events.rejects call then ⟨.error .rejected, listed, []⟩
    else
      let versions := versionsToPurge key (listed.listObjectVersions key purgeMaxKeys)
      if versions = [] then ⟨.ok (), listed, []⟩
      else if previous = some (batchFingerprint versions) then
        ⟨.error (.thrown (js "OBJECT_VERSION_DELETE_NOT_VISIBLE")), listed, []⟩
      else
        let found := events.others (call + 1) listed
        let gone := versions.filter fun name => (events.failure (call + 1) name).isNone
        let errors := versions.filterMap (events.failure (call + 1))
        let removed := found.versions.filter fun version => gone.contains version.name
        let store := found.deleteObjects gone
        if events.rejects (call + 1) then ⟨.error .rejected, store, removed⟩
        else if errors ≠ [] then ⟨.error (.thrown (deleteFailed errors)), store, removed⟩
        else
          let rest := purgeVersions events key batches (call + 2)
            (some (batchFingerprint versions)) store
          { rest with removed := removed ++ rest.removed }

/-- **`delete`** in the mode `purge-all`. -/
def purgeAll (events : StoreEvents precedes) (key : JsString) (store : VersionStore precedes) :
    PurgeOutcome precedes :=
  purgeVersions events key maxVersionPurgeBatches 0 none store

/-- Nobody else writes, and every call succeeds. -/
def StoreEvents.quiet : StoreEvents precedes where
  others := fun _ store => store
  rejects := fun _ => false
  failure := fun _ _ => none

end SinoChat
