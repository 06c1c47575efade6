import SinoChat.Common.JsString

/-!
# The object storage

The bucket as its callers see it: the keys an object exists under, and the
upload URLs that were signed. `putObject` is the provider's side of a signed
URL: it takes the object until the URL expires, and `If-None-Match: *`
refuses a key that exists. Versions are not kept apart: in either mode of
the source a deletion that succeeds leaves nothing under the key.
-/

namespace SinoChat

open Js

/-- A presigned PUT. -/
structure UploadUrl where
  key : JsString
  expiresAt : ℕ
  deriving DecidableEq

/-- The keys with an object, and the URLs signed so far. -/
structure ObjectStorage where
  objects : List JsString
  urls : List UploadUrl

namespace ObjectStorage

/-- `expiresInSeconds`, in milliseconds. -/
def uploadExpiresIn : ℕ := 5 * 60 * 1000

/-- Sign an upload URL. -/
def presignUpload (storage : ObjectStorage) (key : JsString) (signingDate : ℕ) : ObjectStorage :=
  { storage with urls := ⟨key, signingDate + uploadExpiresIn⟩ :: storage.urls }

/-- Some signed URL of the key is still valid. -/
def accepts (storage : ObjectStorage) (key : JsString) (now : ℕ) : Prop :=
  (∃ url ∈ storage.urls, url.key = key ∧ now < url.expiresAt) ∧ key ∉ storage.objects

/-- Store an object. -/
def putObject (storage : ObjectStorage) (key : JsString) : ObjectStorage :=
  { storage with objects := key :: storage.objects }

/-- Remove an object, if there is one. -/
def delete (storage : ObjectStorage) (key : JsString) : ObjectStorage :=
  { storage with objects := storage.objects.filter (· ≠ key) }

@[simp] theorem urls_putObject (storage : ObjectStorage) (key : JsString) :
    (storage.putObject key).urls = storage.urls := rfl

@[simp] theorem urls_delete (storage : ObjectStorage) (key : JsString) :
    (storage.delete key).urls = storage.urls := rfl

@[simp] theorem objects_presignUpload (storage : ObjectStorage) (key : JsString)
    (signingDate : ℕ) : (storage.presignUpload key signingDate).objects = storage.objects := rfl

@[simp] theorem mem_objects_putObject {storage : ObjectStorage} {key k : JsString} :
    k ∈ (storage.putObject key).objects ↔ k = key ∨ k ∈ storage.objects := List.mem_cons

@[simp] theorem mem_objects_delete {storage : ObjectStorage} {key k : JsString} :
    k ∈ (storage.delete key).objects ↔ k ∈ storage.objects ∧ k ≠ key := by
  simp [delete]

/-- Every signed URL of a key has expired. -/
def Sealed (storage : ObjectStorage) (key : JsString) (now : ℕ) : Prop :=
  ∀ url ∈ storage.urls, url.key = key → url.expiresAt ≤ now

theorem Sealed.mono {storage : ObjectStorage} {key : JsString} {now later : ℕ}
    (h : storage.Sealed key now) (hle : now ≤ later) : storage.Sealed key later :=
  fun url hu hk => Nat.le_trans (h url hu hk) hle

/-- A key whose URLs have expired takes no upload. -/
theorem Sealed.not_accepts {storage : ObjectStorage} {key : JsString} {now : ℕ}
    (h : storage.Sealed key now) : ¬ storage.accepts key now := by
  rintro ⟨⟨url, hu, hk, hlt⟩, -⟩
  exact Nat.not_lt.mpr (h url hu hk) hlt

end ObjectStorage

end SinoChat
