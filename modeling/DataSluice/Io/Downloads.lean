/-
# Downloads into a directory

`Downloader.download` takes the bytes of a resource from the cache or from its URL, checks their
digest where one is expected, caches them, and writes them under a name that it makes from the
name of the resource. `download_many` does so for one resource after the other and passes over
those that fail. The application pairs what it returns with the resources.

The transport, the cache, the name service and the disk are the environment. What stands in a
file is known from what was written to it. Two names may lead to one file.
-/

import DataSluice.Io.FollowRedirects

namespace DataSluice.Io.Downloads

open DataSluice.Lib DataSluice.Lib.Url DataSluice.Domain

/-! ## What is downloaded, and where to -/

/-- `bytes` -/
abbrev Bytes : Type := List UInt8

/-- The fields of a `Resource` that a download reads. -/
structure Resource where
  id : Text
  name : Option Text
  url : Option Text
  deriving DecidableEq

/-- `safe_filename`; the table of `str.isalnum` stands outside. -/
def safeFilename (isAlnum : Char → Bool) (name : Text) : Text :=
  name.filter fun character => isAlnum character || ['-', '_', '.', ' '].contains character

/-- `resource.name or resource.id` -/
def Resource.label (resource : Resource) : Text :=
  match resource.name with
  | some (first :: rest) => first :: rest
  | _ => resource.id

/-- `filename or safe_filename(resource.name or resource.id) or "resource"` -/
def fileName (isAlnum : Char → Bool) (filename : Option Text) (resource : Resource) : Text :=
  match filename with
  | some (first :: rest) => first :: rest
  | _ =>
      match safeFilename isAlnum resource.label with
      | [] => "resource".toList
      | first :: rest => first :: rest

/-- What stands at the destination. -/
inductive Kind
  | directory
  | absent
  | file
  deriving DecidableEq

/-- A path: the destination itself, a name in it, or what a storage returned. -/
inductive Path
  | destination
  | inside (name : Text)
  | stored (uri : Text)
  deriving DecidableEq

/-! ## The environment -/

/-- What the outside raises. -/
inductive Raised (Error : Type)
  | /-- `TransportError` -/
    transport (error : Error)
  | /-- `OSError` -/
    os (error : Error)
  | other (error : Error)

/-- What a download raises. -/
inductive Failure (Error : Type)
  | /-- `DownloadError`: the resource has no URL. -/
    noUrl (id : Text)
  | /-- `DownloadError` of `follow_redirects` -/
    redirect (fault : RedirectFault)
  | /-- `DownloadError`: the request to this URL failed. -/
    failed (shown : String) (error : Error)
  | /-- `ChecksumMismatchError`, a `DownloadError` -/
    checksumMismatch (shown : String) (expected actual : Text)
  | /-- `DownloadError`: the file cannot be written. -/
    unwritable (path : Path) (error : Error)
  | /-- `DownloadError`: a directory was given without a name. -/
    filenameRequired
  | /-- `DownloadError` of the application -/
    incomplete
  | /-- `AssertionError("unreachable")` -/
    unreachable
  | raised (error : Raised Error)

/-- `except (DownloadError, OSError)` -/
def Failure.isSkipped {Error : Type} : Failure Error → Bool
  | noUrl _ | redirect _ | failed _ _ | checksumMismatch _ _ _ | unwritable _ _
  | filenameRequired | incomplete => true
  | unreachable => false
  | raised (.os _) => true
  | raised _ => false

/-- What a download calls outside. -/
inductive DownloadOp
  | lookup
  | send (url : Text)
  | cacheGet (key : Text)
  | cachePut (key : Text) (data : Bytes)
  | cacheDelete (key : Text)
  | /-- `hashlib.new(algorithm, data).hexdigest()` -/
    digest (algorithm : Text) (data : Bytes)
  | /-- `mkdir(parents=True, exist_ok=True)` of the destination, or of its parent -/
    makeDirectory (ofParent : Bool)
  | /-- `storage.write` -/
    store (data : Bytes) (name : Text)
  | writeBytes (path : Path) (data : Bytes)
  | /-- `os.chmod(path, 0o600)` -/
    chmod (path : Path)
  | stat (path : Path)

@[reducible] def DownloadOp.Reply : DownloadOp → Type
  | .lookup => NameService
  | .send _ => HttpResponse Bytes
  | .cacheGet _ => Option Bytes
  | .digest _ _ | .store _ _ => Text
  | _ => Unit

variable {Error : Type}

/-- A call returns or raises. -/
abbrev DownloadOp.Answer (Error : Type) (op : DownloadOp) : Type :=
  Except (Raised Error) op.Reply

abbrev DownloadHistory (Error : Type) : Type := List (Happening (DownloadOp.Answer Error))

abbrev DownloadWorld (Error : Type) : Type := World (DownloadOp.Answer Error) Unit

/-- A program of the downloader. -/
abbrev Download (Error α : Type) : Type := Effect (DownloadWorld Error) (Failure Error) α

/-! ## The downloader -/

/-- The fields of `Downloader`, as far as they are not called, with what the platform knows. -/
structure Downloader where
  unicode : UnicodeData
  addresses : AddressData
  isAlnum : Char → Bool
  hasStorage : Bool
  hasCache : Bool
  allowPrivateHttp : Bool

namespace Downloader

variable (downloader : Downloader) (environment : Environment (DownloadOp.Answer Error))

/-- Call the outside. -/
def call (op : DownloadOp) : Download Error op.Reply :=
  (ask environment op).mapError .raised

/-- `send` of `_fetch` -/
def send (url : Text) : Download Error (HttpResponse Bytes) :=
  (call environment (.send url)).tryExcept fun
    | .raised (.transport error) =>
        Effect.raise (.failed (shown downloader.unicode url) error)
    | error => Effect.raise error

def following : Following Bytes (DownloadWorld Error) (Failure Error) where
  allowPrivate := downloader.allowPrivateHttp
  label := "Download"
  error := .redirect
  unreachable := .unreachable
  lookup := call environment .lookup
  send := downloader.send environment
  onDiscard := none

/-- `_fetch` -/
def fetch (url : Text) : Download Error Bytes := do
  let response ← (downloader.following environment).followRedirects downloader.unicode
    downloader.addresses url
  return response.payload

/-- Delete the cached copy of these bytes, if that is where they are from. -/
def evict (url : Text) (isCached : Bool) : Download Error Unit :=
  if downloader.hasCache && isCached then call environment (.cacheDelete url) else pure ()

/-- `_verify_checksum` -/
def verifyChecksum (url : Text) (data : Bytes) (expected algorithm : Text) (isCached : Bool) :
    Download Error Unit := do
  let actual ← call environment (.digest algorithm data)
  if downloader.unicode.lower actual = downloader.unicode.lower expected then pure ()
  else do
    downloader.evict environment url isCached
    Effect.raise (.checksumMismatch (shown downloader.unicode url) expected actual)

/-- `write_bytes` and `chmod` of `save_bytes` -/
def writeFile (path : Path) (data : Bytes) : Download Error Path :=
  (do
    call environment (.writeBytes path data)
    call environment (.chmod path)
    return path : Download Error Path).tryExcept fun
      | .raised (.os error) => Effect.raise (.unwritable path error)
      | error => Effect.raise error

/-- `save_bytes` -/
def saveBytes (data : Bytes) (kind : Kind) (filename : Option Text) : Download Error Path :=
  let name := filename.getD []
  if kind = .directory ∨ (kind = .absent ∧ name ≠ []) then do
    call environment (.makeDirectory false)
    if name = [] then Effect.raise .filenameRequired
    else writeFile environment (.inside name) data
  else do
    call environment (.makeDirectory true)
    writeFile environment .destination data

/-- `self.cache.get(cache_key) if self.cache else None` -/
def cached (url : Text) : Download Error (Option Bytes) :=
  if downloader.hasCache then call environment (.cacheGet url) else pure none

/-- The bytes, fetched when there is no copy. -/
def data (url : Text) : Option Bytes → Download Error Bytes
  | some data => pure data
  | none => downloader.fetch environment url

/-- The check against the digest, where one is given. -/
def checked (url : Text) (data : Bytes) (verifyHash : Option Text) (hashAlgorithm : Text)
    (isCached : Bool) : Download Error Unit :=
  if verifyHash.getD [] = [] then pure ()
  else downloader.verifyChecksum environment url data (verifyHash.getD []) hashAlgorithm isCached

/-- Bytes that did not come from the cache go there. -/
def remember (url : Text) (data : Bytes) (isCached : Bool) : Download Error Unit :=
  if downloader.hasCache && !isCached then call environment (.cachePut url data) else pure ()

/-- The bytes of a resource, from the cache or from its URL, checked and cached. -/
def obtain (url : Text) (verifyHash : Option Text) (hashAlgorithm : Text) :
    Download Error Bytes := do
  let cached ← downloader.cached environment url
  let data ← downloader.data environment url cached
  downloader.checked environment url data verifyHash hashAlgorithm cached.isSome
  downloader.remember environment url data cached.isSome
  return data

/-- Where the bytes go: to a destination, given by what stands there, or without one to the
storage or to the working directory. -/
def save (data : Bytes) (dest : Option Kind) (name : Text) : Download Error Path :=
  match dest with
  | some kind => saveBytes environment data kind (some name)
  | none =>
      if downloader.hasStorage then do
        let uri ← call environment (.store data name)
        return .stored uri
      else saveBytes environment data .directory (some name)

/-- `download` -/
def download (resource : Resource) (dest : Option Kind) (filename verifyHash : Option Text)
    (hashAlgorithm : Text) : Download Error Path :=
  if resource.url.getD [] = [] then Effect.raise (.noUrl resource.id)
  else do
    let data ← downloader.obtain environment (resource.url.getD []) verifyHash hashAlgorithm
    downloader.save environment data dest (fileName downloader.isAlnum filename resource)

/-- One resource of `download_many`: a directory stands at the destination by then. -/
def downloadOne (resource : Resource) : Download Error (Option Path) :=
  (do
    let path ← downloader.download environment resource (some .directory) none none "sha256".toList
    return some path : Download Error (Option Path)).tryExcept fun error =>
      if error.isSkipped then pure none else Effect.raise error

/-- The loop of `download_many` -/
def downloadAll : List Resource → Download Error (List Path)
  | [] => pure []
  | resource :: resources => do
      let path ← downloader.downloadOne environment resource
      let paths ← downloadAll resources
      return path.toList ++ paths

/-- `download_many` -/
def downloadMany (resources : List Resource) : Download Error (List Path) := do
  call environment (.makeDirectory false)
  downloader.downloadAll environment resources

end Downloader

/-! ## What stands on the disk -/

section Disk

variable {Place : Type} [DecidableEq Place] (places : Path → Place)

/-- The bytes that a call wrote to a file; none when it failed and left something else. -/
def written : Happening (DownloadOp.Answer Error) → Option (Path × Option Bytes)
  | ⟨.writeBytes path data, .ok _⟩ => some (path, some data)
  | ⟨.writeBytes path _, .error _⟩ => some (path, none)
  | _ => none

/-- What was written, in order. -/
def writes (history : DownloadHistory Error) : List (Path × Option Bytes) :=
  history.filterMap written

/-- What is known to stand in a file after these writes: the last one to it decides. -/
def standing (place : Place) : List (Path × Option Bytes) → Option Bytes
  | [] => none
  | write :: rest =>
      if rest.any fun later => decide (places later.1 = place) then standing place rest
      else if places write.1 = place then write.2 else none

/-- What the outside served: a copy from the cache, or a response that is a success. -/
def servedBy : Happening (DownloadOp.Answer Error) → Option Bytes
  | ⟨.cacheGet _, .ok cached⟩ => cached
  | ⟨.send _, .ok response⟩ => if response.isSuccess then some response.payload else none
  | _ => none

def served (history : DownloadHistory Error) : List Bytes := history.filterMap servedBy

/-- An entry of the application's manifest. -/
structure ManifestEntry where
  resourceId : Text
  path : Path
  size : Option Nat
  deriving DecidableEq

/-- `path.stat().st_size`, or nothing when it raises an `OSError` -/
def statSize (environment : Environment (DownloadOp.Answer Error)) (path : Path) :
    Download Error (Option Nat) :=
  (do
    Downloader.call environment (.stat path)
    let world ← Effect.get
    return (standing places (places path) (writes world.history)).map List.length :
      Download Error (Option Nat)).tryExcept fun
        | .raised (.os _) => pure none
        | error => Effect.raise error

/-- The entries of the manifest, in order. -/
def manifestEntries (environment : Environment (DownloadOp.Answer Error)) :
    List (Resource × Path) → Download Error (List ManifestEntry)
  | [] => pure []
  | (resource, path) :: rest => do
      let size ← statSize places environment path
      let entries ← manifestEntries environment rest
      return ⟨resource.id, path, size⟩ :: entries

/-- `_ApplicationServices.download_many` -/
def manifest (downloader : Downloader) (environment : Environment (DownloadOp.Answer Error))
    (resources : List Resource) : Download Error (List ManifestEntry) := do
  let paths ← downloader.downloadMany environment resources
  if paths.length ≠ resources.length then Effect.raise .incomplete
  else manifestEntries places environment (resources.zip paths)

end Disk

end DataSluice.Io.Downloads
