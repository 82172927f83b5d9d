/-
# Materializing a resource, file by file

`materialize`, `_materialize_stream` and `materialize_checkpointed` write a resource to a
temporary file, move it to the final URI, and return an `Artifact` that describes it. Here
they run over the files of one call: the one at the final URI, the temporary one, the shards
of a continuation, and the temporary files of the shards. The names of the temporary files
are drawn at random for each call.

Every operation of the file system, the reader and the Parquet library may fail, which is an
input of the call. A move that fails changes nothing, and removing a temporary file works.
What an operation raises is an `Exception`; an interrupt is not one.
-/

import DataSluice.Data.BatchStream
import DataSluice.Domain.Artifact
import DataSluice.Lib.Durable
import DataSluice.Sync.StateStore

namespace DataSluice.Sync.Materialize

open DataSluice.Lib DataSluice.Lib.Url DataSluice.Domain DataSluice.Data

/-! ## Resources -/

/-- How a resource is reached, with the fields that are read here. -/
inductive Access
  | httpDownload (url : String)
  | objectStorage (uri : String)
  | query (endpoint : String)
  | stream (url : String)
  | localFile (path : String)
  deriving DecidableEq

structure Resource where
  id : String
  url : Option String
  format : Option String
  mediaType : Option String
  access : Option Access
  deriving DecidableEq

namespace Access

/-- `getattr(access, "url", None)` -/
def url : Access → Option String
  | httpDownload url => some url
  | stream url => some url
  | _ => none

/-- `getattr(access, "uri", None)` -/
def uri : Access → Option String
  | objectStorage uri => some uri
  | _ => none

/-- `getattr(access, "path", None)` -/
def path : Access → Option String
  | localFile path => some path
  | _ => none

end Access

/-- A value that counts as true in Python. -/
def truthy (value : Option String) : Option String := value.filter (· ≠ "")

/-- `first or second` -/
def orElse (first second : Option String) : Option String := (truthy first).orElse fun _ => second

/-- What these functions raise. -/
inductive Failure
  | /-- An exception of the file system, of a reader, or of a library. -/
    operation (name : String)
  | dataSluice (message : String)
  | value (message : String)
  | contract (error : SchemaError)
  | /-- `DownloadError` for a shard, with its cause. -/
    download (shard : Nat) (cause : Failure)

/-- What is called outside the repository. -/
structure Tools (Schema Batch : Type) where
  stdlib : Stdlib
  /-- `hashlib.sha256(…).hexdigest()` -/
  sha256 : Bytes → String
  sha256_valid : ∀ bytes, isLowerSha256 (sha256 bytes) = true
  /-- `logical_sha256_batches`, which also ends in `hexdigest()` -/
  logicalSha256 : Schema → List Batch → String
  logicalSha256_valid : ∀ schema batches, isLowerSha256 (logicalSha256 schema batches) = true
  /-- The file that the Parquet writer makes of batches. -/
  writeParquet : Schema → List Batch → Bytes
  /-- The schema and the batches of a Parquet file, when it is one. -/
  readParquet : Bytes → Option (Schema × List Batch)
  /-- The file that `pq.write_table` makes of one batch. -/
  writeTable : Batch → Bytes
  /-- `Path(path).expanduser().resolve().as_uri()` -/
  localUri : String → Except Failure String

variable {Schema Batch : Type} (tools : Tools Schema Batch)

/-- `_url_origin` -/
def urlOrigin (resource : Resource) : Except ValueError String :=
  let url := truthy (orElse (resource.access.bind Access.url) resource.url)
  let locator :=
    truthy (orElse (resource.access.bind Access.uri) (resource.access.bind Access.path))
  match url with
  | none =>
      .ok (match locator with
        | some locator => "local:" ++ locator
        | none => "local")
  | some url =>
      match urlsplit tools.stdlib.unicode url.toList with
      | .error error => .error error
      | .ok parts =>
          if parts.scheme ≠ [] ∧ parts.netloc ≠ [] then
            .ok (String.ofList (tools.stdlib.unicode.lower parts.scheme ++ "://".toList ++
              tools.stdlib.unicode.lower (rpartition '@' parts.netloc).2.2))
          else
            match locator with
            | some locator => .ok ("local:" ++ locator)
            | none =>
                if parts.scheme ≠ [] ∧ parts.path ≠ [] then
                  .ok (String.ofList (parts.scheme ++ ':' :: parts.path))
                else if parts.path ≠ [] then .ok ("path:" ++ String.ofList parts.path)
                else .ok "local"

/-- `canonical_identity` -/
def canonicalIdentity (resource : Resource) : Except Failure String :=
  match urlOrigin tools resource with
  | .error error => .error (.value error.message)
  | .ok origin => .ok (tools.sha256 (origin ++ "/" ++ resource.id).toUTF8.toList)

/-! ## The artifact of a file -/

/-- `_PARQUET_MEDIA_TYPE` -/
def parquetMediaType : String := "application/x-parquet"

/-- `_raw_media_type` -/
def rawMediaType (resource : Resource) : String :=
  match truthy resource.mediaType with
  | some mediaType => mediaType
  | none =>
      match resource.format.getD "" with
      | "CSV" => "text/csv"
      | "JSON" => "application/json"
      | "JSONL" => "application/x-ndjson"
      | "XML" => "application/xml"
      | _ => "application/octet-stream"

/-- What a file was found to be before it is moved. -/
structure Written where
  size : Nat
  contentDigest : String
  blobDigest : String
  content_valid : isLowerSha256 contentDigest = true
  blob_valid : isLowerSha256 blobDigest = true

/-- The arguments that the three functions share, and the time of the call. -/
structure Request (unicode : UnicodeData) where
  resource : Resource
  destinationUri : String
  sourceLocator : Option (DirectResourceLocator unicode)
  createdAt : Option DateTime
  transforms : List String
  now : DateTime
  now_utc : now.offset = some 0

/-- `_source_locator` -/
def sourceLocator (request : Request tools.stdlib.unicode) :
    Except Failure (DirectResourceLocator tools.stdlib.unicode) :=
  match request.sourceLocator with
  | some locator => .ok locator
  | none =>
      let access := request.resource.access
      let named := orElse (access.bind Access.url)
        (orElse (access.bind Access.uri) request.resource.url)
      let uri : Except Failure (Option String) :=
        match named, access with
        | none, some (.localFile path) => (tools.localUri path).map some
        | named, _ => .ok named
      match uri with
      | .error error => .error error
      | .ok uri =>
          match truthy uri with
          | none =>
              .error (.dataSluice
                "Artifact materialization requires a serializable source locator")
          | some uri =>
              match DirectResourceLocator.new tools.stdlib.unicode uri request.resource.format
                  request.resource.mediaType [] with
              | .error error => .error (.contract error)
              | .ok locator => .ok locator

/-- The identity of the resource of a call and the mode it runs in, once both are known to be
valid. -/
structure Context (request : Request tools.stdlib.unicode) where
  identity : String
  mode : String
  identity_eq : canonicalIdentity tools request.resource = .ok identity
  mode_valid : mode = "parquet" ∨ mode = "raw"

/-- `destination_uri.rstrip("/")` -/
def baseUri (destinationUri : String) : String :=
  String.ofList (destinationUri.toList.reverse.dropWhile (· == '/')).reverse

/-- The URI of the file of a resource in one of the modes. -/
def expectedUri (destinationUri identity mode : String) : String :=
  baseUri destinationUri ++ "/" ++ identity ++ "." ++ (if mode = "raw" then "bin" else "parquet")

namespace Context

variable {tools} {request : Request tools.stdlib.unicode} (context : Context tools request)

def finalUri : String := expectedUri request.destinationUri context.identity context.mode

def mediaType : String :=
  if context.mode = "raw" then rawMediaType request.resource else parquetMediaType

end Context

/-- A constructor of the contract, as these functions call it. -/
def asFailure {α : Type} : Except SchemaError α → Except Failure α
  | .ok value => .ok value
  | .error error => .error (.contract error)

/-- `_artifact` -/
def artifact {request : Request tools.stdlib.unicode} (context : Context tools request)
    (written : Written) : Except Failure (Artifact tools.stdlib.unicode) := do
  let contentDigest ← asFailure (Digest.new "sha256" written.contentDigest)
  let blobDigest ← asFailure (Digest.new "sha256" written.blobDigest)
  let locator ← sourceLocator tools request
  let identity ← canonicalIdentity tools request.resource
  let provenance ← asFailure (ArtifactProvenance.new tools.stdlib.unicode locator identity
    (request.createdAt.getD request.now) context.mode request.transforms)
  asFailure (Artifact.new tools.stdlib.unicode
    (sanitizeUri tools.stdlib.unicode context.finalUri) context.mediaType written.size
    contentDigest blobDigest provenance [] [])

/-! ## Files -/

/-- The files that a call works on. -/
structure Disk where
  /-- The file at the final URI. -/
  published : Option Bytes
  /-- The temporary file of the final one. -/
  staged : Option Bytes
  shards : Nat → Option Bytes
  /-- The temporary files of the shards. -/
  stagedShards : Nat → Option Bytes

/-- Which operations fail, and what a failed write leaves behind. -/
structure Faults where
  openFilesystem : Option Failure
  makedirs : Option Failure
  openStaged : Option Failure
  openWriter : Option Failure
  /-- Writing or hashing the batch of that number, or a chunk of a raw file. -/
  writeBatch : Nat → Option Failure
  closeStaged : Option Failure
  leftStaged : Bytes
  digestStaged : Option Failure
  existsPublished : Option Failure
  probeSizes : Option Failure
  probeBytes : Option Failure
  probeContent : Option Failure
  infoSize : Option Failure
  digestBlob : Option Failure
  move : Option Failure
  makePartialDirs : Option Failure
  existsShard : Nat → Option Failure
  enterStream : Option Failure
  writeTable : Nat → Option Failure
  removeShard : Nat → Option Failure
  pipeShard : Nat → Option Failure
  leftShard : Nat → Option Bytes
  moveShard : Nat → Option Failure
  onBatchPersisted : Nat → Option Failure
  openShard : Nat → Option Failure

/-- Every operation works. -/
def Faults.none : Faults where
  openFilesystem := .none
  makedirs := .none
  openStaged := .none
  openWriter := .none
  writeBatch _ := .none
  closeStaged := .none
  leftStaged := []
  digestStaged := .none
  existsPublished := .none
  probeSizes := .none
  probeBytes := .none
  probeContent := .none
  infoSize := .none
  digestBlob := .none
  move := .none
  makePartialDirs := .none
  existsShard _ := .none
  enterStream := .none
  writeTable _ := .none
  removeShard _ := .none
  pipeShard _ := .none
  leftShard _ := .none
  moveShard _ := .none
  onBatchPersisted _ := .none
  openShard _ := .none

/-- Programs over the files of one call. -/
abbrev FileM := Durable Disk Failure

/-- Read a file. -/
def readFile (fault : Option Failure) (file : Disk → Option Bytes) : FileM Bytes := do
  Durable.attempt fault
  match file (← Durable.read) with
  | none => Durable.fail (.operation "FileNotFoundError")
  | some bytes => pure bytes

def Disk.stage (disk : Disk) (bytes : Option Bytes) : Disk := { disk with staged := bytes }

/-- `safe_remove(fs, tmp_uri)` -/
def removeStaged : FileM Unit := Durable.write (·.stage none)

/-- `fs.mv(tmp_uri, final_uri)` -/
def moveStaged (fault : Option Failure) : FileM Unit := do
  let bytes ← readFile fault (·.staged)
  Durable.write fun disk => { disk with published := some bytes, staged := none }

variable (faults : Faults)

/-- The values of a generator, unless it fails or one of them cannot be written. -/
def consume {α : Type} (fault : Nat → Option Failure) (index : Nat) :
    Generator Failure α → Except Failure (List α)
  | .stop => .ok []
  | .raise failure => .error failure
  | .yield value rest =>
      match fault index with
      | some failure => .error failure
      | none => (consume fault (index + 1) rest).map (value :: ·)

/-- The temporary file is opened and filled, or is left with some bytes in it. -/
def writeStaged (content : Except Failure Bytes) : FileM Unit := do
  Durable.attempt faults.openStaged
  Durable.write (·.stage (some []))
  Durable.attempt faults.openWriter
  match content with
  | .error failure => do
      Durable.write (·.stage (some faults.leftStaged))
      Durable.fail failure
  | .ok bytes => do
      Durable.write (·.stage (some bytes))
      Durable.attempt faults.closeStaged

/-- A digest that is known to be one. -/
abbrev Checksum := { digest : String // isLowerSha256 digest = true }

/-- The digest of bytes. -/
def Tools.blobDigest (bytes : Bytes) : Checksum := ⟨tools.sha256 bytes, tools.sha256_valid bytes⟩

/-- `_write_parquet` -/
def writeParquet (schema : Schema) (batches : Generator Failure Batch) : FileM Checksum := do
  let consumed := consume faults.writeBatch 0 batches
  writeStaged faults (consumed.map (tools.writeParquet schema))
  let written ← Durable.ofExcept consumed
  pure ⟨tools.logicalSha256 schema written, tools.logicalSha256_valid schema written⟩

/-- `_blob_digest_from_fs` -/
def blobDigestFromFs (fault : Option Failure) (file : Disk → Option Bytes) : FileM Checksum := do
  let bytes ← readFile fault file
  pure (tools.blobDigest bytes)

/-- `_write_raw`, for a source that is read in chunks once it is open. -/
def writeRaw (source : Except Failure (Generator Failure Bytes)) : FileM Checksum := do
  let chunks ← Durable.ofExcept source
  writeStaged faults ((consume faults.writeBatch 0 chunks).map List.flatten)
  blobDigestFromFs tools faults.digestStaged (·.staged)

/-- The digest, the size and the move of a written file, at the end of a `try` block. -/
def measureAndMove (contentDigest : Checksum) : FileM Written := do
  let bytes ← readFile faults.infoSize (·.staged)
  let blobDigest ← blobDigestFromFs tools faults.digestBlob (·.staged)
  moveStaged faults.move
  pure ⟨bytes.length, contentDigest.1, blobDigest.1, contentDigest.2, blobDigest.2⟩

/-! ## `_publish_parquet` -/

/-- The `try` block of `_publish_parquet` up to the move. -/
def stageParquet (schema : Schema) (batches : Generator Failure Batch) : FileM Written := do
  measureAndMove tools faults (← writeParquet tools faults schema batches)

/-! ## `materialize` -/

/-- `_destination_checksum`; nothing when the file cannot be read. -/
def destinationChecksum (mediaType : String) (bytes : Bytes) : Option String :=
  if mediaType = parquetMediaType then
    (tools.readParquet bytes).map fun file => tools.logicalSha256 file.1 file.2
  else some (tools.sha256 bytes)

/-- The `try` block of `_existing_record` over the two files: the published digest when the
published file may stand for the staged one. -/
def probe (published staged : Bytes) (mediaType checksum : String) (stagedDigest : Option String) :
    Option Checksum :=
  if faults.probeSizes.isSome then none
  else if published.length = staged.length ∧ faults.probeBytes.isSome then none
  else if published.length = staged.length ∧
      tools.sha256 published = stagedDigest.getD (tools.sha256 staged) then
    some (tools.blobDigest published)
  else if faults.probeContent.isSome then none
  else if destinationChecksum tools mediaType published = some checksum then
    some (tools.blobDigest published)
  else none

/-- `_existing_record` -/
def existingRecord (mediaType checksum : String) (storedChecksum stagedDigest : Option String) :
    FileM (Option Checksum) := do
  if storedChecksum ≠ some checksum then pure none
  else do
    Durable.attempt faults.existsPublished
    let disk ← Durable.read
    match disk.published, disk.staged with
    | some published, some staged =>
        pure (probe tools faults published staged mediaType checksum stagedDigest)
    | _, _ => pure none

/-- `_is_current_artifact` -/
def isCurrentArtifact {request : Request tools.stdlib.unicode} (context : Context tools request)
    (written : Written) (value : Artifact tools.stdlib.unicode) : Bool :=
  value.uri == sanitizeUri tools.stdlib.unicode context.finalUri &&
    value.mediaType == context.mediaType && value.size == written.size &&
    value.contentDigest.value == written.contentDigest &&
    value.blobDigest.value == written.blobDigest &&
    value.provenance.materializationMode == context.mode

/-- What `materialize` is given beside the common arguments: the mode, what the caller has
stored, and what the reader opens in each of the modes. -/
structure Reading (unicode : UnicodeData) (Schema Batch : Type) where
  mode : String
  storedChecksum : Option String
  storedArtifact : Option (Artifact unicode)
  stream : Except Failure (Schema × Generator Failure Batch)
  raw : Except Failure (Generator Failure Bytes)

/-- `_stored_artifact_if_current` -/
def storedArtifactIfCurrent {request : Request tools.stdlib.unicode}
    (context : Context tools request) (written : Written)
    (storedArtifact : Option (Artifact tools.stdlib.unicode)) :
    Option (Artifact tools.stdlib.unicode) :=
  storedArtifact.filter (isCurrentArtifact tools context written)

/-- The file that the artifact will describe: the published one when it may stay. -/
def describedFile (existing : Option Checksum) (disk : Disk) : Option Bytes :=
  if existing.isSome then disk.published else disk.staged

/-- `_published_blob_digest` -/
def publishedBlobDigest (mode : String) (contentDigest : Checksum) :
    Option Checksum → FileM Checksum
  | some digest => pure digest
  | none =>
      if mode = "raw" then pure contentDigest
      else blobDigestFromFs tools faults.digestBlob (describedFile none)

/-- `if not existing: fs.mv(tmp_uri, final_uri)` -/
def moveUnlessExisting (existing : Option Checksum) : FileM Unit :=
  if existing.isSome then pure () else moveStaged faults.move

/-- The end of the `try` block of `materialize` once the content digest is known. The stored
artifact is handed back when it says the same; otherwise the temporary file is moved, unless
the published one may stay. -/
def settle {request : Request tools.stdlib.unicode} (context : Context tools request)
    (reading : Reading tools.stdlib.unicode Schema Batch) (contentDigest : Checksum) :
    FileM (Artifact tools.stdlib.unicode ⊕ Written) := do
  let existing ← existingRecord tools faults context.mediaType contentDigest.1
    reading.storedChecksum (if context.mode = "raw" then some contentDigest.1 else none)
  let bytes ← readFile faults.infoSize (describedFile existing)
  let blobDigest ← publishedBlobDigest tools faults context.mode contentDigest existing
  let written : Written :=
    ⟨bytes.length, contentDigest.1, blobDigest.1, contentDigest.2, blobDigest.2⟩
  match storedArtifactIfCurrent tools context written reading.storedArtifact with
  | some stored => pure (.inl stored)
  | none => do
      moveUnlessExisting faults existing
      pure (.inr written)

/-- The `try` block of `materialize` up to the move. -/
def stageReading {request : Request tools.stdlib.unicode} (context : Context tools request)
    (reading : Reading tools.stdlib.unicode Schema Batch) :
    FileM (Artifact tools.stdlib.unicode ⊕ Written) := do
  let contentDigest ←
    (if context.mode = "raw" then writeRaw tools faults reading.raw
    else do
      let opened ← Durable.ofExcept reading.stream
      writeParquet tools faults opened.1 opened.2 : FileM Checksum)
  settle tools faults context reading contentDigest

/-! ## `materialize_checkpointed` -/

/-- `_require_checkpoint_shards` -/
def requireCheckpointShards (resourceId : String) : List Nat → FileM Unit
  | [] => pure ()
  | index :: indexes => do
      Durable.attempt (faults.existsShard index)
      let disk ← Durable.read
      if (disk.shards index).isNone then
        Durable.fail (.dataSluice ("Corrupt continuation for resource '" ++ resourceId ++
          "': completed shard " ++ Nat.repr index ++ " is missing"))
      else requireCheckpointShards resourceId indexes

/-- `safe_remove(fs, tmp_uri)` for the temporary file of a shard. -/
def removeStagedShard (index : Nat) : FileM Unit :=
  Durable.write fun disk =>
    { disk with stagedShards := fun other => if other = index then none else disk.stagedShards other }

/-- `fs.pipe_file(tmp_uri, payload)` -/
def pipeShard (index : Nat) (payload : Bytes) : FileM Unit := do
  let fault := faults.pipeShard index
  let left := if fault.isSome then faults.leftShard index else some payload
  Durable.write fun disk =>
    { disk with stagedShards := fun other => if other = index then left else disk.stagedShards other }
  Durable.attempt fault

/-- `fs.mv(tmp_uri, final_uri)` for a shard. -/
def moveShard (index : Nat) : FileM Unit := do
  let bytes ← readFile (faults.moveShard index) (·.stagedShards index)
  Durable.write fun disk =>
    { disk with
      shards := fun other => if other = index then some bytes else disk.shards other
      stagedShards := fun other => if other = index then none else disk.stagedShards other }

/-- `_atomic_pipe` -/
def atomicPipe (index : Nat) (payload : Bytes) : FileM Unit :=
  Durable.tryExcept
    (do
      pipeShard faults index payload
      moveShard faults index)
    (fun cause => do
      removeStagedShard index
      Durable.fail (.download index cause))

/-- `if fs.exists(shard_uri): fs.rm(shard_uri)` -/
def removeOldShard (index : Nat) : FileM Unit := do
  Durable.attempt (faults.existsShard index)
  let disk ← Durable.read
  if (disk.shards index).isSome then do
    Durable.attempt (faults.removeShard index)
    Durable.write fun disk =>
      { disk with shards := fun other => if other = index then none else disk.shards other }
  else pure ()

/-- `_publish_batch_shard` -/
def publishBatchShard (index : Nat) (batch : Batch) : FileM Unit := do
  Durable.attempt (faults.writeTable index)
  removeOldShard faults index
  atomicPipe faults index (tools.writeTable batch)

/-- The loop over the batches of the stream: the index of the next batch at its end. -/
def stageShards (resourceId : String) (nextBatchIndex : Nat) :
    Generator Failure (Batch × BatchCursor) → FileM Nat
  | .stop => pure nextBatchIndex
  | .raise failure => Durable.fail failure
  | .yield (batch, cursor) rest =>
      if cursor.nextBatchIndex ≠ nextBatchIndex + 1 then
        Durable.fail (.dataSluice ("Corrupt batch cursor for resource '" ++ resourceId ++
          "': expected " ++ Nat.repr (nextBatchIndex + 1) ++ ", got " ++
          Nat.repr cursor.nextBatchIndex))
      else do
        publishBatchShard tools faults nextBatchIndex batch
        Durable.attempt (faults.onBatchPersisted nextBatchIndex)
        stageShards resourceId cursor.nextBatchIndex rest

/-- `_checkpoint_batches`: shards are opened one after the other. -/
def checkpointBatches (shards : Nat → Option Bytes) : List Nat → Generator Failure Batch
  | [] => .stop
  | index :: indexes =>
      match faults.openShard index, (shards index).bind tools.readParquet with
      | some failure, _ => .raise failure
      | none, none => .raise (.operation "shard")
      | none, some file => .prepend file.2 (checkpointBatches shards indexes)

/-! ## Calls -/

/-- What each of the three functions is given beside the common arguments. -/
inductive Work (unicode : UnicodeData) (Schema Batch : Type)
  | reading (reading : Reading unicode Schema Batch)
  | stream (mode : String) (schema : Schema) (batches : Generator Failure Batch)
  | checkpointed (startBatchIndex : Int) (schema : Schema)
      (items : Generator Failure (Batch × BatchCursor))

/-- Open the file system, make the directory, and compute the identity. -/
def prepare (request : Request tools.stdlib.unicode) (mode : String) :
    FileM (Context tools request) := do
  Durable.attempt faults.openFilesystem
  Durable.attempt faults.makedirs
  match hidentity : canonicalIdentity tools request.resource with
  | .error failure => Durable.fail failure
  | .ok identity =>
      if hmode : mode = "parquet" ∨ mode = "raw" then pure ⟨identity, mode, hidentity, hmode⟩
      else
        Durable.fail (.value ("Unsupported materialize mode '" ++ mode ++
          "'; expected 'parquet' or 'raw'"))

/-- Everything in front of the `try` block that publishes. For a continuation this is the
staging of its shards, which ends with the number of them. -/
def Work.prelude (request : Request tools.stdlib.unicode) :
    Work tools.stdlib.unicode Schema Batch → FileM (Context tools request × Nat)
  | .reading input => do
      pure (← prepare tools faults request input.mode, 0)
  | .stream mode _ _ =>
      if mode ≠ "parquet" then
        Durable.fail
          (.dataSluice "Transformed Artifact materialization supports only parquet mode")
      else do
        pure (← prepare tools faults request mode, 0)
  | .checkpointed startBatchIndex _ items =>
      if startBatchIndex < 0 then
        Durable.fail (.dataSluice
          "Checkpointed materialization requires a non-negative start batch index")
      else do
        let context ← prepare tools faults request "parquet"
        Durable.attempt faults.makePartialDirs
        requireCheckpointShards faults request.resource.id (List.range startBatchIndex.toNat)
        Durable.attempt faults.enterStream
        let count ← stageShards tools faults request.resource.id startBatchIndex.toNat items
        requireCheckpointShards faults request.resource.id (List.range count)
        pure (context, count)

/-- The `try` block that publishes, up to the move. -/
def Work.stage {request : Request tools.stdlib.unicode} (context : Context tools request)
    (count : Nat) :
    Work tools.stdlib.unicode Schema Batch → FileM (Artifact tools.stdlib.unicode ⊕ Written)
  | .reading input => stageReading tools faults context input
  | .stream _ schema batches => do
      pure (.inr (← stageParquet tools faults schema batches))
  | .checkpointed _ schema _ => do
      let disk ← Durable.read
      pure (.inr (← stageParquet tools faults schema
        (checkpointBatches tools faults disk.shards (List.range count))))

/-- The return of that block: the stored artifact, or one that is built now. -/
def finish {request : Request tools.stdlib.unicode} (context : Context tools request) :
    Artifact tools.stdlib.unicode ⊕ Written → Except Failure (Artifact tools.stdlib.unicode)
  | .inl stored => .ok stored
  | .inr written => artifact tools context written

/-- The `try` block with its `finally`. -/
def Work.publish {request : Request tools.stdlib.unicode}
    (work : Work tools.stdlib.unicode Schema Batch) (context : Context tools request)
    (count : Nat) : FileM (Artifact tools.stdlib.unicode) :=
  Durable.tryFinally
    (do
      let staged ← work.stage tools faults context count
      Durable.ofExcept (finish tools context staged))
    removeStaged

/-- One call: `materialize`, `_materialize_stream` or `materialize_checkpointed`. -/
def Work.run (request : Request tools.stdlib.unicode)
    (work : Work tools.stdlib.unicode Schema Batch) : FileM (Artifact tools.stdlib.unicode) := do
  let prepared ← work.prelude tools faults request
  work.publish tools faults prepared.1 prepared.2

end DataSluice.Sync.Materialize
