/-
# The sync transaction of one resource

`sync_resources` handles one resource inside the key lock of its state: it loads
the stored state, may skip the resource, and otherwise materializes it at the
destination and commits a completed state. PARQUET files on local or object
storage are staged as one shard per batch with a checkpoint after each; every
other resource is written in one piece.

The transaction is a `Lib.Durable` program over the destination: the stored state,
the shard directory and the published file. The lock makes the runs on one
resource sequential, so every compare-and-swap of the state succeeds and is a
write. Whatever lies outside the repository is an input of the run: the reader,
the HTTP exchange, the bytes the Parquet writer produces, which shards the
recursive removal leaves behind, and which of its calls raise.

`Published.table`, `Destination.committed` and `Destination.overwritten` are kept for
the statements only; no function of the transaction reads them.
-/

import DataSluice.Lib.Durable
import DataSluice.Sync.StateStore

namespace DataSluice.Sync

open DataSluice.Lib

/-- A schema with the rows of all batches, in order. -/
structure Table (Schema Row : Type) where
  schema : Schema
  rows : List Row
  deriving DecidableEq

/-- The digests of the code, and what reading a published file back hashes to. -/
structure Codec (Schema Row : Type) where
  sha256 : Bytes → String
  logicalSha256 : Table Schema Row → String
  /-- `_destination_checksum`; nothing when the file cannot be read back. -/
  readBack : Bytes → Option String

/-- Where a resource is materialized. -/
structure Site where
  finalUri : String
  /-- What `sanitize_uri` makes of the final URI in a record. -/
  recordUri : String
  destinationIdentity : String

/-- The record of a materialized file. Its provenance is not read by the sync. -/
structure Artifact where
  uri : String
  size : Nat
  contentDigest : String
  blobDigest : String
  deriving DecidableEq

/-- The continuation of a partly staged resource. -/
structure Checkpoint (Version : Type) where
  nextBatchIndex : Nat
  rowGroupIndex : Nat
  sourceVersion : Option Version
  destinationIdentity : String
  deriving DecidableEq

/-- The parts of a stored state that the sync reads. -/
structure SyncState (Version : Type) where
  watermark : Option String
  checkpoint : Option (Checkpoint Version)
  completedArtifact : Option Artifact
  sourceVersion : Option Version
  deriving DecidableEq

/-- A published file, with the table it was written from. -/
structure Published (Schema Row : Type) where
  bytes : Bytes
  table : Table Schema Row
  deriving DecidableEq

/-- Everything durable. -/
structure Destination (Schema Row Version : Type) where
  stored : Option (SyncState Version)
  shards : Nat → Option (Table Schema Row)
  published : Option (Published Schema Row)
  /-- The table of the published file when the state was last stored. -/
  committed : Option (Table Schema Row)
  /-- A run over another source version has overwritten a shard that the stored
  checkpoint counts, and no state has been stored since. -/
  overwritten : Bool

inductive SyncError
  | reader (message : String)
  | invalidTarget (message : String)
  | httpStatus (status : Nat)
  | rowGroupBeyondFooter (index count : Nat)
  | cannotResume (rowGroupIndex : Nat)
  | corruptCursor (expected actual : Nat)
  | missingShard (index : Nat)
  | schemaMismatch
  | sourceChanged
  /-- What one of the calls below raised. -/
  | raised (message : String)
  deriving DecidableEq

/-- The calls of a run that may raise although nothing is wrong with its source. Each is
made at most once. -/
inductive Call
  /-- Taking the lock, computing the key, and reading the stored state. -/
  | loadState
  /-- Everything behind the previous checkpoint up to the batch of that number, or up to
  the end of the batches. -/
  | readBatch (index : Nat)
  /-- Writing a shard and moving it into place. -/
  | publishShard (index : Nat)
  | storeCheckpoint (index : Nat)
  /-- Writing, hashing and measuring the temporary file. -/
  | stageFile
  | moveFile
  /-- Building the artifact behind the move, up to the commit. -/
  | describeFile
  | storeCompleted
  deriving DecidableEq

/-- What one run sees of a PARQUET file: its digest before and after the reading,
its schema and its row groups. -/
structure SourceView (Schema Row Version : Type) where
  version : Option Version
  versionAfter : Option Version
  schema : Schema
  groups : List (List Row)

/-- A response to the conditional request, with what its body reads as. -/
structure HttpResponse (Schema Row : Type) where
  status : Nat
  etag : Option String
  lastModified : Option String
  table : Except SyncError (Table Schema Row)

/-- How the resource of a run is accessed. For every other resource `exchange` is
the conditional request, given the two validators, when the resource is an HTTP
download with a transport and a response-aware reader. -/
inductive Access (Schema Row Version : Type)
  | unsupported
  | parquetFile (source : SourceView Schema Row Version) (resumable : Bool)
  | other
      (exchange : Option (Option String → Option String →
        Except SyncError (HttpResponse Schema Row)))
      (table : Except SyncError (Table Schema Row))

/-- The inputs of one run. -/
structure RunInput (Schema Row Version : Type) where
  access : Access Schema Row Version
  resume : Bool
  /-- The bytes the Parquet writer makes of a table in this run. -/
  write : Table Schema Row → Bytes
  /-- The shards that the recursive removal leaves behind. -/
  survives : Nat → Bool
  /-- What a call raises, if it does. -/
  raises : Call → Option String

inductive SyncAction
  | materialized
  | resumed
  | skippedUnchanged
  | skippedUnsupported
  deriving DecidableEq

structure SyncOutcome where
  action : SyncAction
  record : Option Artifact
  deriving DecidableEq

/-- What a run knows after loading the stored state. -/
structure SyncContext (Version : Type) where
  prior : Option (SyncState Version)
  checkpoint : Option (Checkpoint Version)
  stableSourceVersion : Option Version
  priorArtifact : Option Artifact
  destinationWasHealthy : Bool
  watermark : Option String
  checkpointedKind : Bool
  outcome : Option SyncOutcome

variable {Schema Row Version : Type} [DecidableEq Version]

/-! ## Loading the stored state -/

section Load

variable (codec : Codec Schema Row) (site : Site)

/-- The record is of the final URI, and the file there has its size and digest. -/
def destinationHealth (destination : Destination Schema Row Version) (record : Artifact) : Bool :=
  decide (record.uri = site.finalUri) &&
    match destination.published with
    | none => false
    | some file =>
        decide (file.bytes.length = record.size) &&
          decide (codec.sha256 file.bytes = record.blobDigest)

def checkpointIsStale (checkpoint : Checkpoint Version) (sourceVersion : Option Version) : Bool :=
  let sourceChanged :=
    match sourceVersion, checkpoint.sourceVersion with
    | some current, some recorded => decide (current ≠ recorded)
    | _, _ => false
  sourceChanged || decide (checkpoint.destinationIdentity ≠ site.destinationIdentity)

/-- Whether a healthy completed record already matches the current source. -/
def sourceVersionUnchanged (prior : Option (SyncState Version))
    (priorArtifact : Option Artifact) (stableSourceVersion : Option Version)
    (healthy : Bool) : Bool :=
  match prior, priorArtifact, stableSourceVersion with
  | some state, some _, some version =>
      healthy && decide (state.sourceVersion = some version)
  | _, _, _ => false

/-- The completed record of a stored state, unless it is absent. -/
def completedArtifactRecord (prior : Option (SyncState Version)) : Option Artifact :=
  prior.bind (·.completedArtifact)

/-- The source version of the run; only the checkpointed kind has one. -/
def Access.sourceVersion : Access Schema Row Version → Option Version
  | .parquetFile source _ => source.version
  | _ => none

def Access.checkpointedKind : Access Schema Row Version → Bool
  | .parquetFile .. => true
  | _ => false

/-- The state and the checkpoint a run goes on with: a stale checkpoint is
discarded together with the state that holds it, in memory only. -/
def discardStale (stored : Option (SyncState Version)) (sourceVersion : Option Version) :
    Option (SyncState Version) × Option (Checkpoint Version) :=
  match stored.bind (·.checkpoint) with
  | none => (stored, none)
  | some checkpoint =>
      if checkpointIsStale site checkpoint sourceVersion then (none, none)
      else (stored, some checkpoint)

/-- A resuming run reports a healthy completed record without looking further. -/
def resumeOutcome (destination : Destination Schema Row Version) (resume : Bool) :
    Option SyncOutcome :=
  let completed := completedArtifactRecord destination.stored
  if resume && (destination.stored.bind (·.checkpoint)).isNone &&
      completed.any (destinationHealth codec site destination) then
    some ⟨.resumed, completed⟩
  else none

/-- The context of a run that is not done yet, from what is left of the stored state. -/
def contextOf (destination : Destination Schema Row Version)
    (access : Access Schema Row Version) (prior : Option (SyncState Version))
    (checkpoint : Option (Checkpoint Version)) : SyncContext Version :=
  let priorArtifact := completedArtifactRecord prior
  let healthy := priorArtifact.any (destinationHealth codec site destination)
  { prior := prior
    checkpoint := checkpoint
    stableSourceVersion := access.sourceVersion
    priorArtifact := priorArtifact
    destinationWasHealthy := healthy
    watermark := prior.bind (·.watermark)
    checkpointedKind := access.checkpointedKind
    outcome :=
      if checkpoint.isNone && access.checkpointedKind &&
          sourceVersionUnchanged prior priorArtifact access.sourceVersion healthy then
        some ⟨.skippedUnchanged, priorArtifact⟩
      else none }

def loadSyncContext (destination : Destination Schema Row Version)
    (access : Access Schema Row Version) (resume : Bool) : SyncContext Version :=
  match resumeOutcome codec site destination resume with
  | some outcome =>
      { prior := destination.stored
        checkpoint := none
        stableSourceVersion := none
        priorArtifact := completedArtifactRecord destination.stored
        destinationWasHealthy := true
        watermark := destination.stored.bind (·.watermark)
        checkpointedKind := false
        outcome := some outcome }
  | none =>
      contextOf codec site destination access
        (discardStale site destination.stored access.sourceVersion).1
        (discardStale site destination.stored access.sourceVersion).2

/-- A checkpoint a run goes on with is the stored one, and not stale. -/
theorem discardStale_snd {stored : Option (SyncState Version)} {sourceVersion : Option Version}
    {checkpoint : Checkpoint Version}
    (hkept : (discardStale site stored sourceVersion).2 = some checkpoint) :
    (∃ state, stored = some state ∧ state.checkpoint = some checkpoint) ∧
      checkpointIsStale site checkpoint sourceVersion = false := by
  unfold discardStale at hkept
  split at hkept
  · cases hkept
  · rename_i recorded hstored
    split at hkept
    · cases hkept
    · rename_i hfresh
      cases hkept
      exact ⟨Option.bind_eq_some_iff.mp hstored, by simpa using hfresh⟩

/-- What a run without an early outcome goes on with. -/
theorem loadSyncContext_of_outcome_none {destination : Destination Schema Row Version}
    {access : Access Schema Row Version} {resume : Bool}
    (hnone : (loadSyncContext codec site destination access resume).outcome = none) :
    loadSyncContext codec site destination access resume =
      contextOf codec site destination access
        (discardStale site destination.stored access.sourceVersion).1
        (discardStale site destination.stored access.sourceVersion).2 := by
  unfold loadSyncContext at hnone ⊢
  split at hnone
  · cases hnone
  · rfl

end Load

/-! ## The conditional request -/

/-- Whether a text is a SHA-256 hexadecimal digest. -/
def isSha256 (value : String) : Bool :=
  decide (value.length = 64) && value.toList.all ("0123456789abcdefABCDEF".toList.contains ·)

/-- The validators a stored watermark is sent as: an entity tag, or a date. -/
def conditionalValidators : Option String → Option String × Option String
  | none => (none, none)
  | some watermark =>
      if watermark.startsWith "\"" || watermark.startsWith "W/" then (some watermark, none)
      else (none, some watermark)

def preferredWatermark (response : HttpResponse Schema Row) : Option String :=
  match response.etag with
  | some etag => some etag
  | none => response.lastModified

/-- What the materialization reads from, the fresh watermark, and an outcome when
the server says the resource did not change. -/
structure ConditionalRead (Schema Row : Type) where
  table : Except SyncError (Table Schema Row)
  freshWatermark : Option String
  outcome : Option SyncOutcome

/-- The table a PARQUET file reads as. -/
def SourceView.table (source : SourceView Schema Row Version) : Table Schema Row :=
  ⟨source.schema, source.groups.flatten⟩

/-- The request with the stored validators. A redirect is left to the reader, and so
is an unchanged resource whose file is not healthy. -/
def conditionalRequest (codec : Codec Schema Row) (site : Site)
    (destination : Destination Schema Row Version) (context : SyncContext Version)
    (send : Option String → Option String → Except SyncError (HttpResponse Schema Row))
    (table : Except SyncError (Table Schema Row)) :
    Except SyncError (ConditionalRead Schema Row) :=
  match send (conditionalValidators context.watermark).1
      (conditionalValidators context.watermark).2 with
  | .error error => .error error
  | .ok response =>
      if response.status ∈ [301, 302, 303, 307, 308] then .ok ⟨table, none, none⟩
      else if response.status = 304 then
        let completed := completedArtifactRecord context.prior
        if completed.any (destinationHealth codec site destination) then
          .ok ⟨table, none, some ⟨.skippedUnchanged, completed⟩⟩
        else .ok ⟨table, none, none⟩
      else if 200 ≤ response.status ∧ response.status < 300 then
        .ok ⟨response.table, preferredWatermark response, none⟩
      else .error (.httpStatus response.status)

/-- What a run reads from. The request is made only for HTTP downloads, and not when
the stored watermark is a digest. -/
def conditionalReader (codec : Codec Schema Row) (site : Site)
    (destination : Destination Schema Row Version) (context : SyncContext Version) :
    Access Schema Row Version → Except SyncError (ConditionalRead Schema Row)
  | .unsupported => .error (.reader "unsupported access kind")
  | .parquetFile source _ => .ok ⟨.ok source.table, none, none⟩
  | .other none table => .ok ⟨table, none, none⟩
  | .other (some send) table =>
      if context.watermark.any isSha256 then .ok ⟨table, none, none⟩
      else conditionalRequest codec site destination context send table

/-! ## The durable writes -/

namespace Destination

variable (destination : Destination Schema Row Version)

def storeState (state : SyncState Version) : Destination Schema Row Version :=
  { destination with
    stored := some state
    committed := destination.published.map (·.table)
    overwritten := false }

def removeShard (index : Nat) : Destination Schema Row Version :=
  { destination with shards := fun other => if other = index then none else destination.shards other }

/-- Move a shard into place, on behalf of a run over `version`. -/
def putShard (version : Option Version) (index : Nat) (shard : Table Schema Row) :
    Destination Schema Row Version :=
  { destination with
    shards := fun other => if other = index then some shard else destination.shards other
    overwritten := destination.overwritten ||
      (destination.stored.bind (·.checkpoint)).any fun checkpoint =>
        decide (index < checkpoint.nextBatchIndex ∧ checkpoint.sourceVersion ≠ version) }

/-- Move a file to the final URI. -/
def publish (file : Published Schema Row) : Destination Schema Row Version :=
  { destination with published := some file }

def cleanupShards (survives : Nat → Bool) : Destination Schema Row Version :=
  { destination with
    shards := fun index => if survives index then destination.shards index else none }

end Destination

/-- Programs of one run. -/
abbrev SyncM (Schema Row Version : Type) :=
  Durable (Destination Schema Row Version) SyncError

/-- A call that writes nothing itself. -/
def perform (raises : Call → Option String) (call : Call) : SyncM Schema Row Version Unit :=
  Durable.attempt ((raises call).map .raised)

omit [DecidableEq Version] in
theorem perform_decides {raises : Call → Option String} {call : Call}
    {P : Destination Schema Row Version → Prop} :
    Durable.Decides (raises call = none) P (perform raises call) (fun _ => P) P :=
  (Durable.Decides.attempt fun _ hpre => hpre).congr Option.map_eq_none_iff

/-! ## Materialization in one piece -/

section Materialize

variable (codec : Codec Schema Row) (site : Site) (raises : Call → Option String)

def artifact (size : Nat) (contentDigest blobDigest : String) : Artifact where
  uri := site.recordUri
  size := size
  contentDigest := contentDigest
  blobDigest := blobDigest

/-- Whether the published file may stand for the staged bytes: it is byte for byte
the same, or reads back with the same logical digest. An unreadable file is stale. -/
def existingRecord (published : Option (Published Schema Row)) (staged : Bytes)
    (checksum : String) (storedChecksum : Option String) : Option Bytes :=
  match published with
  | none => none
  | some file =>
      if storedChecksum ≠ some checksum then none
      else if file.bytes.length = staged.length ∧ codec.sha256 file.bytes = codec.sha256 staged then
        some file.bytes
      else if codec.readBack file.bytes = some checksum then some file.bytes
      else none

/-- The file that is kept is the published one, and its checksum was stored. -/
theorem existingRecord_eq_some {published : Option (Published Schema Row)} {staged bytes : Bytes}
    {checksum : String} {storedChecksum : Option String}
    (hexisting : existingRecord codec published staged checksum storedChecksum = some bytes) :
    storedChecksum = some checksum ∧ published.map (·.bytes) = some bytes := by
  unfold existingRecord at hexisting
  split at hexisting
  · cases hexisting
  · split at hexisting
    · cases hexisting
    · rename_i hstored
      refine ⟨not_not.mp hstored, ?_⟩
      split at hexisting
      · exact hexisting
      · split at hexisting
        · exact hexisting
        · cases hexisting

/-- Stage a table, and move it to the final URI unless the file there will do. -/
def materialize (write : Table Schema Row → Bytes)
    (reader : Except SyncError (Table Schema Row)) (storedChecksum : Option String) :
    SyncM Schema Row Version Artifact :=
  match reader with
  | .error error => Durable.fail error
  | .ok table => do
      perform raises .stageFile
      let contentDigest := codec.logicalSha256 table
      let staged := write table
      let destination ← Durable.read
      match existingRecord codec destination.published staged contentDigest storedChecksum with
      | some bytes => do
          perform raises .describeFile
          pure (artifact site bytes.length contentDigest (codec.sha256 bytes))
      | none => do
          perform raises .moveFile
          Durable.write (·.publish ⟨staged, table⟩)
          perform raises .describeFile
          pure (artifact site staged.length contentDigest (codec.sha256 staged))

end Materialize

/-! ## Checkpointed materialization -/

/-- The position after a yielded batch: the shard count, and the physical row group. -/
structure BatchCursor where
  nextBatchIndex : Nat
  rowGroupIndex : Nat
  deriving DecidableEq

/-- The non-empty row groups from `start` on, with their physical indexes. -/
def readBatchesFromRowGroup (groups : List (List Row)) (start : Nat) :
    Except SyncError (List (List Row × Nat)) :=
  if groups.length < start then .error (.rowGroupBeyondFooter start groups.length)
  else .ok ((groups.zipIdx.drop start).filter fun pair => !pair.1.isEmpty)

/-- Every batch with the cursor after it. The physical indexes come from one
increasing range. -/
def iterBatchesWithCursors : Nat → List (List Row × Nat) → List (List Row × BatchCursor)
  | _, [] => []
  | next, (batch, physical) :: pairs =>
      (batch, ⟨next + 1, physical + 1⟩) :: iterBatchesWithCursors (next + 1) pairs

section Checkpointed

variable (codec : Codec Schema Row) (site : Site) (raises : Call → Option String)

def publishBatchShard (version : Option Version) (index : Nat) (shard : Table Schema Row) :
    SyncM Schema Row Version Unit := do
  let destination ← Durable.read
  if (destination.shards index).isSome then Durable.write (·.removeShard index)
  perform raises (.publishShard index)
  Durable.write (·.putShard version index shard)

/-- The state that is stored while batches are staged. -/
def inProgressState (cursor : BatchCursor) (version : Option Version) : SyncState Version where
  watermark := none
  checkpoint := some
    ⟨cursor.nextBatchIndex, cursor.rowGroupIndex, version, site.destinationIdentity⟩
  completedArtifact := none
  sourceVersion := none

/-- Stage one batch: publish its shard, then store the cursor after it. -/
def stageBatch (version : Option Version) (schema : Schema)
    (item : List Row × BatchCursor) (nextBatchIndex : Nat) :
    SyncM Schema Row Version Nat := do
  perform raises (.readBatch nextBatchIndex)
  if item.2.nextBatchIndex ≠ nextBatchIndex + 1 then
    Durable.fail (.corruptCursor (nextBatchIndex + 1) item.2.nextBatchIndex)
  else do
    publishBatchShard raises version nextBatchIndex ⟨schema, item.1⟩
    perform raises (.storeCheckpoint nextBatchIndex)
    Durable.write (·.storeState (inProgressState site item.2 version))
    pure item.2.nextBatchIndex

def requireCheckpointShards (count : Nat) : SyncM Schema Row Version Unit := do
  let destination ← Durable.read
  match (List.range count).find? fun index => (destination.shards index).isNone with
  | some index => Durable.fail (.missingShard index)
  | none => pure ()

/-- The tables of the first `count` shards. -/
def checkpointBatches (destination : Destination Schema Row Version) (count : Nat) :
    List (Table Schema Row) :=
  (List.range count).filterMap destination.shards

variable [DecidableEq Schema]

/-- Write the shards to one file and move it to the final URI. The writer refuses a
batch of another schema. -/
def publishParquet (write : Table Schema Row → Bytes) (schema : Schema) (count : Nat) :
    SyncM Schema Row Version Artifact := do
  perform raises .stageFile
  let destination ← Durable.read
  let batches := checkpointBatches destination count
  if batches.all fun batch => decide (batch.schema = schema) then do
    let table : Table Schema Row := ⟨schema, batches.flatMap (·.rows)⟩
    let bytes := write table
    perform raises .moveFile
    Durable.write (·.publish ⟨bytes, table⟩)
    perform raises .describeFile
    pure (artifact site bytes.length (codec.logicalSha256 table) (codec.sha256 bytes))
  else Durable.fail .schemaMismatch

/-- Stage what the stream has left, and publish all shards as one file. -/
def materializeCheckpointed (write : Table Schema Row → Bytes) (version : Option Version)
    (schema : Schema) (stream : List (List Row × Nat)) (startBatchIndex : Nat) :
    SyncM Schema Row Version Artifact := do
  requireCheckpointShards startBatchIndex
  let nextBatchIndex ← Durable.fold (stageBatch site raises version schema)
    (iterBatchesWithCursors startBatchIndex stream) startBatchIndex
  perform raises (.readBatch nextBatchIndex)
  requireCheckpointShards nextBatchIndex
  publishParquet codec site raises write schema nextBatchIndex

end Checkpointed

/-! ## The transaction -/

section Transaction

variable [DecidableEq Schema] (codec : Codec Schema Row) (site : Site)

/-- Whether a run stages batches: a checkpointed kind with no healthy record. -/
def SyncContext.usesCheckpoints (context : SyncContext Version) : Bool :=
  context.checkpointedKind && (context.checkpoint.isSome || context.priorArtifact.isNone ||
    !context.destinationWasHealthy)

omit [DecidableEq Version] [DecidableEq Schema] in
/-- A checkpointed kind is written in one piece only over a healthy record. -/
theorem SyncContext.healthy_of_not_usesCheckpoints {context : SyncContext Version}
    (hwhole : ¬ context.usesCheckpoints = true) (hkind : context.checkpointedKind = true) :
    context.priorArtifact.isSome = true ∧ context.destinationWasHealthy = true := by
  rw [SyncContext.usesCheckpoints, hkind, Bool.true_and, Bool.or_eq_true, Bool.or_eq_true,
    not_or, not_or] at hwhole
  exact ⟨by simpa [Option.isSome_iff_ne_none] using hwhole.1.2, by simpa using hwhole.2⟩

/-- Where a run starts: the batch, the row group, and what it will report. -/
def resumePoint (resume resumable : Bool) (checkpoint : Option (Checkpoint Version)) :
    Except SyncError (Nat × Nat × SyncAction) :=
  match resume, checkpoint with
  | true, some checkpoint =>
      if resumable then .ok (checkpoint.nextBatchIndex, checkpoint.rowGroupIndex, .resumed)
      else .error (.cannotResume checkpoint.rowGroupIndex)
  | _, _ => .ok (0, 0, .materialized)

/-- Whether the source was replaced while it was read, as far as both digests tell. -/
def sourceReplaced (before after : Option Version) : Bool :=
  match after, before with
  | some after, some before => decide (after ≠ before)
  | _, _ => false

/-- Stage and publish a PARQUET file, from the stored checkpoint when the run resumes.
The source is hashed again afterwards. -/
def materializeStaged (input : RunInput Schema Row Version)
    (source : SourceView Schema Row Version) (resumable : Bool) (context : SyncContext Version) :
    SyncM Schema Row Version (Artifact × SyncAction) :=
  match resumePoint input.resume resumable context.checkpoint with
  | .error error => Durable.fail error
  | .ok (start, rowGroup, action) =>
      match readBatchesFromRowGroup source.groups rowGroup with
      | .error error => Durable.fail error
      | .ok stream => do
          let record ← materializeCheckpointed codec site input.raises input.write
            context.stableSourceVersion source.schema stream start
          if sourceReplaced context.stableSourceVersion source.versionAfter then do
            Durable.write (·.cleanupShards input.survives)
            Durable.fail .sourceChanged
          else pure (record, action)

/-- The watermark of a completed state; an empty validator counts as none. -/
def committedWatermark (freshWatermark : Option String) (checksum : String) : String :=
  match freshWatermark with
  | none => checksum
  | some watermark => if watermark = "" then checksum else watermark

/-- The state that is stored after a completed materialization. -/
def completedSyncState (watermark : String) (record : Artifact)
    (sourceVersion : Option Version) : SyncState Version where
  watermark := some watermark
  checkpoint := none
  completedArtifact := some record
  sourceVersion := sourceVersion

/-- Report the earlier record when nothing seems to have changed; otherwise commit
the new one, and remove the shards. -/
def finishResourceSync (raises : Call → Option String) (survives : Nat → Bool)
    (record : Artifact) (action : SyncAction) (useCheckpointed : Bool)
    (freshWatermark : Option String) (context : SyncContext Version) :
    SyncM Schema Row Version SyncOutcome :=
  let checksum := record.contentDigest
  if freshWatermark = none ∧ context.watermark = some checksum ∧
      context.destinationWasHealthy = true ∧ useCheckpointed = false ∧
      context.priorArtifact.isSome = true then
    pure ⟨.skippedUnchanged, context.priorArtifact⟩
  else do
    perform raises .storeCompleted
    Durable.write (·.storeState
      (completedSyncState (committedWatermark freshWatermark checksum) record
        context.stableSourceVersion))
    if useCheckpointed then Durable.write (·.cleanupShards survives)
    pure ⟨action, some record⟩

/-- Materialize the resource, staged or in one piece; the last value says which. -/
def materializeResource (input : RunInput Schema Row Version) (context : SyncContext Version)
    (reader : Except SyncError (Table Schema Row)) :
    SyncM Schema Row Version (Artifact × SyncAction × Bool) :=
  match input.access, context.usesCheckpoints with
  | .parquetFile source resumable, true => do
      let staged ← materializeStaged codec site input source resumable context
      pure (staged.1, staged.2, true)
  | _, _ => do
      let record ← materialize codec site input.raises input.write reader context.watermark
      pure (record, .materialized, false)

/-- The conditional request and the materialization of a run that is not done yet. -/
def syncTransactionOutcome (input : RunInput Schema Row Version)
    (destination : Destination Schema Row Version) (context : SyncContext Version) :
    SyncM Schema Row Version SyncOutcome :=
  match conditionalReader codec site destination context input.access with
  | .error error => Durable.fail error
  | .ok reading =>
      match reading.outcome with
      | some outcome => pure outcome
      | none => do
          let done ← materializeResource codec site input context reading.table
          finishResourceSync input.raises input.survives done.1 done.2.1 done.2.2
            reading.freshWatermark context

/-- One run over one resource. -/
def syncResource (input : RunInput Schema Row Version) : SyncM Schema Row Version SyncOutcome :=
  match input.access with
  | .unsupported => pure ⟨.skippedUnsupported, none⟩
  | _ => do
      perform input.raises .loadState
      let destination ← Durable.read
      match (loadSyncContext codec site destination input.access input.resume).outcome with
      | some outcome => pure outcome
      | none =>
          syncTransactionOutcome codec site input destination
            (loadSyncContext codec site destination input.access input.resume)

end Transaction

end DataSluice.Sync
