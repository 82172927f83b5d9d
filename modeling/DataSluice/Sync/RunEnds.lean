/-
# The two ways in which a run ends

A run returns an outcome or raises, and either way it leaves a stored state and a file. What
is said here of both ends is whether the records describe the file, and which bytes and which
record are left. What a run gets to before its end follows from its inputs: which of its calls
raise, what it reads, and what it finds at the destination.
-/

import DataSluice.Sync.Transaction

namespace DataSluice.Sync

open DataSluice.Lib

variable {Schema Row Version : Type}

/-- The record has the size and the digest of the file at the final URI. -/
def Describes (codec : Codec Schema Row) (destination : Destination Schema Row Version)
    (record : Artifact) : Prop :=
  ∃ file, destination.published = some file ∧ record.size = file.bytes.length ∧
    record.blobDigest = codec.sha256 file.bytes

/-- The completed record in the state, if any, describes the file. -/
def StoredDescribes (codec : Codec Schema Row) (destination : Destination Schema Row Version) :
    Prop :=
  ∀ record, completedArtifactRecord destination.stored = some record →
    Describes codec destination record

/-- The reported record and the stored one describe the file. -/
def OutcomeDescribes (codec : Codec Schema Row) (destination : Destination Schema Row Version)
    (outcome : SyncOutcome) : Prop :=
  (∀ record, outcome.record = some record → Describes codec destination record) ∧
    StoredDescribes codec destination

/-- What is asked of the end of a run: the record that it reports, if it does not raise, and the
stored one describe the file. -/
def RunDescribes (codec : Codec Schema Row) (result : Except SyncError SyncOutcome)
    (destination : Destination Schema Row Version) : Prop :=
  (∀ outcome record, result = .ok outcome → outcome.record = some record →
    Describes codec destination record) ∧ StoredDescribes codec destination

theorem OutcomeDescribes.run {codec : Codec Schema Row}
    {destination : Destination Schema Row Version} {outcome : SyncOutcome}
    (hdescribes : OutcomeDescribes codec destination outcome) :
    RunDescribes codec (.ok outcome) destination := by
  refine ⟨?_, hdescribes.2⟩
  rintro _ record ⟨⟩ hrecord
  exact hdescribes.1 record hrecord

section Health

variable {codec : Codec Schema Row} {site : Site}
  {destination : Destination Schema Row Version}

end Health

/-! ## What a run gets to

All of this follows from the inputs of a run and from what it finds. -/

section Conditions

variable [DecidableEq Version] (codec : Codec Schema Row) (site : Site)
  (input : RunInput Schema Row Version) (destination : Destination Schema Row Version)

/-- What the run knows once it has loaded the stored state. -/
abbrev RunInput.context : SyncContext Version :=
  loadSyncContext codec site destination input.access input.resume

/-- The run goes on to its materialization, and reads from here. -/
structure GoesOn (reading : ConditionalRead Schema Row) : Prop where
  loaded : input.raises .loadState = none
  early : (input.context codec site destination).outcome = none
  read : conditionalReader codec site destination (input.context codec site destination)
    input.access = .ok reading
  changed : reading.outcome = none

/-- The run writes this table in one piece, and has a file in place for it. -/
structure Writes (reading : ConditionalRead Schema Row) (table : Table Schema Row) : Prop where
  goes : GoesOn codec site input destination reading
  whole : (input.context codec site destination).usesCheckpoints = false
  supplied : reading.table = .ok table
  staged : input.raises .stageFile = none
  moved : existingRecord codec destination.published (input.write table)
    (codec.logicalSha256 table) (input.context codec site destination).watermark = none →
      input.raises .moveFile = none

/-- A run that stages batches would begin with this one, and these are left. -/
def Opens (source : SourceView Schema Row Version) (start : Nat)
    (stream : List (List Row × Nat)) : Prop :=
  ∃ resumable rowGroup action, input.access = .parquetFile source resumable ∧
    resumePoint input.resume resumable (input.context codec site destination).checkpoint =
      .ok (start, rowGroup, action) ∧
    readBatchesFromRowGroup source.groups rowGroup = .ok stream

/-- The run stages batches, and the shards below its first one are there. -/
structure Stages (source : SourceView Schema Row Version) (start : Nat)
    (stream : List (List Row × Nat)) : Prop where
  goes : ∃ reading, GoesOn codec site input destination reading
  uses : (input.context codec site destination).usesCheckpoints = true
  opened : Opens codec site input destination source start stream
  shards : ∀ index < start, (destination.shards index).isSome = true

/-- The table that the shards below `start` make up. -/
def shardTable (source : SourceView Schema Row Version) (start : Nat) : Table Schema Row :=
  ⟨source.schema, (checkpointBatches destination start).flatMap (·.rows)⟩

/-- No batch is left, and the file of the shards that are there is moved into place. -/
structure Assembles (source : SourceView Schema Row Version) (start : Nat) : Prop where
  stages : Stages codec site input destination source start []
  ended : input.raises (.readBatch start) = none
  schemas : ∀ batch ∈ checkpointBatches destination start, batch.schema = source.schema
  staged : input.raises .stageFile = none
  moved : input.raises .moveFile = none

/-- Without having stored a state, the run moves these bytes to the final URI. -/
def Moves (bytes : Bytes) : Prop :=
  (∃ reading table, Writes codec site input destination reading table ∧
      existingRecord codec destination.published (input.write table) (codec.logicalSha256 table)
        (input.context codec site destination).watermark = none ∧ bytes = input.write table) ∨
    ∃ source start, Assembles codec site input destination source start ∧
      bytes = input.write (shardTable destination source start)

/-- Without having stored a state, the run leaves these bytes at the final URI. -/
def LeavesBytes (bytes : Bytes) : Prop :=
  Moves codec site input destination bytes ∨
    (∀ other, ¬ Moves codec site input destination other) ∧
      destination.published.map (·.bytes) = some bytes

end Conditions

/-! ## How a run ends -/

section Endings

variable [DecidableEq Version] (codec : Codec Schema Row) (site : Site)
  (input : RunInput Schema Row Version) (start : Destination Schema Row Version)

/-- The stored state is that of the start, and the file is a new one if it was moved. -/
structure Leaves (start : Destination Schema Row Version) (moved : Prop)
    (file : Published Schema Row) (final : Destination Schema Row Version) : Prop where
  stored : final.stored = start.stored
  replaced : moved → final.published = some file
  kept : ¬ moved → final.published = start.published

variable {codec site input start} {result : Except SyncError SyncOutcome}
  {final : Destination Schema Row Version}

omit [DecidableEq Version] in
/-- A move that is decided on replaces the file. -/
theorem Leaves.publish {moved : Prop} {file : Published Schema Row} (hmoved : moved) :
    Leaves start moved file (start.publish file) :=
  ⟨rfl, fun _ => rfl, fun hnot => absurd hmoved hnot⟩

/-- What is left at the final URI, when it is known when the run moves its file. -/
theorem Leaves.bytes {moved : Prop} {file : Published Schema Row}
    (hleaves : Leaves start moved file final)
    (hmoves : ∀ bytes, Moves codec site input start bytes ↔ moved ∧ bytes = file.bytes)
    (bytes : Bytes) :
    final.published.map (·.bytes) = some bytes ↔ LeavesBytes codec site input start bytes := by
  by_cases hmoved : moved
  case pos =>
    rw [hleaves.replaced hmoved, Option.map_some, Option.some.injEq]
    constructor
    · rintro rfl
      exact .inl ((hmoves _).mpr ⟨hmoved, rfl⟩)
    · rintro (hbytes | ⟨hnone, -⟩)
      · exact ((hmoves _).mp hbytes).2.symm
      · exact absurd ((hmoves _).mpr ⟨hmoved, rfl⟩) (hnone _)
  case neg =>
    have hnone : ∀ other, ¬ Moves codec site input start other :=
      fun other hother => hmoved ((hmoves other).mp hother).1
    rw [hleaves.kept hmoved]
    constructor
    · exact fun hbytes => .inr ⟨hnone, hbytes⟩
    · rintro (hbytes | ⟨-, hbytes⟩)
      · exact absurd hbytes (hnone bytes)
      · exact hbytes

end Endings

/-! ## Published files -/

section Publish

open Durable

variable (codec : Codec Schema Row) (site : Site) {start : Destination Schema Row Version}

end Publish

/-! ## The commit -/

section Commit

open Durable

variable {codec : Codec Schema Row} {P : Destination Schema Row Version → Prop}

end Commit

end DataSluice.Sync
