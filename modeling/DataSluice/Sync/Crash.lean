/-
# Crashes between runs

Runs over one PARQUET file and one destination follow one another; each may be cut
after any of its durable writes, and between two runs the source may be replaced.
The stored checkpoint names the version of the source its shards were staged from.

A run that finds the checkpoint stale discards it in memory only. It overwrites
shard 0 before it stores a checkpoint of its own, and a crash in between leaves the
old checkpoint with a shard of another version. The old checkpoint is stale as long
as the source stays what it is. When the source goes back to the old content, it is
not, and the next run completes a mixed file.
-/

import Mathlib.Logic.Function.Basic
import DataSluice.Lib.Transition
import DataSluice.Sync.Transaction

namespace DataSluice.Sync

open DataSluice.Lib

variable {Src Schema Row Version : Type}

/-- How source files are read and hashed. -/
structure ParquetFormat (Src Schema Row Version : Type) where
  schema : Src → Schema
  groups : Src → List (List Row)
  digest : Src → Version

namespace ParquetFormat

variable (format : ParquetFormat Src Schema Row Version)

/-- What a run sees of a source that does not change while it is read. -/
def view (source : Src) : SourceView Schema Row Version where
  version := some (format.digest source)
  versionAfter := some (format.digest source)
  schema := format.schema source
  groups := format.groups source

/-- The batches a source is staged as. -/
def batches (source : Src) : List (List Row) :=
  (format.groups source).filter fun group => !group.isEmpty

/-- All rows of a source under its schema. -/
def table (source : Src) : Table Schema Row :=
  ⟨format.schema source, (format.batches source).flatten⟩

end ParquetFormat

/-! ## Streams of one source -/

section Streams

variable {groups : List (List Row)}

/-- The cursor stands right after the first `nextBatchIndex` non-empty row groups. -/
def Positioned (groups : List (List Row)) (nextBatchIndex rowGroupIndex : Nat) : Prop :=
  rowGroupIndex ≤ groups.length ∧
    ((groups.take rowGroupIndex).filter fun group => !group.isEmpty).length = nextBatchIndex

/-- The items are the batches from `next` on, each with the cursor after it. -/
def Remaining (groups : List (List Row)) : Nat → List (List Row × BatchCursor) → Prop
  | next, [] => next = (groups.filter fun group => !group.isEmpty).length
  | next, item :: items =>
      (groups.filter fun group => !group.isEmpty)[next]? = some item.1 ∧
        item.2.nextBatchIndex = next + 1 ∧
        Positioned groups item.2.nextBatchIndex item.2.rowGroupIndex ∧
        Remaining groups (next + 1) items

/-- A stream opened after the row groups `before` yields what comes after them. -/
theorem remaining_append (before after : List (List Row)) :
    Remaining (before ++ after) (before.filter fun group => !group.isEmpty).length
      (iterBatchesWithCursors (before.filter fun group => !group.isEmpty).length
        ((after.zipIdx before.length).filter fun pair => !pair.1.isEmpty)) := by
  induction after generalizing before with
  | nil => simp [iterBatchesWithCursors, Remaining]
  | cons group after ih =>
      have hnext := ih (before ++ [group])
      rw [List.append_assoc, List.singleton_append] at hnext
      cases group with
      | nil => simpa using hnext
      | cons row rows =>
          simp only [List.zipIdx_cons, List.isEmpty_cons, Bool.not_false, List.filter_cons_of_pos,
            iterBatchesWithCursors, Remaining]
          refine ⟨?_, trivial, ?_, ?_⟩
          · simp
          · refine ⟨by simp, ?_⟩
            rw [List.take_append, List.take_of_length_le (Nat.le_succ _)]
            simp
          · simpa using hnext

/-- Opening at a positioned cursor succeeds and yields the remaining batches. -/
theorem exists_stream_of_positioned {nextBatchIndex rowGroupIndex : Nat}
    (hposition : Positioned groups nextBatchIndex rowGroupIndex) :
    ∃ stream, readBatchesFromRowGroup groups rowGroupIndex = .ok stream ∧
      Remaining groups nextBatchIndex (iterBatchesWithCursors nextBatchIndex stream) := by
  obtain ⟨hle, hcount⟩ := hposition
  refine ⟨_, by rw [readBatchesFromRowGroup, if_neg (Nat.not_lt_of_le hle)], ?_⟩
  have hlength : (groups.take rowGroupIndex).length = rowGroupIndex :=
    List.length_take_of_le hle
  have hdrop : groups.zipIdx.drop rowGroupIndex =
      (groups.drop rowGroupIndex).zipIdx rowGroupIndex := by
    conv_lhs => rw [← List.take_append_drop rowGroupIndex groups]
    rw [List.zipIdx_append, List.drop_append, List.drop_eq_nil_of_le (by simp [hlength])]
    simp [hlength]
  have hremaining := remaining_append (groups.take rowGroupIndex) (groups.drop rowGroupIndex)
  rw [List.take_append_drop, hcount, hlength] at hremaining
  rw [hdrop]
  exact hremaining

end Streams

/-! ## What a run keeps -/

section Invariant

variable (format : ParquetFormat Src Schema Row Version) (codec : Codec Schema Row) (site : Site)

/-- The shards below `count` that are there hold batches of one source. -/
def ShardsOf (source : Src) (count : Nat) (destination : Destination Schema Row Version) : Prop :=
  ∀ index < count, ∀ shard, destination.shards index = some shard →
    shard.schema = format.schema source ∧ (format.batches source)[index]? = some shard.rows

/-- What is stored is of one version: the checkpoint with the shards it counts,
unless they were overwritten, or the completed record with the file it was committed
for. -/
structure Sound (destination : Destination Schema Row Version) : Prop where
  checkpoint : ∀ state checkpoint, destination.stored = some state →
    state.checkpoint = some checkpoint → ∃ source,
      checkpoint.sourceVersion = some (format.digest source) ∧
      Positioned (format.groups source) checkpoint.nextBatchIndex checkpoint.rowGroupIndex ∧
      (destination.overwritten = false →
        ShardsOf format source checkpoint.nextBatchIndex destination)
  completed : ∀ state record, destination.stored = some state →
    state.completedArtifact = some record → ∃ source,
      state.sourceVersion = some (format.digest source) ∧
      record.contentDigest = codec.logicalSha256 (format.table source) ∧
      destination.committed = some (format.table source)

/-- Overwritten shards belong to a checkpoint of another version than the source. -/
def OverwrittenStale (source : Src) (destination : Destination Schema Row Version) : Prop :=
  destination.overwritten = true → ∀ state checkpoint, destination.stored = some state →
    state.checkpoint = some checkpoint → checkpoint.sourceVersion ≠ some (format.digest source)

/-- What holds between the writes of a run over `source`. -/
def Safe (source : Src) (destination : Destination Schema Row Version) : Prop :=
  Sound format codec destination ∧ OverwrittenStale format source destination

variable {format codec}

/-- Removing shards, whichever. -/
theorem Safe.shrink {source : Src} {destination : Destination Schema Row Version}
    (hsafe : Safe format codec source destination) {shards : Nat → Option (Table Schema Row)}
    (hshards : ∀ index shard, shards index = some shard →
      destination.shards index = some shard) :
    Safe format codec source { destination with shards := shards } := by
  obtain ⟨hsound, hstale⟩ := hsafe
  refine ⟨⟨?_, hsound.completed⟩, hstale⟩
  intro state checkpoint hstored hcheckpoint
  obtain ⟨origin, hversion, hposition, hkept⟩ := hsound.checkpoint state checkpoint hstored hcheckpoint
  refine ⟨origin, hversion, hposition, fun hclean index hindex shard hshard => ?_⟩
  exact hkept hclean index hindex shard (hshards index shard hshard)

theorem Safe.removeShard {source : Src} {destination : Destination Schema Row Version}
    (hsafe : Safe format codec source destination) (index : Nat) :
    Safe format codec source (destination.removeShard index) := by
  refine hsafe.shrink fun other shard hshard => ?_
  split at hshard
  · cases hshard
  · exact hshard

theorem Safe.cleanupShards {source : Src} {destination : Destination Schema Row Version}
    (hsafe : Safe format codec source destination) (survives : Nat → Bool) :
    Safe format codec source (destination.cleanupShards survives) := by
  refine hsafe.shrink fun index shard hshard => ?_
  split at hshard
  · exact hshard
  · cases hshard

theorem Safe.publish {source : Src} {destination : Destination Schema Row Version}
    (hsafe : Safe format codec source destination) (file : Published Schema Row) :
    Safe format codec source (destination.publish file) :=
  ⟨⟨hsafe.1.checkpoint, hsafe.1.completed⟩, hsafe.2⟩

theorem safe_storeCheckpoint {source : Src} {destination : Destination Schema Row Version}
    {cursor : BatchCursor}
    (hposition : Positioned (format.groups source) cursor.nextBatchIndex cursor.rowGroupIndex)
    (hshards : ShardsOf format source cursor.nextBatchIndex destination) :
    Safe format codec source (destination.storeState
      (inProgressState site cursor (some (format.digest source)))) := by
  refine ⟨⟨?_, ?_⟩, fun hoverwritten => by cases hoverwritten⟩
  · rintro _ _ ⟨⟩ ⟨⟩
    exact ⟨source, rfl, hposition, fun _ => hshards⟩
  · rintro _ _ ⟨⟩ hcompleted
    cases hcompleted

/-- The file at the final URI was written from the whole source. -/
def PublishedFrom (format : ParquetFormat Src Schema Row Version) (source : Src)
    (destination : Destination Schema Row Version) : Prop :=
  destination.published.map (·.table) = some (format.table source)

/-- A record of the whole source. -/
def RecordOf (format : ParquetFormat Src Schema Row Version) (codec : Codec Schema Row)
    (source : Src) (record : Artifact) : Prop :=
  record.contentDigest = codec.logicalSha256 (format.table source)

theorem safe_storeCompleted {source : Src} {destination : Destination Schema Row Version}
    (hpublished : PublishedFrom format source destination) (watermark : String)
    {record : Artifact} (hrecord : RecordOf format codec source record) :
    Safe format codec source (destination.storeState
      (completedSyncState watermark record (some (format.digest source)))) := by
  refine ⟨⟨?_, ?_⟩, fun hoverwritten => by cases hoverwritten⟩
  · rintro _ _ ⟨⟩ hcheckpoint
    cases hcheckpoint
  · rintro _ _ ⟨⟩ ⟨⟩
    exact ⟨source, rfl, hrecord, hpublished⟩

variable [DecidableEq Version]

/-- A run over the source puts one of its batches into place. Either the stored
checkpoint is of the same source, or it is of another one and now overwritten. -/
theorem Safe.putShard (hdigest : Function.Injective format.digest) {source : Src}
    {destination : Destination Schema Row Version}
    (hsafe : Safe format codec source destination) {index : Nat} {batch : List Row}
    (hbatch : (format.batches source)[index]? = some batch) :
    Safe format codec source (destination.putShard (some (format.digest source)) index
      ⟨format.schema source, batch⟩) := by
  obtain ⟨hsound, hstale⟩ := hsafe
  refine ⟨⟨?_, hsound.completed⟩, ?_⟩
  · intro state checkpoint hstored hcheckpoint
    obtain ⟨origin, hversion, hposition, hkept⟩ :=
      hsound.checkpoint state checkpoint hstored hcheckpoint
    refine ⟨origin, hversion, hposition, fun hclean other hother shard hshard => ?_⟩
    have hboth : destination.overwritten = false ∧
        ¬ (index < checkpoint.nextBatchIndex ∧
          checkpoint.sourceVersion ≠ some (format.digest source)) := by
      have hstored' : destination.stored = some state := hstored
      simpa [Destination.putShard, hstored', hcheckpoint] using hclean
    by_cases hindex : other = index
    · subst hindex
      have hsame : origin = source := by
        by_contra hne
        refine hboth.2 ⟨hother, ?_⟩
        rw [hversion]
        exact fun h => hne (hdigest (Option.some.inj h))
      subst hsame
      have hnew : shard = ⟨format.schema origin, batch⟩ := by
        simpa [Destination.putShard, eq_comm] using hshard
      rw [hnew]
      exact ⟨rfl, hbatch⟩
    · have hold : destination.shards other = some shard := by
        simpa [Destination.putShard, hindex] using hshard
      exact hkept hboth.1 other hother shard hold
  · intro hoverwritten state checkpoint hstored hcheckpoint
    have hstored' : destination.stored = some state := hstored
    cases hbefore : destination.overwritten with
    | true => exact hstale hbefore state checkpoint hstored' hcheckpoint
    | false =>
        have hnow : index < checkpoint.nextBatchIndex ∧
            checkpoint.sourceVersion ≠ some (format.digest source) := by
          simpa [Destination.putShard, hstored', hcheckpoint, hbefore] using hoverwritten
        exact hnow.2

end Invariant

/-! ## Every write of a run is safe -/

section Runs

open Durable

variable {format : ParquetFormat Src Schema Row Version} (codec : Codec Schema Row) (site : Site)
variable {source : Src}

/-- A file written in one piece is of the source it was read from; otherwise the
file that is kept had the checksum of the source stored for it. -/
theorem materialize_safe (raises : Call → Option String) (write : Table Schema Row → Bytes)
    (storedChecksum : Option String) :
    Triple (Safe format codec source)
      (materialize codec site raises write (.ok (format.view source).table) storedChecksum)
      (fun record destination => Safe format codec source destination ∧
        RecordOf format codec source record ∧
        (storedChecksum = some record.contentDigest ∨ PublishedFrom format source destination))
      (Safe format codec source) := by
  have htable : (format.view source).table = format.table source := by
    rw [ParquetFormat.table, ParquetFormat.batches, List.flatten_filter_not_isEmpty]
    rfl
  have hrecord := congrArg codec.logicalSha256 htable
  refine Triple.attempt.bind fun _ => Triple.read.bind fun destination => ?_
  split
  · rename_i bytes hexisting
    refine Triple.attempt.bind fun _ => .pure fun _ hpre => ?_
    exact ⟨hpre.2, hrecord, .inl (existingRecord_eq_some codec hexisting).1⟩
  · refine Triple.attempt.bind fun _ => Triple.bind
      (R := fun _ destination => Safe format codec source destination ∧
        PublishedFrom format source destination) ?_ fun _ => Triple.attempt.bind fun _ =>
          .pure fun _ hpost => ⟨hpost.1, hrecord, .inr hpost.2⟩
    exact .write (fun _ hpre => hpre.2.publish _)
      fun _ hpre => ⟨hpre.2.publish _, congrArg some htable⟩

theorem finishResourceSync_safe (raises : Call → Option String) (survives : Nat → Bool)
    {record : Artifact}
    (hrecord : RecordOf format codec source record) (action : SyncAction)
    {useCheckpointed : Bool} {freshWatermark : Option String} {context : SyncContext Version}
    (hversion : context.stableSourceVersion = some (format.digest source)) :
    Triple (fun destination => Safe format codec source destination ∧
        (¬ (freshWatermark = none ∧ context.watermark = some record.contentDigest ∧
          context.destinationWasHealthy = true ∧ useCheckpointed = false ∧
          context.priorArtifact.isSome = true) → PublishedFrom format source destination))
      (finishResourceSync raises survives record action useCheckpointed freshWatermark context)
      (fun _ => Safe format codec source) (Safe format codec source) := by
  refine .ite (fun _ => .pure fun _ hpre => hpre.1) fun hcommit => ?_
  rw [hversion]
  refine Triple.attempt.bind fun _ => Triple.bind (R := fun _ => Safe format codec source)
    (.write (fun _ hpre => safe_storeCompleted (hpre.2 hcommit) _ hrecord)
      fun _ hpre => safe_storeCompleted (hpre.2 hcommit) _ hrecord) fun _ => ?_
  split
  · refine Triple.bind (R := fun _ => Safe format codec source) ?_ fun _ =>
      .pure fun _ hsafe => hsafe
    exact .write (fun _ hsafe => hsafe.cleanupShards survives)
      fun _ hsafe => hsafe.cleanupShards survives
  · exact .pure fun _ hsafe => hsafe

theorem requireCheckpointShards_safe {P : Destination Schema Row Version → Prop}
    {C : Destination Schema Row Version → Prop} (count : Nat) :
    Triple P (requireCheckpointShards count)
      (fun _ destination => P destination ∧
        ∀ index < count, (destination.shards index).isSome = true) C := by
  refine Triple.read.bind fun destination => ?_
  split
  · exact .fail
  · rename_i hfound
    refine .pure ?_
    rintro _ ⟨rfl, hpre⟩
    refine ⟨hpre, fun index hindex => ?_⟩
    have hpresent := List.find?_eq_none.mp hfound index (List.mem_range.mpr hindex)
    simpa [Option.isSome_iff_ne_none] using hpresent

/-- When all shards of a source are there, they are its batches. -/
theorem checkpointBatches_eq {destination : Destination Schema Row Version} {count : Nat}
    (hcount : count = (format.batches source).length)
    (hshards : ShardsOf format source count destination)
    (hpresent : ∀ index < count, (destination.shards index).isSome = true) :
    checkpointBatches destination count =
      (format.batches source).map fun batch => ⟨format.schema source, batch⟩ := by
  have hshard : ∀ index < count, destination.shards index =
      some ⟨format.schema source, (format.batches source).getD index []⟩ := by
    intro index hindex
    obtain ⟨shard, hstored⟩ := Option.isSome_iff_exists.mp (hpresent index hindex)
    obtain ⟨hschema, hrows⟩ := hshards index hindex shard hstored
    rw [hstored, List.getD_eq_getElem?_getD, hrows, ← hschema]
    rfl
  have hrange : checkpointBatches destination count = (List.range count).map fun index =>
      ⟨format.schema source, (format.batches source).getD index []⟩ := by
    rw [checkpointBatches, ← List.filterMap_eq_map]
    exact List.filterMap_congr fun index hindex => hshard index (List.mem_range.mp hindex)
  rw [hrange, hcount]
  refine List.ext_getElem (by simp) fun index hleft hright => ?_
  have hindex : index < (format.batches source).length := by simpa using hright
  simp [hindex]

theorem publishParquet_safe [DecidableEq Schema] (raises : Call → Option String)
    (write : Table Schema Row → Bytes) {count : Nat} (hcount : count = (format.batches source).length) :
    Triple (fun destination => (Safe format codec source destination ∧
        ShardsOf format source count destination) ∧
        ∀ index < count, (destination.shards index).isSome = true)
      (publishParquet codec site raises write (format.schema source) count)
      (fun record destination => Safe format codec source destination ∧
        RecordOf format codec source record ∧ PublishedFrom format source destination)
      (Safe format codec source) := by
  refine Triple.attempt.bind fun _ => Triple.read.bind fun destination => ?_
  refine .assume (F := checkpointBatches destination count =
    (format.batches source).map fun batch => ⟨format.schema source, batch⟩) ?_ fun hbatches => ?_
  · rintro _ ⟨rfl, ⟨-, hshards⟩, hpresent⟩
    exact checkpointBatches_eq hcount hshards hpresent
  have htable : (⟨format.schema source,
      (checkpointBatches destination count).flatMap (·.rows)⟩ : Table Schema Row) =
        format.table source := by
    rw [hbatches, ParquetFormat.table, List.flatMap_map, List.flatMap_id']
  refine .ite (fun _ => ?_) fun _ => .fail
  refine Triple.attempt.bind fun _ => Triple.bind
    (R := fun _ destination => Safe format codec source destination ∧
      PublishedFrom format source destination) ?_ fun _ => Triple.attempt.bind fun _ =>
        .pure fun _ hpost => ⟨hpost.1, congrArg codec.logicalSha256 htable, hpost.2⟩
  exact .write (fun _ hpre => hpre.2.1.1.publish _)
    fun _ hpre => ⟨hpre.2.1.1.publish _, congrArg some htable⟩

variable [DecidableEq Version] (hdigest : Function.Injective format.digest)

include hdigest in
theorem publishBatchShard_safe (raises : Call → Option String) {index : Nat} {batch : List Row}
    (hbatch : (format.batches source)[index]? = some batch) :
    Triple (fun destination => Safe format codec source destination ∧
        ShardsOf format source index destination)
      (publishBatchShard raises (some (format.digest source)) index ⟨format.schema source, batch⟩)
      (fun _ destination => Safe format codec source destination ∧
        ShardsOf format source (index + 1) destination)
      (Safe format codec source) := by
  have hput : Triple (fun destination => Safe format codec source destination ∧
        ShardsOf format source index destination)
      (Durable.write (·.putShard (some (format.digest source)) index
        ⟨format.schema source, batch⟩) : SyncM Schema Row Version Unit)
      (fun _ destination => Safe format codec source destination ∧
        ShardsOf format source (index + 1) destination)
      (Safe format codec source) := by
    refine .write (fun _ hpre => hpre.1.putShard hdigest hbatch)
      (fun destination hpre => ⟨hpre.1.putShard hdigest hbatch, ?_⟩)
    intro other hother shard hshard
    by_cases hindex : other = index
    · have hnew : shard = ⟨format.schema source, batch⟩ := by
        simpa [Destination.putShard, hindex, eq_comm] using hshard
      rw [hnew, hindex]
      exact ⟨rfl, hbatch⟩
    · refine hpre.2 other (Nat.lt_of_le_of_ne (Nat.le_of_lt_succ hother) hindex) shard ?_
      simpa [Destination.putShard, hindex] using hshard
  refine Triple.read.bind fun destination => ?_
  split
  · refine Triple.bind (R := fun _ destination => Safe format codec source destination ∧
      ShardsOf format source index destination) ?_ fun _ => Triple.attempt.bind fun _ => hput
    refine .write (fun _ hpre => hpre.2.1.removeShard index)
      (fun current hpre => ⟨hpre.2.1.removeShard index, fun other hother shard hshard => ?_⟩)
    refine hpre.2.2 other hother shard ?_
    simpa [Destination.removeShard, Nat.ne_of_lt hother] using hshard
  · exact Triple.attempt.bind fun _ =>
      hput.weaken (fun _ hpre => hpre.2) (fun _ _ hpost => hpost)

/-- The loop invariant: the shards below `next` are of the source, and the items are
its batches from there on. -/
def Staging (format : ParquetFormat Src Schema Row Version) (codec : Codec Schema Row)
    (source : Src) (items : List (List Row × BatchCursor)) (next : Nat)
    (destination : Destination Schema Row Version) : Prop :=
  Safe format codec source destination ∧ ShardsOf format source next destination ∧
    Remaining (format.groups source) next items

include hdigest in
theorem stageBatch_safe (raises : Call → Option String) (item : List Row × BatchCursor)
    (items : List (List Row × BatchCursor)) (next : Nat) :
    Triple (Staging format codec source (item :: items) next)
      (stageBatch site raises (some (format.digest source)) (format.schema source) item next)
      (Staging format codec source items) (Safe format codec source) := by
  refine Triple.attempt.bind fun _ => .ite (fun _ => .fail) fun hcursor => ?_
  refine .assume (fun _ hpre => hpre.2.2) fun ⟨hbatch, hnext, hposition, hrest⟩ => ?_
  have hput := publishBatchShard_safe codec hdigest raises hbatch
  have hstore : Triple (fun destination => Safe format codec source destination ∧
        ShardsOf format source (next + 1) destination)
      (Durable.write (·.storeState (inProgressState site item.2 (some (format.digest source)))) :
        SyncM Schema Row Version Unit)
      (fun _ destination => Safe format codec source destination ∧
        ShardsOf format source item.2.nextBatchIndex destination)
      (Safe format codec source) := by
    rw [← hnext]
    refine .write (fun _ hpre => safe_storeCheckpoint site hposition hpre.2) ?_
    exact fun _ hpre => ⟨safe_storeCheckpoint site hposition hpre.2, hpre.2⟩
  refine Triple.bind (hput.weaken (fun _ hpre => ⟨hpre.1, hpre.2.1⟩) fun _ _ hpost => hpost)
    fun _ => Triple.attempt.bind fun _ => hstore.bind fun _ => ?_
  refine .pure fun _ hpost => ⟨hpost.1, hpost.2, ?_⟩
  rw [hnext]
  exact hrest

include hdigest in
theorem materializeCheckpointed_safe [DecidableEq Schema] (raises : Call → Option String)
    (write : Table Schema Row → Bytes) {stream : List (List Row × Nat)} {start : Nat}
    (hstream : Remaining (format.groups source) start (iterBatchesWithCursors start stream)) :
    Triple (fun destination => Safe format codec source destination ∧
        ShardsOf format source start destination)
      (materializeCheckpointed codec site raises write (some (format.digest source))
        (format.schema source) stream start)
      (fun record destination => Safe format codec source destination ∧
        RecordOf format codec source record ∧ PublishedFrom format source destination)
      (Safe format codec source) := by
  refine (requireCheckpointShards_safe start).bind fun _ => ?_
  have hstaged := Triple.fold (I := Staging format codec source)
    (stageBatch_safe codec site hdigest raises) (iterBatchesWithCursors start stream) start
  refine (hstaged.weaken (fun _ hpre => ⟨hpre.1.1, hpre.1.2, hstream⟩)
    fun _ _ hpost => hpost).bind fun next => ?_
  refine .assume (F := next = (format.batches source).length) (fun _ hpre => hpre.2.2)
    fun hnext => Triple.attempt.bind fun _ => ?_
  refine (requireCheckpointShards_safe next).bind fun _ => ?_
  exact (publishParquet_safe codec site raises write hnext).weaken
    (fun _ hpre => ⟨⟨hpre.1.1, hpre.1.2.1⟩, hpre.2⟩) fun _ _ hpost => hpost

variable [DecidableEq Schema]

include hdigest in
theorem materializeStaged_safe (input : RunInput Schema Row Version) (resumable : Bool)
    {context : SyncContext Version}
    (hversion : context.stableSourceVersion = some (format.digest source))
    (hposition : ∀ checkpoint, context.checkpoint = some checkpoint →
      Positioned (format.groups source) checkpoint.nextBatchIndex checkpoint.rowGroupIndex) :
    Triple (fun destination => Safe format codec source destination ∧
        ∀ checkpoint, context.checkpoint = some checkpoint →
          ShardsOf format source checkpoint.nextBatchIndex destination)
      (materializeStaged codec site input (format.view source) resumable context)
      (fun result destination => Safe format codec source destination ∧
        RecordOf format codec source result.1 ∧ PublishedFrom format source destination)
      (Safe format codec source) := by
  rw [materializeStaged]
  split
  · exact .fail
  · rename_i start rowGroup action hpoint
    obtain ⟨hopen, hshards⟩ : Positioned (format.groups source) start rowGroup ∧
        (start = 0 ∨ ∃ checkpoint, context.checkpoint = some checkpoint ∧
          start = checkpoint.nextBatchIndex) := by
      unfold resumePoint at hpoint
      split at hpoint
      · rename_i checkpoint _ hcheckpoint
        split at hpoint
        · cases hpoint
          exact ⟨hposition checkpoint hcheckpoint, .inr ⟨checkpoint, hcheckpoint, rfl⟩⟩
        · cases hpoint
      · cases hpoint
        exact ⟨⟨Nat.zero_le _, rfl⟩, .inl rfl⟩
    obtain ⟨stream, hstream, hremaining⟩ := exists_stream_of_positioned hopen
    have hopened : readBatchesFromRowGroup (format.view source).groups rowGroup = .ok stream :=
      hstream
    simp only [hopened, hversion]
    refine Triple.bind ((materializeCheckpointed_safe codec site hdigest input.raises input.write
      hremaining).weaken (fun destination hpre => ⟨hpre.1, ?_⟩) fun _ _ hpost => hpost)
      fun record => ?_
    · rcases hshards with rfl | ⟨checkpoint, hcheckpoint, rfl⟩
      · exact fun index hindex => absurd hindex (Nat.not_lt_zero index)
      · exact hpre.2 checkpoint hcheckpoint
    · refine .ite (fun hreplaced => ?_) fun _ => .pure fun _ hpost => hpost
      simp [sourceReplaced, ParquetFormat.view] at hreplaced

omit [DecidableEq Schema] in
include hdigest in
/-- A checkpoint that a run over the source goes on with counts shards of that source. -/
theorem Safe.of_kept_checkpoint {destination : Destination Schema Row Version}
    (hsafe : Safe format codec source destination) {checkpoint : Checkpoint Version}
    (hkept : (discardStale site destination.stored (some (format.digest source))).2 =
      some checkpoint) :
    Positioned (format.groups source) checkpoint.nextBatchIndex checkpoint.rowGroupIndex ∧
      ShardsOf format source checkpoint.nextBatchIndex destination := by
  obtain ⟨hsound, hstale⟩ := hsafe
  obtain ⟨⟨state, hstored, hcheckpoint⟩, hfresh⟩ := discardStale_snd site hkept
  obtain ⟨origin, hversion, hposition, hshards⟩ :=
    hsound.checkpoint state checkpoint hstored hcheckpoint
  have hsame : format.digest source = format.digest origin := by
    have hboth : ¬ ¬ format.digest source = format.digest origin ∧
        checkpoint.destinationIdentity = site.destinationIdentity := by
      simpa [checkpointIsStale, hversion] using hfresh
    exact not_not.mp hboth.1
  cases hdigest hsame
  refine ⟨hposition, hshards ?_⟩
  by_contra hoverwritten
  exact hstale (by simpa using hoverwritten) state checkpoint hstored hcheckpoint hversion

include hdigest in
theorem materializeResource_safe {input : RunInput Schema Row Version} {resumable : Bool}
    (haccess : input.access = .parquetFile (format.view source) resumable)
    {context : SyncContext Version}
    (hversion : context.stableSourceVersion = some (format.digest source))
    (hposition : ∀ checkpoint, context.checkpoint = some checkpoint →
      Positioned (format.groups source) checkpoint.nextBatchIndex checkpoint.rowGroupIndex) :
    Triple (fun destination => Safe format codec source destination ∧
        ∀ checkpoint, context.checkpoint = some checkpoint →
          ShardsOf format source checkpoint.nextBatchIndex destination)
      (materializeResource codec site input context (.ok (format.view source).table))
      (fun done destination => Safe format codec source destination ∧
        RecordOf format codec source done.1 ∧
        (PublishedFrom format source destination ∨
          context.watermark = some done.1.contentDigest ∧ done.2.2 = false ∧
            ¬ context.usesCheckpoints = true))
      (Safe format codec source) := by
  rw [materializeResource, haccess]
  split
  · rename_i view resumed hview _
    cases hview
    refine (materializeStaged_safe codec site hdigest input resumable hversion
      hposition).bind fun _ => .pure fun _ hpost => ?_
    exact ⟨hpost.1, hpost.2.1, .inl hpost.2.2⟩
  · rename_i hwhole
    refine ((materialize_safe codec site input.raises input.write context.watermark).weaken
      (fun _ hpre => hpre.1) fun _ _ hpost => hpost).bind fun _ => .pure fun _ hpost => ?_
    refine ⟨hpost.1, hpost.2.1, hpost.2.2.symm.imp_right fun hstored => ⟨hstored, rfl, ?_⟩⟩
    exact fun huses => hwhole _ _ rfl huses

include hdigest in
/-- Every write of a run over the source is safe. -/
theorem syncResource_safe {input : RunInput Schema Row Version} {resumable : Bool}
    (haccess : input.access = .parquetFile (format.view source) resumable) :
    Triple (Safe format codec source) (syncResource codec site input)
      (fun _ => Safe format codec source) (Safe format codec source) := by
  simp only [syncResource, haccess]
  refine Triple.attempt.bind fun _ => Triple.read.bind fun destination => ?_
  split
  · exact .pure fun _ hpre => hpre.2
  · rename_i hnone
    refine .assume (F := Safe format codec source destination) ?_ fun hsafe => ?_
    · rintro _ ⟨rfl, hsafe⟩
      exact hsafe
    rw [loadSyncContext_of_outcome_none codec site hnone]
    generalize hcontext : contextOf codec site destination _ _ _ = context
    have hversion : context.stableSourceVersion = some (format.digest source) := by
      rw [← hcontext]
      rfl
    have hkept : ∀ checkpoint, context.checkpoint = some checkpoint →
        Positioned (format.groups source) checkpoint.nextBatchIndex checkpoint.rowGroupIndex ∧
          ShardsOf format source checkpoint.nextBatchIndex destination := by
      intro checkpoint hcheckpoint
      rw [← hcontext] at hcheckpoint
      exact hsafe.of_kept_checkpoint codec site hdigest hcheckpoint
    have hmaterialized := materializeResource_safe codec site hdigest haccess hversion
      fun checkpoint hcheckpoint => (hkept checkpoint hcheckpoint).1
    simp only [syncTransactionOutcome, haccess, conditionalReader]
    refine Triple.bind (hmaterialized.weaken ?_ fun _ _ hpost => hpost) fun done => ?_
    · rintro _ ⟨rfl, -⟩
      exact ⟨hsafe, fun checkpoint hcheckpoint => (hkept checkpoint hcheckpoint).2⟩
    refine .assume (fun _ hpost => hpost.2.1) fun hrecord => ?_
    refine (finishResourceSync_safe codec input.raises input.survives hrecord done.2.1 hversion).weaken
      (fun _ hpost => ⟨hpost.1, fun hcommit => ?_⟩) fun _ _ hpost => hpost
    refine hpost.2.2.resolve_right fun ⟨hstored, hpiece, hwhole⟩ => hcommit ?_
    have hkind : context.checkpointedKind = true := by
      rw [← hcontext]
      rfl
    obtain ⟨hprior, hhealthy⟩ := SyncContext.healthy_of_not_usesCheckpoints hwhole hkind
    exact ⟨rfl, hstored, hhealthy, hpiece, hprior⟩

end Runs

/-! ## Histories of runs -/

section Histories

variable [DecidableEq Schema] [DecidableEq Version]

/-- The destination, and the source as it is now. -/
structure SyncWorld (Src Schema Row Version : Type) where
  destination : Destination Schema Row Version
  source : Src

/-- A run that is cut after some of its writes, by a crash or by a call that raises, or a
replacement of the source. -/
inductive SyncEvent (Src Schema Row : Type)
  | run (resume : Bool) (write : Table Schema Row → Bytes) (survives : Nat → Bool)
      (writes : Nat)
  | replaceSource (source : Src)

namespace SyncWorld

variable (format : ParquetFormat Src Schema Row Version) (codec : Codec Schema Row) (site : Site)

/-- The inputs of a run over the current source. -/
def input (world : SyncWorld Src Schema Row Version) (resume : Bool)
    (write : Table Schema Row → Bytes) (survives : Nat → Bool) : RunInput Schema Row Version where
  access := .parquetFile (format.view world.source) true
  resume := resume
  write := write
  survives := survives
  raises _ := none

/-- One event. -/
def step (world : SyncWorld Src Schema Row Version) :
    SyncEvent Src Schema Row → Option (SyncWorld Src Schema Row Version)
  | .run resume write survives writes =>
      some { world with
        destination := (syncResource codec site
          (world.input format resume write survives)).crashAfter writes world.destination }
  | .replaceSource source => some { world with source := source }

/-- A destination nothing has been written to. -/
def untouched (source : Src) : SyncWorld Src Schema Row Version where
  destination := ⟨none, fun _ => none, none, none, false⟩
  source := source

/-- All histories of runs, crashes and replacements. -/
def system : System (SyncWorld Src Schema Row Version) (SyncEvent Src Schema Row) where
  init world := ∃ source, world = untouched source
  step := step format codec site

/-- The source is not replaced by the content of the stored checkpoint while a shard
that checkpoint counts has been overwritten by a run over other content. -/
def KeepsOverwrittenStale (world : SyncWorld Src Schema Row Version) :
    SyncEvent Src Schema Row → Prop
  | .run .. => True
  | .replaceSource source => OverwrittenStale format source world.destination

variable {format}

theorem safe_step (hdigest : Function.Injective format.digest)
    {world next : SyncWorld Src Schema Row Version} {event : SyncEvent Src Schema Row}
    (hsafe : Safe format codec world.source world.destination)
    (hguard : world.KeepsOverwrittenStale format event)
    (hstep : world.step format codec site event = some next) :
    Safe format codec next.source next.destination := by
  cases event with
  | run resume write survives writes =>
      cases hstep
      have hrun := syncResource_safe codec site hdigest
        (rfl : (world.input format resume write survives).access = _)
      rcases hrun.crashAfter hsafe writes with hcrashed | hsame
      · exact hcrashed
      · rw [hsame]
        exact hsafe
  | replaceSource source =>
      cases hstep
      exact ⟨hsafe.1, hguard⟩

/-- In every history in which the source does not go back to the content of a
checkpoint whose shards were overwritten, the shards counted by a checkpoint that is
not stale are batches of the version it names, and what is committed with a completed
state is the table of the version stored with it. -/
theorem checkpoint_and_commit_of_one_version (hdigest : Function.Injective format.digest) :
    ∀ world, (system format codec site).ReachableUnder (KeepsOverwrittenStale format) world →
      (∀ state checkpoint, world.destination.stored = some state →
        state.checkpoint = some checkpoint →
          checkpointIsStale site checkpoint (some (format.digest world.source)) = false →
            ∃ source, checkpoint.sourceVersion = some (format.digest source) ∧
              ∀ index < checkpoint.nextBatchIndex, ∀ shard,
                world.destination.shards index = some shard →
                  shard.schema = format.schema source ∧
                    (format.batches source)[index]? = some shard.rows) ∧
      (∀ state record, world.destination.stored = some state →
        state.completedArtifact = some record →
          ∃ source, state.sourceVersion = some (format.digest source) ∧
            record.contentDigest = codec.logicalSha256 (format.table source) ∧
            world.destination.committed = some (format.table source)) := by
  intro world hreach
  have hsafe : Safe format codec world.source world.destination := by
    refine hreach.invariant ?_ (fun _ _ _ => safe_step codec site hdigest)
    rintro _ ⟨source, rfl⟩
    refine ⟨⟨?_, ?_⟩, fun hoverwritten => by cases hoverwritten⟩
    · intro state checkpoint hstored
      cases hstored
    · intro state record hstored
      cases hstored
  refine ⟨fun state checkpoint hstored hcheckpoint hfresh => ?_, hsafe.1.completed⟩
  have hkept : (discardStale site world.destination.stored
      (some (format.digest world.source))).2 = some checkpoint := by
    simp [discardStale, hstored, hcheckpoint, hfresh]
  obtain ⟨origin, hversion, -, -⟩ := hsafe.1.checkpoint state checkpoint hstored hcheckpoint
  have hsource : checkpoint.sourceVersion = some (format.digest world.source) := by
    have hboth : format.digest world.source = format.digest origin ∧
        checkpoint.destinationIdentity = site.destinationIdentity := by
      simpa [checkpointIsStale, hversion] using hfresh
    rw [hversion, hboth.1]
  exact ⟨world.source, hsource, (hsafe.of_kept_checkpoint codec site hdigest hkept).2⟩

end SyncWorld

/-! ## Concrete histories -/

/-- Files that are their row groups, hashed as themselves. -/
def plainFormat : ParquetFormat (List (List Nat)) Unit Nat (List (List Nat)) where
  schema _ := ()
  groups source := source
  digest source := source

/-- Digests that spell their argument out. -/
def plainCodec : Codec Unit Nat where
  sha256 bytes := String.ofList (bytes.map fun byte => Char.ofNat byte.toNat)
  logicalSha256 table := String.ofList (table.rows.map Char.ofNat)
  readBack _ := none

def plainSite : Site where
  finalUri := "file:///data/out/resource.parquet"
  recordUri := "file:///data/out/resource.parquet"
  destinationIdentity := "file:///data/out"

/-- One byte for each row. -/
def plainWrite (table : Table Unit Nat) : Bytes := table.rows.map UInt8.ofNat

/-- A run crashes after two of three batches. The source is replaced, and the next run
overwrites the first shard and crashes before it stores a checkpoint. The source is replaced by
something else again, and the last run commits it. -/
theorem commit_of_one_version_after_replacements :
    ∃ world, (SyncWorld.system plainFormat plainCodec plainSite).ReachableUnder
        (SyncWorld.KeepsOverwrittenStale plainFormat) world ∧
      world.destination.stored.bind (·.sourceVersion) = some [[5], [6]] ∧
      ∃ source, some [[5], [6]] = some (plainFormat.digest source) ∧
        world.destination.committed = some (plainFormat.table source) := by
  have hstart : (SyncWorld.system plainFormat plainCodec plainSite).ReachableUnder
      (SyncWorld.KeepsOverwrittenStale plainFormat) (SyncWorld.untouched [[1], [], [2], [3]]) :=
    .start ⟨_, rfl⟩
  have hcrashed := hstart.take (.run false plainWrite (fun _ => false) 4) trivial rfl
  have hreplaced := hcrashed.take (.replaceSource [[9], [8], [7]]) (fun hoverwritten => by
    cases hoverwritten) rfl
  have hmixed := hreplaced.take (.run false plainWrite (fun _ => false) 2) trivial rfl
  have hagain := hmixed.take (.replaceSource [[5], [6]]) (by
    intro hoverwritten state checkpoint hstored hcheckpoint
    cases hstored
    cases hcheckpoint
    decide) rfl
  have hdone := hagain.take (.run true plainWrite (fun _ => false) 9) trivial rfl
  have hcommit := (SyncWorld.checkpoint_and_commit_of_one_version plainCodec plainSite
    Function.injective_id _ hdone).2
    (completedSyncState (plainCodec.logicalSha256 ⟨(), [5, 6]⟩)
      (artifact plainSite 2 (plainCodec.logicalSha256 ⟨(), [5, 6]⟩)
        (plainCodec.sha256 [5, 6])) (some [[5], [6]]))
    (artifact plainSite 2 (plainCodec.logicalSha256 ⟨(), [5, 6]⟩) (plainCodec.sha256 [5, 6]))
    (by decide +kernel) rfl
  obtain ⟨source, hversion, -, htable⟩ := hcommit
  exact ⟨_, hdone, by decide +kernel, source, hversion, htable⟩

/-- Three batches of one version are staged up to the second; a run over other
content overwrites shard 0 and crashes before it stores a checkpoint; the source goes
back and the run that resumes commits a file of both versions. -/
theorem mixed_commit_after_source_returns :
    ¬ ∀ world, (SyncWorld.system plainFormat plainCodec plainSite).Reachable world →
      (∀ state checkpoint, world.destination.stored = some state →
        state.checkpoint = some checkpoint →
          checkpointIsStale plainSite checkpoint (some (plainFormat.digest world.source)) = false →
            ∃ source, checkpoint.sourceVersion = some (plainFormat.digest source) ∧
              ∀ index < checkpoint.nextBatchIndex, ∀ shard,
                world.destination.shards index = some shard →
                  shard.schema = plainFormat.schema source ∧
                    (plainFormat.batches source)[index]? = some shard.rows) ∧
      (∀ state record, world.destination.stored = some state →
        state.completedArtifact = some record →
          ∃ source, state.sourceVersion = some (plainFormat.digest source) ∧
            record.contentDigest = plainCodec.logicalSha256 (plainFormat.table source) ∧
            world.destination.committed = some (plainFormat.table source)) := by
  intro hclaim
  obtain ⟨world, hreach, htest⟩ :=
    (SyncWorld.system plainFormat plainCodec plainSite).exists_reachable_of_run
      (SyncWorld.untouched [[1], [2], [3]]) ⟨_, rfl⟩
      [ .run false plainWrite (fun _ => false) 4
      , .replaceSource [[9], [8], [7]]
      , .run false plainWrite (fun _ => false) 2
      , .replaceSource [[1], [2], [3]]
      , .run true plainWrite (fun _ => false) 9 ]
      (fun world => decide (world.destination.stored.bind (·.completedArtifact) =
          some (artifact plainSite 3 (plainCodec.logicalSha256 ⟨(), [9, 2, 3]⟩)
            (plainCodec.sha256 [9, 2, 3]))) &&
        (decide (world.destination.stored.bind (·.sourceVersion) = some [[1], [2], [3]]) &&
          decide (world.destination.committed = some ⟨(), [9, 2, 3]⟩)))
      (by decide +kernel)
  simp only [Bool.and_eq_true, decide_eq_true_eq, Option.bind_eq_some_iff] at htest
  obtain ⟨⟨state, hstored, hcompleted⟩, ⟨_, hstored', hversion⟩, hcommitted⟩ := htest
  cases hstored.symm.trans hstored'
  obtain ⟨source, hsource, -, htable⟩ := (hclaim world hreach).2 state _ hstored hcompleted
  cases hversion.symm.trans hsource
  cases hcommitted.symm.trans htable

end Histories

end DataSluice.Sync
