/-
# Sources replaced while they are read

A PARQUET source is hashed before its batches are read and again after the final file
has been moved into place. When the two digests differ, the run removes its shards and
raises an error.

Two of its durable effects are left at that point. The final file is the one that was
just moved into place. The stored state is the checkpoint of the last batch, and it
counts shards that are gone; it is stale for every source but the one the run started
from.
-/

import DataSluice.Sync.Crash

namespace DataSluice.Sync

open DataSluice.Lib Durable

variable {Schema Row Version : Type}

/-- The source is readable, and not replaced while it is read. -/
def SourceView.Stable (source : SourceView Schema Row Version) : Prop :=
  source.version.isSome = true ∧ source.versionAfter = source.version

/-- No checkpoint of this destination is stored. -/
def NoCheckpoint (site : Site) (destination : Destination Schema Row Version) : Prop :=
  ∀ state checkpoint, destination.stored = some state → state.checkpoint = some checkpoint →
    checkpoint.destinationIdentity ≠ site.destinationIdentity

/-! ## A run without a checkpoint succeeds -/

section Succeeds

/-- The shards below `count` are there, all of one schema. -/
def Staged (schema : Schema) (count : Nat) (destination : Destination Schema Row Version) : Prop :=
  ∀ index < count, ∃ shard, destination.shards index = some shard ∧ shard.schema = schema

variable [DecidableEq Version] (codec : Codec Schema Row) (site : Site)

omit [DecidableEq Version] in
/-- A call that raises nothing. -/
theorem perform_returns {raises : Call → Option String} {call : Call}
    {P : Destination Schema Row Version → Prop} (hworks : raises call = none) :
    Returns P (perform raises call) (fun _ => P) :=
  Returns.attempt (Option.map_eq_none_iff.mpr hworks)

variable {raises : Call → Option String} (hworks : ∀ call, raises call = none)

include hworks

theorem publishBatchShard_returns (version : Option Version) (index : Nat)
    (shard : Table Schema Row) :
    Returns (Staged shard.schema index) (publishBatchShard raises version index shard)
      (fun _ (destination : Destination Schema Row Version) =>
        Staged shard.schema (index + 1) destination) := by
  have hput : Returns (Staged shard.schema index)
      (Durable.write (·.putShard version index shard) : SyncM Schema Row Version Unit)
      (fun _ => Staged shard.schema (index + 1)) := by
    apply Returns.write
    intro destination hstaged other hother
    by_cases hindex : other = index
    · exact ⟨shard, by simp [Destination.putShard, hindex], rfl⟩
    · obtain ⟨old, hold, hschema⟩ :=
        hstaged other (Nat.lt_of_le_of_ne (Nat.le_of_lt_succ hother) hindex)
      exact ⟨old, by simpa [Destination.putShard, hindex] using hold, hschema⟩
  apply Returns.read.bind
  intro destination
  split
  · apply Returns.bind (R := fun _ => Staged shard.schema index)
    · apply Returns.write
      intro current hpre other hother
      obtain ⟨old, hold, hschema⟩ := hpre.2 other hother
      exact ⟨old, by simpa [Destination.removeShard, Nat.ne_of_lt hother] using hold, hschema⟩
    · intro _
      exact (perform_returns (hworks _)).bind fun _ => hput
  · apply (perform_returns (hworks _)).bind
    intro _
    exact hput.weaken (fun _ hpre => hpre.2) (fun _ _ hpost => hpost)

/-- The loop invariant: the items carry the cursors from `next` on, and the shards below
`next` are there. -/
def StagingFrom (schema : Schema) (items : List (List Row × BatchCursor)) (next : Nat)
    (destination : Destination Schema Row Version) : Prop :=
  (∃ pairs, items = iterBatchesWithCursors next pairs) ∧ Staged schema next destination

theorem stageBatch_returns (version : Option Version) (schema : Schema)
    (item : List Row × BatchCursor) (items : List (List Row × BatchCursor)) (next : Nat) :
    Returns (StagingFrom schema (item :: items) next) (stageBatch site raises version schema item next)
      (fun next (destination : Destination Schema Row Version) =>
        StagingFrom schema items next destination) := by
  apply Returns.assume (F := ∃ pairs, item :: items = iterBatchesWithCursors next pairs)
  · intro destination hpre
    exact hpre.1
  · rintro ⟨pairs, hpairs⟩
    cases pairs with
    | nil => cases hpairs
    | cons pair pairs =>
        cases hpairs
        rw [stageBatch, if_neg (not_not.mpr rfl)]
        apply (perform_returns (hworks _)).bind
        intro _
        apply Returns.bind ((publishBatchShard_returns hworks version next ⟨schema, pair.1⟩).weaken
          (fun _ hpre => hpre.2) fun _ _ hpost => hpost)
        intro _
        apply (perform_returns (hworks _)).bind
        intro _
        apply Returns.bind (R := fun _ => Staged schema (next + 1))
        · exact .write fun _ hpost => hpost
        · intro _
          exact .pure fun _ hpost => ⟨⟨pairs, rfl⟩, hpost⟩

omit [DecidableEq Version] hworks in
theorem requireCheckpointShards_returns (schema : Schema) (count : Nat) :
    Returns (Staged schema count) (requireCheckpointShards count)
      (fun _ (destination : Destination Schema Row Version) =>
        Staged schema count destination) := by
  apply Returns.read.bind
  intro destination
  apply Returns.assume (F := Staged schema count destination)
  · rintro _ ⟨rfl, hstaged⟩
    exact hstaged
  · intro hstaged
    have hfound : (List.range count).find? (fun index => (destination.shards index).isNone) =
        none := by
      apply List.find?_eq_none.mpr
      intro index hindex
      obtain ⟨shard, hshard, -⟩ := hstaged index (List.mem_range.mp hindex)
      simp [hshard]
    rw [hfound]
    exact .pure fun _ hpre => hpre.2

variable [DecidableEq Schema]

omit [DecidableEq Version] in
theorem publishParquet_returns (write : Table Schema Row → Bytes) (schema : Schema) (count : Nat) :
    Returns (Staged schema count) (publishParquet codec site raises write schema count)
      (fun _ (_ : Destination Schema Row Version) => True) := by
  apply (perform_returns (hworks _)).bind
  intro _
  apply Returns.read.bind
  intro destination
  apply Returns.assume (F := Staged schema count destination)
  · rintro _ ⟨rfl, hstaged⟩
    exact hstaged
  · intro hstaged
    have hschemas : (checkpointBatches destination count).all
        (fun batch => decide (batch.schema = schema)) = true := by
      apply List.all_eq_true.mpr
      intro batch hbatch
      obtain ⟨index, hindex, hshard⟩ := List.mem_filterMap.mp hbatch
      obtain ⟨shard, hstored, hschema⟩ := hstaged index (List.mem_range.mp hindex)
      rw [hstored] at hshard
      cases hshard
      exact decide_eq_true hschema
    simp only [hschemas, if_true]
    apply (perform_returns (hworks _)).bind
    intro _
    apply Returns.bind (R := fun _ _ => True)
    · exact .write fun _ _ => trivial
    · intro _
      apply (perform_returns (hworks _)).bind
      intro _
      exact .pure fun _ _ => trivial

/-- Staged from its first batch on, a stream is published. -/
theorem materializeCheckpointed_returns (write : Table Schema Row → Bytes)
    (version : Option Version) (schema : Schema) (stream : List (List Row × Nat)) :
    Returns (fun _ => True)
      (materializeCheckpointed codec site raises write version schema stream 0)
      (fun _ (_ : Destination Schema Row Version) => True) := by
  have hempty : ∀ destination : Destination Schema Row Version, Staged schema 0 destination :=
    fun _ index hindex => absurd hindex (Nat.not_lt_zero index)
  apply Returns.bind ((requireCheckpointShards_returns schema 0).weaken
    (fun destination _ => hempty destination) fun _ _ hpost => hpost)
  intro _
  apply Returns.bind ((Returns.fold (stageBatch_returns site hworks version schema)
    (iterBatchesWithCursors 0 stream) 0).weaken
      (fun destination _ => ⟨⟨stream, rfl⟩, hempty destination⟩) fun _ _ hpost => hpost.2)
  intro next
  apply (perform_returns (hworks _)).bind
  intro _
  apply Returns.bind (requireCheckpointShards_returns schema next)
  intro _
  exact publishParquet_returns codec site hworks write schema next

omit hworks in
theorem materializeStaged_returns {input : RunInput Schema Row Version}
    (hworks : ∀ call, input.raises call = none) {source : SourceView Schema Row Version} (resumable : Bool) {context : SyncContext Version}
    (hstable : source.Stable) (hversion : context.stableSourceVersion = source.version)
    (hcheckpoint : context.checkpoint = none) :
    Returns (fun _ => True) (materializeStaged codec site input source resumable context)
      (fun _ _ => True) := by
  have hpoint : resumePoint input.resume resumable context.checkpoint =
      .ok (0, 0, .materialized) := by
    rw [hcheckpoint]
    cases input.resume <;> rfl
  have hsame : sourceReplaced context.stableSourceVersion source.versionAfter = false := by
    rw [hversion, hstable.2]
    cases source.version <;> simp [sourceReplaced]
  simp only [materializeStaged, hpoint, readBatchesFromRowGroup, Nat.not_lt_zero, if_false, hsame]
  apply Returns.bind (materializeCheckpointed_returns codec site hworks input.write _ source.schema _)
  intro record
  exact .pure fun _ _ => trivial

omit [DecidableEq Schema] [DecidableEq Version] in
theorem materialize_returns (write : Table Schema Row → Bytes) (table : Table Schema Row)
    (storedChecksum : Option String) :
    Returns (fun _ => True) (materialize codec site raises write (.ok table) storedChecksum)
      (fun _ (_ : Destination Schema Row Version) => True) := by
  apply (perform_returns (hworks _)).bind
  intro _
  apply Returns.read.bind
  intro destination
  split
  · apply (perform_returns (hworks _)).bind
    intro _
    exact .pure fun _ _ => trivial
  · apply (perform_returns (hworks _)).bind
    intro _
    apply Returns.bind (R := fun _ _ => True)
    · exact .write fun _ _ => trivial
    · intro _
      apply (perform_returns (hworks _)).bind
      intro _
      exact .pure fun _ _ => trivial

omit [DecidableEq Schema] [DecidableEq Version] in
theorem finishResourceSync_returns (survives : Nat → Bool) (record : Artifact)
    (action : SyncAction) (useCheckpointed : Bool) (freshWatermark : Option String)
    (context : SyncContext Version) :
    Returns (fun _ => True)
      (finishResourceSync raises survives record action useCheckpointed freshWatermark context)
      (fun _ (_ : Destination Schema Row Version) => True) := by
  rw [finishResourceSync]
  split
  · exact .pure fun _ _ => trivial
  · apply (perform_returns (hworks _)).bind
    intro _
    apply Returns.bind (R := fun _ _ => True)
    · exact .write fun _ _ => trivial
    · intro _
      split
      · apply Returns.bind (R := fun _ _ => True)
        · exact .write fun _ _ => trivial
        · intro _
          exact .pure fun _ _ => trivial
      · exact .pure fun _ _ => trivial

omit [DecidableEq Schema] hworks in
/-- A checkpoint a run goes on with is of this destination. -/
theorem NoCheckpoint.discardStale_snd {destination : Destination Schema Row Version}
    (hclear : NoCheckpoint site destination) (sourceVersion : Option Version) :
    (discardStale site destination.stored sourceVersion).2 = none := by
  cases hkept : (discardStale site destination.stored sourceVersion).2 with
  | none => rfl
  | some checkpoint =>
      obtain ⟨⟨state, hstored, hstate⟩, hfresh⟩ := Sync.discardStale_snd site hkept
      unfold checkpointIsStale at hfresh
      have hhere : checkpoint.destinationIdentity = site.destinationIdentity := by
        simpa using (Bool.or_eq_false_iff.mp hfresh).2
      exact absurd hhere (hclear state checkpoint hstored hstate)

omit hworks in
/-- Without a checkpoint of this destination, a run over a stable source succeeds, when none of
its calls raises. -/
theorem syncResource_returns (input : RunInput Schema Row Version)
    (hworks : ∀ call, input.raises call = none) {source : SourceView Schema Row Version} {resumable : Bool}
    (haccess : input.access = .parquetFile source resumable) (hstable : source.Stable) :
    Returns (NoCheckpoint site) (syncResource codec site input) (fun _ _ => True) := by
  simp only [syncResource, haccess]
  apply (perform_returns (hworks _)).bind
  intro _
  apply Returns.read.bind
  intro destination
  apply Returns.assume (F := NoCheckpoint site destination)
  · rintro _ ⟨rfl, hclear⟩
    exact hclear
  intro hclear
  split
  · exact .pure fun _ _ => trivial
  · rename_i hnone
    rw [loadSyncContext_of_outcome_none codec site hnone]
    generalize hcontext : contextOf codec site destination _ _ _ = context
    have hversion : context.stableSourceVersion = source.version := by
      rw [← hcontext]
      rfl
    have hcheckpoint : context.checkpoint = none := by
      rw [← hcontext]
      exact hclear.discardStale_snd site _
    simp only [syncTransactionOutcome, haccess, conditionalReader]
    apply Returns.bind (R := fun _ _ => True)
    · rw [materializeResource, haccess]
      split
      · rename_i view resumed hview _
        cases hview
        apply Returns.bind ((materializeStaged_returns codec site hworks resumable hstable hversion
          hcheckpoint).weaken (fun _ _ => trivial) fun _ _ hpost => hpost)
        intro staged
        exact .pure fun _ _ => trivial
      · apply Returns.bind ((materialize_returns codec site hworks input.write _ _).weaken
          (fun _ _ => trivial) fun _ _ hpost => hpost)
        intro record
        exact .pure fun _ _ => trivial
    · intro done
      exact finishResourceSync_returns hworks input.survives done.1 done.2.1 done.2.2 none context

end Succeeds

/-! ## What a replaced source leaves behind -/

section Aborted

variable [DecidableEq Version] [DecidableEq Schema] (codec : Codec Schema Row) (site : Site)

omit [DecidableEq Version] [DecidableEq Schema] in
/-- Whatever a call raises, it is not the error of a replaced source. -/
theorem perform_raises (raises : Call → Option String) (call : Call) :
    Raises (perform raises call : SyncM Schema Row Version Unit) (· ≠ .sourceChanged) := by
  apply Raises.attempt
  intro error herror
  obtain ⟨message, -, rfl⟩ := Option.map_eq_some_iff.mp herror
  exact SyncError.noConfusion

/-- Staging and publishing never raise the error of a replaced source. -/
theorem materializeCheckpointed_raises (raises : Call → Option String)
    (write : Table Schema Row → Bytes) (version : Option Version) (schema : Schema)
    (stream : List (List Row × Nat)) (start : Nat) :
    Raises (materializeCheckpointed codec site raises write version schema stream start)
      (· ≠ .sourceChanged) := by
  have hrequire : ∀ count, Raises
      (requireCheckpointShards count : SyncM Schema Row Version Unit) (· ≠ .sourceChanged) := by
    intro count
    unfold requireCheckpointShards
    refine Raises.bind .read fun destination => ?_
    split
    · exact .fail SyncError.noConfusion
    · exact .pure
  have hput : ∀ index shard, Raises
      (publishBatchShard raises version index shard : SyncM Schema Row Version Unit)
      (· ≠ .sourceChanged) := by
    intro index shard
    unfold publishBatchShard
    refine Raises.bind .read fun destination => ?_
    split
    · exact Raises.bind .write fun _ => (perform_raises raises _).bind fun _ => .write
    · exact (perform_raises raises _).bind fun _ => .write
  unfold materializeCheckpointed
  refine (hrequire start).bind fun _ => Raises.bind ?_ fun next =>
    (perform_raises raises _).bind fun _ => (hrequire next).bind fun _ => ?_
  · apply Raises.fold
    intro item next
    unfold stageBatch
    refine (perform_raises raises _).bind fun _ => ?_
    split
    · exact .fail SyncError.noConfusion
    · exact (hput next _).bind fun _ => (perform_raises raises _).bind fun _ =>
        Raises.bind .write fun _ => .pure
  · unfold publishParquet
    refine (perform_raises raises _).bind fun _ => Raises.bind .read fun destination => ?_
    dsimp only
    split
    · exact (perform_raises raises _).bind fun _ => Raises.bind .write fun _ =>
        (perform_raises raises _).bind fun _ => .pure
    · exact .fail SyncError.noConfusion

omit [DecidableEq Version] [DecidableEq Schema] in
/-- A run that writes in one piece never raises it either. -/
theorem materialize_raises (raises : Call → Option String) (write : Table Schema Row → Bytes)
    (table : Table Schema Row) (storedChecksum : Option String) :
    Raises (materialize codec site raises write (.ok table) storedChecksum :
      SyncM Schema Row Version Artifact) (· ≠ .sourceChanged) := by
  refine (perform_raises raises _).bind fun _ => Raises.bind .read fun destination => ?_
  split
  · exact (perform_raises raises _).bind fun _ => .pure
  · exact (perform_raises raises _).bind fun _ => Raises.bind .write fun _ =>
      (perform_raises raises _).bind fun _ => .pure

omit [DecidableEq Version] [DecidableEq Schema] in
/-- Nor does the commit. -/
theorem finishResourceSync_raises (raises : Call → Option String) (survives : Nat → Bool)
    (record : Artifact) (action : SyncAction) (useCheckpointed : Bool)
    (freshWatermark : Option String) (context : SyncContext Version) :
    Raises (finishResourceSync raises survives record action useCheckpointed freshWatermark
      context : SyncM Schema Row Version SyncOutcome) (· ≠ .sourceChanged) := by
  unfold finishResourceSync
  dsimp only
  split
  · exact .pure
  · refine (perform_raises raises _).bind fun _ => Raises.bind .write fun _ => ?_
    split
    · exact Raises.bind .write fun _ => .pure
    · exact .pure

/-- A staged run that finds its source replaced has published, and has removed its shards
after that. -/
theorem materializeStaged_of_sourceChanged {input : RunInput Schema Row Version}
    {source : SourceView Schema Row Version} {resumable : Bool} {context : SyncContext Version}
    {destination : Destination Schema Row Version}
    (hchanged : (materializeStaged codec site input source resumable context).result destination =
      .error .sourceChanged) :
    ∃ start rowGroup action stream record,
      sourceReplaced context.stableSourceVersion source.versionAfter = true ∧
      resumePoint input.resume resumable context.checkpoint = .ok (start, rowGroup, action) ∧
      readBatchesFromRowGroup source.groups rowGroup = .ok stream ∧
      (materializeCheckpointed codec site input.raises input.write context.stableSourceVersion source.schema
        stream start).result destination = .ok record ∧
      (materializeStaged codec site input source resumable context).final destination =
        ((materializeCheckpointed codec site input.raises input.write context.stableSourceVersion
          source.schema stream start).final destination).cleanupShards input.survives := by
  unfold materializeStaged at hchanged ⊢
  cases hpoint : resumePoint input.resume resumable context.checkpoint with
  | error error =>
      simp only [hpoint] at hchanged
      unfold resumePoint at hpoint
      split at hpoint
      · split at hpoint
        · cases hpoint
        · cases hpoint
          cases hchanged
      · cases hpoint
  | ok point =>
      obtain ⟨start, rowGroup, action⟩ := point
      simp only [hpoint] at hchanged ⊢
      cases hstream : readBatchesFromRowGroup source.groups rowGroup with
      | error error =>
          simp only [hstream] at hchanged
          unfold readBatchesFromRowGroup at hstream
          split at hstream
          · cases hstream
            cases hchanged
          · cases hstream
      | ok stream =>
          simp only [hstream] at hchanged ⊢
          rcases result_bind_eq_error hchanged with ⟨hearly, -⟩ | ⟨record, hrecord, hlate, hfinal⟩
          · exact absurd rfl (materializeCheckpointed_raises codec site input.raises input.write _ _ stream
              start _ _ hearly)
          · split at hlate
            · rename_i hreplaced
              refine ⟨start, rowGroup, action, stream, record, hreplaced, rfl, hstream, hrecord, ?_⟩
              rw [hfinal, if_pos hreplaced]
              rfl
            · cases hlate

/-- The same for the whole run, which fails nowhere else with this error. -/
theorem syncResource_of_sourceChanged {input : RunInput Schema Row Version}
    {source : SourceView Schema Row Version} {resumable : Bool}
    (haccess : input.access = .parquetFile source resumable)
    {destination : Destination Schema Row Version}
    (hchanged : (syncResource codec site input).result destination = .error .sourceChanged) :
    ∃ start rowGroup action stream record,
      sourceReplaced source.version source.versionAfter = true ∧
      resumePoint input.resume resumable
        (discardStale site destination.stored source.version).2 = .ok (start, rowGroup, action) ∧
      readBatchesFromRowGroup source.groups rowGroup = .ok stream ∧
      (materializeCheckpointed codec site input.raises input.write source.version source.schema stream
        start).result destination = .ok record ∧
      (syncResource codec site input).final destination =
        ((materializeCheckpointed codec site input.raises input.write source.version source.schema stream
          start).final destination).cleanupShards input.survives := by
  simp only [syncResource, haccess] at hchanged ⊢
  rcases result_bind_eq_error hchanged with ⟨hearly, -⟩ | ⟨_, hloaded, hchanged, hsame⟩
  · exact absurd rfl (perform_raises input.raises .loadState _ _ hearly)
  rw [hsame]
  have hread : ∀ next : Destination Schema Row Version → SyncM Schema Row Version SyncOutcome,
      ((Durable.read >>= next).result destination = (next destination).result destination) ∧
        (Durable.read >>= next).final destination = (next destination).final destination :=
    fun _ => ⟨rfl, rfl⟩
  have hstart : (perform input.raises .loadState).final destination = destination :=
    (perform_decides.of_ok (P := (· = destination)) rfl hloaded).2
  rw [hstart] at hchanged ⊢
  rw [(hread _).1] at hchanged
  rw [(hread _).2]
  split at hchanged
  · cases hchanged
  · rename_i hnone
    rw [loadSyncContext_of_outcome_none codec site hnone] at hchanged ⊢
    generalize hcontext : contextOf codec site destination _ _ _ = context at hchanged ⊢
    have hversion : context.stableSourceVersion = source.version := by
      rw [← hcontext]
      rfl
    have hcheckpoint : context.checkpoint =
        (discardStale site destination.stored source.version).2 := by
      rw [← hcontext]
      rfl
    simp only [syncTransactionOutcome, haccess, conditionalReader] at hchanged ⊢
    rcases result_bind_eq_error hchanged with ⟨hresource, hfinal⟩ | ⟨done, -, hlate, -⟩
    · rw [hfinal]
      unfold materializeResource at hresource ⊢
      rw [haccess] at hresource ⊢
      split at hresource
      · rename_i view resumed hview _
        cases hview
        rcases result_bind_eq_error hresource with ⟨hstaged, hsame⟩ | ⟨_, -, hlate, -⟩
        · obtain ⟨start, rowGroup, action, stream, record, hreplaced, hpoint, hstream, hrecord,
            hend⟩ := materializeStaged_of_sourceChanged codec site hstaged
          rw [hcheckpoint] at hpoint
          rw [hversion] at hreplaced hrecord hend
          exact ⟨start, rowGroup, action, stream, record, hreplaced, hpoint, hstream, hrecord,
            hsame.trans hend⟩
        · cases hlate
      · rcases result_bind_eq_error hresource with ⟨hwhole, -⟩ | ⟨_, -, hlate, -⟩
        · exact absurd rfl (materialize_raises codec site input.raises input.write source.table
            context.watermark _ _ hwhole)
        · cases hlate
    · exact absurd rfl (finishResourceSync_raises input.raises input.survives done.1 done.2.1
        done.2.2 none context _ _ hlate)

/-- A checkpoint of this destination is stored. -/
def HasCheckpoint (destination : Destination Schema Row Version) : Prop :=
  ∃ state checkpoint, destination.stored = some state ∧ state.checkpoint = some checkpoint ∧
    checkpoint.destinationIdentity = site.destinationIdentity

omit [DecidableEq Version] [DecidableEq Schema] in
theorem not_noCheckpoint_iff (destination : Destination Schema Row Version) :
    ¬ NoCheckpoint site destination ↔ HasCheckpoint site destination := by
  simp [NoCheckpoint, HasCheckpoint]

omit [DecidableEq Version] [DecidableEq Schema] in
theorem requireCheckpointShards_keeps (P : Destination Schema Row Version → Prop) (count : Nat) :
    Triple P (requireCheckpointShards count) (fun _ => P) (fun _ => True) := by
  refine Triple.read.bind fun destination => ?_
  split
  · exact .fail
  · exact .pure fun _ hpre => hpre.2

/-- Staging stores a checkpoint after its first batch. -/
theorem materializeCheckpointed_hasCheckpoint (raises : Call → Option String)
    (write : Table Schema Row → Bytes) (version : Option Version) (schema : Schema) {stream : List (List Row × Nat)} (start : Nat)
    (hstream : stream ≠ []) :
    Triple (fun _ => True)
      (materializeCheckpointed codec site raises write version schema stream start)
      (fun _ => HasCheckpoint site) (fun _ => True) := by
  -- Either no batch has been staged, or a checkpoint has been stored.
  have hbody : ∀ item items next, Triple
      (fun destination => item :: items = iterBatchesWithCursors start stream ∨
        HasCheckpoint site destination)
      (stageBatch site raises version schema item next : SyncM Schema Row Version Nat)
      (fun _ destination => items = iterBatchesWithCursors start stream ∨
        HasCheckpoint site destination) (fun _ => True) := by
    intro item items next
    unfold stageBatch
    refine Triple.attempt.bind fun _ => ?_
    split
    · exact .fail
    · refine Triple.anything.bind fun _ => Triple.attempt.bind fun _ => Triple.bind
        (R := fun _ => HasCheckpoint site) ?_
        fun _ => .pure fun _ hstored => .inr hstored
      exact .write (fun _ _ => trivial) fun _ _ => ⟨_, _, rfl, rfl, rfl⟩
  have hstaged := Triple.fold
    (I := fun items _ destination => items = iterBatchesWithCursors start stream ∨
      HasCheckpoint site destination) hbody (iterBatchesWithCursors start stream) start
  refine (requireCheckpointShards_keeps _ start).bind fun _ => ?_
  refine (hstaged.weaken (fun _ _ => .inl rfl) fun _ _ hpost => hpost).bind fun next => ?_
  refine Triple.attempt.bind fun _ => (requireCheckpointShards_keeps _ next).bind fun _ =>
    Triple.attempt.bind fun _ => Triple.read.bind fun destination => ?_
  dsimp only
  split
  · refine Triple.attempt.bind fun _ => Triple.bind (R := fun _ => HasCheckpoint site) ?_
      fun _ => Triple.attempt.bind fun _ => .pure fun _ hpost => hpost
    refine .write (fun _ _ => trivial) fun current hpre => ?_
    rcases hpre.2 with hnone | hstored
    · cases stream with
      | nil => exact absurd rfl hstream
      | cons pair stream => cases hnone
    · exact hstored
  · exact .fail

/-- Without a batch, staging stores nothing. -/
theorem materializeCheckpointed_keeps_stored (raises : Call → Option String)
    (write : Table Schema Row → Bytes) (version : Option Version) (schema : Schema) (start : Nat)
    (stored : Option (SyncState Version)) :
    Triple (fun destination => destination.stored = stored)
      (materializeCheckpointed codec site raises write version schema [] start)
      (fun _ destination => destination.stored = stored) (fun _ => True) := by
  refine (requireCheckpointShards_keeps _ start).bind fun _ => Triple.bind
    (R := fun _ destination => destination.stored = stored) (.pure fun _ hpre => hpre)
    fun next => ?_
  refine Triple.attempt.bind fun _ => (requireCheckpointShards_keeps _ next).bind fun _ =>
    Triple.attempt.bind fun _ => Triple.read.bind fun destination => ?_
  dsimp only
  split
  · refine Triple.attempt.bind fun _ => Triple.bind
      (R := fun _ destination => destination.stored = stored) ?_
      fun _ => Triple.attempt.bind fun _ => .pure fun _ hpost => hpost
    exact .write (fun _ _ => trivial) fun _ hpre => hpre.2
  · exact .fail

/-- A checkpoint of this destination stops a run over a source of its version whose reader
cannot open a cursor. -/
theorem syncResource_of_hasCheckpoint (write : Table Schema Row → Bytes)
    {destination : Destination Schema Row Version} (hstored : HasCheckpoint site destination)
    (schema : Schema) (version : Version) :
    ∃ (next : RunInput Schema Row Version) (later : SourceView Schema Row Version),
      next.access = .parquetFile later false ∧ next.resume = true ∧
        (∀ call, next.raises call = none) ∧ later.Stable ∧
        ∃ error, (syncResource codec site next).result destination = .error error := by
  obtain ⟨state, checkpoint, hstate, hcheckpoint, hhere⟩ := hstored
  let current := checkpoint.sourceVersion.getD version
  let later : SourceView Schema Row Version := ⟨some current, some current, schema, []⟩
  refine ⟨⟨.parquetFile later false, true, write, fun _ => false, fun _ => none⟩, later, rfl, rfl,
    fun _ => rfl, ⟨rfl, rfl⟩,
    .cannotResume checkpoint.rowGroupIndex, ?_⟩
  have hbind : destination.stored.bind (·.checkpoint) = some checkpoint := by
    rw [hstate]
    exact hcheckpoint
  have hfresh : checkpointIsStale site checkpoint (some current) = false := by
    unfold checkpointIsStale
    cases hversion : checkpoint.sourceVersion with
    | none => simp [hhere]
    | some recorded => simp [hhere, current, hversion]
  have hkept : discardStale site destination.stored (some current) =
      (destination.stored, some checkpoint) := by
    unfold discardStale
    rw [hbind]
    simp only [hfresh, Bool.false_eq_true, if_false]
  have hearly : resumeOutcome codec site destination true = none := by
    simp [resumeOutcome, hbind]
  have hcontext : loadSyncContext codec site destination (.parquetFile later false) true =
      contextOf codec site destination (.parquetFile later false) destination.stored
        (some checkpoint) := by
    unfold loadSyncContext
    rw [hearly]
    show contextOf _ _ _ _ (discardStale site destination.stored (some current)).1
      (discardStale site destination.stored (some current)).2 = _
    rw [hkept]
  have hloaded : ∀ next : Destination Schema Row Version → SyncM Schema Row Version SyncOutcome,
      (perform (fun _ => none) .loadState >>= fun _ => Durable.read >>= next).result destination =
        (next destination).result destination := fun _ => rfl
  exact (hloaded _).trans (by rw [hcontext]; rfl)

/-- The final file is as it was before a run, and every later run that resumes over a stable
source succeeds, when none of its calls raises. -/
def LeavesUsable (input : RunInput Schema Row Version)
    (destination : Destination Schema Row Version) : Prop :=
  ((syncResource codec site input).final destination).published.map (·.bytes) =
      destination.published.map (·.bytes) ∧
    ∀ (next : RunInput Schema Row Version) later resumable,
      next.access = .parquetFile later resumable → next.resume = true →
      (∀ call, next.raises call = none) → later.Stable →
      ∃ outcome, (syncResource codec site next).result
        ((syncResource codec site input).final destination) = .ok outcome

omit [DecidableEq Version] [DecidableEq Schema] in
/-- From its start, a source has no batch when no row group has rows. -/
theorem readBatchesFromRowGroup_eq_nil_iff (groups : List (List Row)) :
    readBatchesFromRowGroup groups 0 = .ok [] ↔ ∀ group ∈ groups, group = [] := by
  rw [readBatchesFromRowGroup, if_neg (Nat.not_lt_zero _), Except.ok.injEq, List.drop_zero,
    List.filter_eq_nil_iff]
  constructor
  · intro hall group hgroup
    rw [← List.zipIdx_map_fst 0 groups] at hgroup
    obtain ⟨pair, hpair, rfl⟩ := List.mem_map.mp hgroup
    simpa using hall pair hpair
  · intro hall pair hpair
    simpa using hall pair.1 (List.fst_mem_of_mem_zipIdx hpair)

/-- Without a batch or a shard, the table that is published has no rows. -/
theorem materializeCheckpointed_no_batch (raises : Call → Option String)
    (write : Table Schema Row → Bytes) (version : Option Version) (schema : Schema) :
    Triple (fun _ => True) (materializeCheckpointed codec site raises write version schema [] 0)
      (fun _ destination => destination.published = some ⟨write ⟨schema, []⟩, ⟨schema, []⟩⟩)
      (fun _ => True) := by
  refine Triple.anything.bind fun _ => Triple.bind (R := fun next _ => next = 0)
    (.pure fun _ _ => rfl) fun next => .assume (fun _ hnext => hnext) fun hnext => ?_
  subst hnext
  refine Triple.anything.bind fun _ => Triple.anything.bind fun _ => Triple.anything.bind
    fun _ => Triple.read.bind fun destination => .ite (fun _ => ?_) fun _ => .fail
  refine Triple.anything.bind fun _ => Triple.bind (R := fun _ current => current.published =
    some ⟨write ⟨schema, []⟩, ⟨schema, []⟩⟩) (.write (fun _ _ => trivial) fun _ _ => rfl)
    fun _ => Triple.attempt.bind fun _ => .pure fun _ hpost => hpost

/-- A run that found its source replaced leaves a usable destination exactly when it had
nothing to stage, no checkpoint was stored before, and the file it published is the one
that was already there. -/
theorem leavesUsable_iff_of_sourceChanged {input : RunInput Schema Row Version}
    {source : SourceView Schema Row Version} {resumable : Bool}
    (haccess : input.access = .parquetFile source resumable)
    {destination : Destination Schema Row Version}
    (hchanged : (syncResource codec site input).result destination = .error .sourceChanged) :
    LeavesUsable codec site input destination ↔
      NoCheckpoint site destination ∧ (∀ group ∈ source.groups, group = []) ∧
        destination.published.map (·.bytes) = some (input.write ⟨source.schema, []⟩) := by
  obtain ⟨start, rowGroup, action, stream, record, hreplaced, hpoint, hstream, hrecord, hfinal⟩ :=
    syncResource_of_sourceChanged codec site haccess hchanged
  -- Without a checkpoint the run starts with the first row group.
  have hfresh : NoCheckpoint site destination → start = 0 ∧ rowGroup = 0 := by
    intro hclear
    rw [hclear.discardStale_snd site source.version] at hpoint
    cases hresume : input.resume <;> rw [hresume] at hpoint <;> cases hpoint <;> exact ⟨rfl, rfl⟩
  have hkept : stream = [] →
      ((syncResource codec site input).final destination).stored = destination.stored := by
    rintro rfl
    rw [hfinal]
    exact (materializeCheckpointed_keeps_stored codec site input.raises input.write source.version source.schema
      start destination.stored destination rfl).2 record hrecord
  constructor
  · rintro ⟨hbytes, hlater⟩
    have hclear : NoCheckpoint site ((syncResource codec site input).final destination) := by
      by_contra hstored
      have hversion : ∃ version, source.version = some version := by
        cases hsource : source.version with
        | some version => exact ⟨version, rfl⟩
        | none =>
            rw [hsource] at hreplaced
            cases hafter : source.versionAfter <;> rw [hafter] at hreplaced <;> cases hreplaced
      obtain ⟨version, -⟩ := hversion
      obtain ⟨next, later, hnext, hresume, hworks, hstable, error, hfailed⟩ :=
        syncResource_of_hasCheckpoint codec site input.write
          ((not_noCheckpoint_iff site _).mp hstored) source.schema version
      obtain ⟨outcome, hok⟩ := hlater next later false hnext hresume hworks hstable
      rw [hfailed] at hok
      cases hok
    have hempty : stream = [] := by
      by_contra hbatches
      apply (not_noCheckpoint_iff site _).mpr _ hclear
      rw [hfinal]
      exact (materializeCheckpointed_hasCheckpoint codec site input.raises input.write source.version
        source.schema start hbatches destination trivial).2 record hrecord
    have hbefore : NoCheckpoint site destination := by
      unfold NoCheckpoint at hclear ⊢
      rwa [hkept hempty] at hclear
    obtain ⟨rfl, rfl⟩ := hfresh hbefore
    subst hempty
    refine ⟨hbefore, (readBatchesFromRowGroup_eq_nil_iff _).mp hstream, ?_⟩
    rw [← hbytes, hfinal]
    exact congrArg (Option.map (·.bytes)) ((materializeCheckpointed_no_batch codec site input.raises
      input.write source.version source.schema destination trivial).2 record hrecord)
  · rintro ⟨hclear, hgroups, hbytes⟩
    obtain ⟨rfl, rfl⟩ := hfresh hclear
    have hempty : stream = [] := by
      rw [(readBatchesFromRowGroup_eq_nil_iff _).mpr hgroups] at hstream
      cases hstream
      rfl
    constructor
    · subst hempty
      rw [hbytes, hfinal]
      exact congrArg (Option.map (·.bytes)) ((materializeCheckpointed_no_batch codec site
        input.raises input.write source.version source.schema destination trivial).2 record hrecord)
    · intro next later reads hnext _ hworks hstable
      have hlater : NoCheckpoint site ((syncResource codec site input).final destination) := by
        unfold NoCheckpoint at hclear ⊢
        rwa [hkept hempty]
      obtain ⟨outcome, hok, -⟩ := syncResource_returns codec site next hworks hnext hstable _ hlater
      exact ⟨outcome, hok⟩

end Aborted

/-! ## A second row group that changes -/

/-- A source of two row groups whose second one is replaced before it is read. -/
def replacedSource : SourceView Unit Nat (List (List Nat)) :=
  ⟨some [[1], [2]], some [[1], [3]], (), [[1], [3]]⟩

/-- A run over this source. -/
def replacedRun : RunInput Unit Nat (List (List Nat)) where
  access := .parquetFile replacedSource true
  resume := false
  write := plainWrite
  survives _ := false
  raises _ := none

/-- A run that resumes over the source the first one started from. -/
def returnedRun : RunInput Unit Nat (List (List Nat)) where
  access := .parquetFile (plainFormat.view [[1], [2]]) true
  resume := true
  write := plainWrite
  survives _ := false
  raises _ := none

/-- Nothing stored, staged or published. -/
def nothingYet : Destination Unit Nat (List (List Nat)) where
  stored := none
  shards _ := none
  published := none
  committed := none
  overwritten := false

/-- The mixed file is not left usable, by the exact condition. -/
theorem leavesUsable_iff_replacedRun :
    LeavesUsable plainCodec plainSite replacedRun nothingYet ↔
      NoCheckpoint plainSite nothingYet ∧ (∀ group ∈ replacedSource.groups, group = []) ∧
        nothingYet.published.map (·.bytes) = some (plainWrite ⟨(), []⟩) :=
  leavesUsable_iff_of_sourceChanged plainCodec plainSite
    (show replacedRun.access = .parquetFile replacedSource true from rfl) rfl

/-- The run has published its mixed file before it raises, and the next run over the source
it started from finds a checkpoint whose shards are gone. -/
theorem replaced_source_blocks_next_run :
    (syncResource plainCodec plainSite replacedRun).result nothingYet = .error .sourceChanged ∧
      nothingYet.published.map (·.bytes) = none ∧
      ((syncResource plainCodec plainSite replacedRun).final nothingYet).published.map (·.bytes) =
        some [1, 3] ∧
      (plainFormat.view [[1], [2]]).Stable ∧
      (syncResource plainCodec plainSite returnedRun).result
          ((syncResource plainCodec plainSite replacedRun).final nothingYet) =
        .error (.missingShard 0) :=
  ⟨rfl, rfl, rfl, ⟨rfl, rfl⟩, rfl⟩

end DataSluice.Sync
