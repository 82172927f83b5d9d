/-
# Batch streams

A `BatchStream` wraps a source of record batches with a schema. The source is a
`RecordBatchReader`, a plain iterator, or the generator of a Parquet file, which
yields every batch with the index of its physical row group.

`iter_batches_with_cursors` pairs each batch with the cursor of the next unread one.
The number of batches and the physical position are counted separately, because row
groups without rows are counted in the second only.
-/

import DataSluice.Lib.Generator

namespace DataSluice.Data

open DataSluice.Lib

/-- Logical position at the next unread Parquet row group. -/
structure ParquetRowGroupPosition where
  rowGroupIndex : Nat
  deriving DecidableEq

/-- Continuation cursor for the next unread batch. -/
structure BatchCursor where
  nextBatchIndex : Nat
  position : ParquetRowGroupPosition
  deriving DecidableEq

/-- What reading a stream may raise. -/
inductive StreamError (Error : Type)
  | /-- `StreamClosedError` -/
    closed
  | /-- A `DataSluiceError` about indexes that do not increase. -/
    notIncreasing (message : String)
  | /-- An exception of what the stream reads from. -/
    source (error : Error)
  deriving DecidableEq

/-- Generators that read streams. -/
abbrev Batches (Error Batch : Type) := Generator (StreamError Error) Batch

/-- The three kinds of wrapped sources. -/
inductive BatchSource (Error Batch : Type)
  | /-- The source of the indexed mode. -/
    indexed (pairs : Batches Error (Nat × Batch))
  | /-- `read_next_batch` until it returns nothing. -/
    reader (batches : Batches Error (Option Batch))
  | iterator (batches : Batches Error Batch)

/-- A source with the schema of its batches. -/
structure BatchStream (Error Schema Batch : Type) where
  source : BatchSource Error Batch
  schema : Schema
  startBatchIndex : Nat := 0
  startRowGroupIndex : Nat := startBatchIndex
  closed : Bool := false

namespace BatchStream

variable {Error Schema Batch : Type}

/-- The loop over `read_next_batch`. -/
def untilNone : Batches Error (Option Batch) → Batches Error Batch
  | .stop => .stop
  | .raise error => .raise error
  | .yield none _ => .stop
  | .yield (some batch) rest => .yield batch (untilNone rest)

/-- The loop that drops the indexes of the indexed mode. -/
def withoutIndexes : Batches Error (Nat × Batch) → Batches Error Batch
  | .stop => .stop
  | .raise error => .raise error
  | .yield (_, batch) rest => .yield batch (withoutIndexes rest)

/-- `iter_batches` -/
def iterBatches (stream : BatchStream Error Schema Batch) : Batches Error Batch :=
  if stream.closed then .raise .closed
  else
    match stream.source with
    | .indexed pairs => withoutIndexes pairs
    | .reader batches => untilNone batches
    | .iterator batches => batches

/-- The loop of the indexed mode: the batches so far, and the least physical index that
may come next. -/
def indexedCursors (nextBatchIndex least : Nat) :
    Batches Error (Nat × Batch) → Batches Error (Batch × BatchCursor)
  | .stop => .stop
  | .raise error => .raise error
  | .yield (physicalIndex, batch) rest =>
      if physicalIndex < least then
        .raise (.notIncreasing "Physical row-group indexes must increase monotonically")
      else
        .yield (batch, ⟨nextBatchIndex + 1, ⟨physicalIndex + 1⟩⟩)
          (indexedCursors (nextBatchIndex + 1) (physicalIndex + 1) rest)

/-- The loop over enumerated batches. The test that the next index is greater than the
one before always passes here. -/
def enumeratedCursors (batchIndex : Nat) :
    Batches Error Batch → Batches Error (Batch × BatchCursor)
  | .stop => .stop
  | .raise error => .raise error
  | .yield batch rest =>
      .yield (batch, ⟨batchIndex + 1, ⟨batchIndex + 1⟩⟩)
        (enumeratedCursors (batchIndex + 1) rest)

/-- `iter_batches_with_cursors` -/
def iterBatchesWithCursors (stream : BatchStream Error Schema Batch) :
    Batches Error (Batch × BatchCursor) :=
  if stream.closed then .raise .closed
  else
    match stream.source with
    | .indexed pairs => indexedCursors stream.startBatchIndex stream.startRowGroupIndex pairs
    | _ => enumeratedCursors stream.startBatchIndex stream.iterBatches

end BatchStream

end DataSluice.Data
