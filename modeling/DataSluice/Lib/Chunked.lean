/-
# Rows in chunks

A columnar table keeps its rows in chunks. Concatenation and slicing share the
chunks they were given and never merge two of them, so how the rows are cut is
observable through the batches a table is exported as. No chunk is empty: a cut
that leaves nothing of a chunk drops it.
-/

import Mathlib.Data.List.Basic

namespace DataSluice.Lib

universe u

/-- Rows in chunks, none of them empty. -/
structure Chunked (Row : Type u) where
  chunks : List (List Row)
  nonempty : ∀ chunk ∈ chunks, chunk ≠ []

namespace Chunked

variable {Row : Type u}

/-- The first `count` rows, chunk by chunk. -/
def takeRows : Nat → List (List Row) → List (List Row)
  | 0, _ => []
  | _, [] => []
  | count + 1, chunk :: chunks =>
      chunk.take (count + 1) :: takeRows (count + 1 - chunk.length) chunks

/-- The rows after the first `count`, chunk by chunk. -/
def dropRows : Nat → List (List Row) → List (List Row)
  | _, [] => []
  | count, chunk :: chunks =>
      if count < chunk.length then chunk.drop count :: chunks
      else dropRows (count - chunk.length) chunks

/-- Cutting off the rows behind the first ones leaves no empty chunk: the chunk that is cut keeps
at least one row. -/
theorem takeRows_nonempty {count : Nat} {chunks : List (List Row)}
    (hnonempty : ∀ chunk ∈ chunks, chunk ≠ []) :
    ∀ chunk ∈ takeRows count chunks, chunk ≠ [] := by
  induction chunks generalizing count with
  | nil => cases count <;> simp [takeRows]
  | cons chunk chunks ih =>
      cases count with
      | zero => simp [takeRows]
      | succ count =>
          intro taken htaken
          simp only [takeRows, List.mem_cons] at htaken
          rcases htaken with rfl | htaken
          · simpa using hnonempty chunk (by simp)
          · exact ih (fun rest hrest => hnonempty rest (by simp [hrest])) taken htaken

/-- Neither does cutting off the first rows. A chunk that is cut keeps the rows behind the cut, and
a chunk that is used up is dropped whole. -/
theorem dropRows_nonempty {count : Nat} {chunks : List (List Row)}
    (hnonempty : ∀ chunk ∈ chunks, chunk ≠ []) :
    ∀ chunk ∈ dropRows count chunks, chunk ≠ [] := by
  induction chunks generalizing count with
  | nil => simp [dropRows]
  | cons chunk chunks ih =>
      intro kept hkept
      rw [dropRows] at hkept
      split at hkept
      · rename_i hinside
        rcases List.mem_cons.mp hkept with rfl | hrest
        · simpa using hinside
        · exact hnonempty kept (by simp [hrest])
      · exact ih (fun rest hrest => hnonempty rest (by simp [hrest])) kept hkept

/-- Over all chunks, this takes the first rows of the table. The induction is on the chunks, the
count going down by the rows of each. -/
theorem flatten_takeRows (count : Nat) (chunks : List (List Row)) :
    (takeRows count chunks).flatten = chunks.flatten.take count := by
  induction chunks generalizing count with
  | nil => cases count <;> simp [takeRows]
  | cons chunk chunks ih =>
      cases count with
      | zero => simp [takeRows]
      | succ count => simp [takeRows, ih, List.take_append]

/-- Over all chunks, this drops the first rows of the table. -/
theorem flatten_dropRows (count : Nat) (chunks : List (List Row)) :
    (dropRows count chunks).flatten = chunks.flatten.drop count := by
  induction chunks generalizing count with
  | nil => simp [dropRows]
  | cons chunk chunks ih =>
      rw [dropRows]
      split
      · rename_i hinside
        have hzero : count - chunk.length = 0 := Nat.sub_eq_zero_of_le (Nat.le_of_lt hinside)
        simp [List.drop_append, hzero]
      · rename_i houtside
        have hnil : chunk.drop count = [] := List.drop_eq_nil_of_le (Nat.le_of_not_lt houtside)
        simp [ih, List.drop_append, hnil]

/-- Dropping rows makes no new chunks, so the rest of a table of one chunk is one chunk again, or
nothing. -/
theorem length_dropRows_le (count : Nat) (chunks : List (List Row)) :
    (dropRows count chunks).length ≤ chunks.length := by
  induction chunks generalizing count with
  | nil => simp [dropRows]
  | cons chunk chunks ih =>
      rw [dropRows]
      split
      · simp
      · exact Nat.le_succ_of_le (ih _)

/-! ## Tables -/

/-- All rows, in order. -/
def rows (table : Chunked Row) : List Row := table.chunks.flatten

/-- How many rows there are. -/
def numRows (table : Chunked Row) : Nat := table.rows.length

/-- One non-empty batch as a table. -/
def ofBatch (batch : List Row) (hbatch : batch ≠ []) : Chunked Row where
  chunks := [batch]
  nonempty := by simpa using hbatch

/-- The rows of one table after those of another. -/
def concat (first second : Chunked Row) : Chunked Row where
  chunks := first.chunks ++ second.chunks
  nonempty chunk hchunk :=
    (List.mem_append.mp hchunk).elim (first.nonempty chunk) (second.nonempty chunk)

/-- The first `count` rows. -/
def head (table : Chunked Row) (count : Nat) : Chunked Row where
  chunks := takeRows count table.chunks
  nonempty := takeRows_nonempty table.nonempty

/-- The rows after the first `count`. -/
def tail (table : Chunked Row) (count : Nat) : Chunked Row where
  chunks := dropRows count table.chunks
  nonempty := dropRows_nonempty table.nonempty

/-- One batch for each chunk. -/
def toBatches (table : Chunked Row) : List (List Row) := table.chunks

@[simp] theorem rows_ofBatch (batch : List Row) (hbatch : batch ≠ []) :
    (ofBatch batch hbatch).rows = batch := by
  simp [rows, ofBatch]

@[simp] theorem rows_concat (first second : Chunked Row) :
    (first.concat second).rows = first.rows ++ second.rows := by
  simp [rows, concat]

@[simp] theorem rows_head (table : Chunked Row) (count : Nat) :
    (table.head count).rows = table.rows.take count :=
  flatten_takeRows count table.chunks

@[simp] theorem rows_tail (table : Chunked Row) (count : Nat) :
    (table.tail count).rows = table.rows.drop count :=
  flatten_dropRows count table.chunks

@[simp] theorem numRows_tail (table : Chunked Row) (count : Nat) :
    (table.tail count).numRows = table.numRows - count := by
  simp [numRows]

/-- A table of at most one chunk is that chunk. -/
theorem headD_chunks_of_single {table : Chunked Row} (hsingle : table.chunks.length ≤ 1) :
    table.chunks.headD [] = table.rows := by
  rcases table with ⟨_ | ⟨chunk, _ | ⟨next, chunks⟩⟩, hnonempty⟩
  · rfl
  · simp [rows]
  · simp at hsingle

/-- A table with rows has a chunk, which is what a loop over its heads reads first. -/
theorem chunks_ne_nil {table : Chunked Row} (hrows : 0 < table.numRows) : table.chunks ≠ [] := by
  intro hnil
  simp [numRows, rows, hnil] at hrows

/-- No chunk is longer than its table. -/
theorem length_le_numRows {table : Chunked Row} {chunk : List Row}
    (hchunk : chunk ∈ table.chunks) : chunk.length ≤ table.numRows :=
  (List.sublist_flatten_of_mem hchunk).length_le

end Chunked

end DataSluice.Lib
