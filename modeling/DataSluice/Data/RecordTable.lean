/-
# Tables of records

`pa.Table.from_pylist` makes a table whose columns are the keys of the first row. A row keeps
its fields when the first row has their keys; a field of another key is not in the table.

What is in a cell of a table is here the value that it was made of. Whether pyarrow makes a
column of some values is a parameter.
-/

import Mathlib.Data.List.Forall2
import DataSluice.Domain.Json
import DataSluice.Lib.Dict

namespace DataSluice.Data.RecordTable

open DataSluice.Lib DataSluice.Domain

/-- The entries of an object. -/
abbrev Record := List (String × Value)

/-! ## Tables -/

/-- What `pa.array` raises; the first three are `ArrowInvalid`, `ArrowTypeError` and
`ArrowNotImplementedError`. -/
inductive ArrowError
  | invalid (message : String)
  | type (message : String)
  | notImplemented (message : String)
  | other (message : String)
  deriving DecidableEq

/-- The part of pyarrow that decides whether values make a column. -/
structure Arrow where
  refuses : List Value → Option ArrowError

/-- A table, column by column. -/
structure Table where
  columns : List (String × List Value)

namespace Table

/-- A table without columns has no rows. -/
def numRows (table : Table) : Nat :=
  match table.columns with
  | [] => 0
  | column :: _ => column.2.length

/-- The cells of a row under the names of their columns. -/
def rowAt (table : Table) (index : Nat) : Record :=
  table.columns.filterMap fun column => column.2[index]?.map fun cell => (column.1, cell)

def rows (table : Table) : List Record := (List.range table.numRows).map table.rowAt

/-- `table.slice(0, count)` -/
def take (table : Table) (count : Nat) : Table :=
  ⟨table.columns.map fun column => (column.1, column.2.take count)⟩

/-- `table.slice(count)` -/
def drop (table : Table) (count : Nat) : Table :=
  ⟨table.columns.map fun column => (column.1, column.2.drop count)⟩

theorem numRows_drop (table : Table) (count : Nat) :
    (table.drop count).numRows = table.numRows - count := by
  cases hcolumns : table.columns with
  | nil => simp [numRows, drop, hcolumns]
  | cons column columns => simp [numRows, drop, hcolumns]

/-- `table.to_batches(max_chunksize=…)` of a table whose columns are in one piece. -/
def toBatches (maxChunksize : Nat) (table : Table) : List Table :=
  if 0 < table.numRows ∧ 0 < maxChunksize then
    table.take maxChunksize :: toBatches maxChunksize (table.drop maxChunksize)
  else []
termination_by table.numRows
decreasing_by
  rw [numRows_drop]
  omega

end Table

/-- The names of the columns: the keys of the first row. -/
def columnNames : List Record → List String
  | [] => []
  | row :: _ => row.map Prod.fst

/-- The values of a column, `None` for a row without the key. -/
def columnOf (rows : List Record) (name : String) : List Value :=
  rows.map fun row => (row.lookup name).getD .none

/-- `pa.Table.from_pylist(rows)` -/
def fromPylist (arrow : Arrow) (rows : List Record) : Except ArrowError Table :=
  match (columnNames rows).findSome? fun name => arrow.refuses (columnOf rows name) with
  | some error => .error error
  | none => .ok ⟨(columnNames rows).map fun name => (name, columnOf rows name)⟩

/-- A row of the table that is made of rows: a cell for every column. -/
def projected (names : List String) (row : Record) : Record :=
  names.map fun name => (name, (row.lookup name).getD .none)

/-- A row has every field of a record. -/
def Keeps (record row : Record) : Prop :=
  ∀ key value, record.lookup key = some value → row.lookup key = some value

end DataSluice.Data.RecordTable
