/-
# The normalization steps

Each step turns a generator of record batches into another one. `SelectColumns` and
`RenameColumns` check their columns against the context before they pull a batch; the
context holds the schema of the stream that entered the pipeline.

The computations on whole columns belong to Arrow and are parameters, `Arrow`. What the
steps themselves look at is concrete: the fields of a batch, in order, and the number of
its rows. A table without rows has no batches.
-/

import DataSluice.Data.BatchStream

namespace DataSluice.Transforms

open DataSluice.Lib DataSluice.Data

/-- An Arrow type as far as the steps look at it. -/
inductive DataType
  | timestamp (unit : String) (tz : Option String)
  | struct (children : List (String × DataType))
  | other (description : String)

namespace DataType

def isStruct : DataType → Bool
  | struct _ => true
  | _ => false

end DataType

/-- A field of a schema. -/
structure Field where
  name : String
  type : DataType
  nullable : Bool := true

/-- A schema is the list of its fields. -/
abbrev Schema := List Field

namespace Schema

def names (schema : Schema) : List String := schema.map (·.name)

end Schema

/-- A record batch: its fields with their columns, and its number of rows. -/
structure RecordBatch (Column : Type) where
  columns : List (Field × Column)
  numRows : Nat

/-- The exceptions that Arrow raises. The first three are the ones the steps catch. -/
inductive ArrowError
  | invalid (message : String)
  | typeError (message : String)
  | notImplemented (message : String)
  | other (message : String)

/-- The exceptions of a pipeline. -/
inductive StepError
  | /-- `SelectColumns`: the missing columns, and the ones there are. -/
    columnsNotFound (missing available : List String)
  | /-- `RenameColumns`, likewise. -/
    sourceColumnsNotFound (missing available : List String)
  | castFailed (cause : ArrowError)
  | timestampFailed (field : String) (cause : ArrowError)
  | keyError (message : String)
  | valueError (message : String)
  | arrow (error : ArrowError)

/-- What the steps pull from each other. -/
abbrev RecordBatches (Column : Type) := Batches StepError (RecordBatch Column)

/-- A loop body that yields one batch or raises. -/
def yieldResult {Column : Type} :
    Except StepError (RecordBatch Column) → RecordBatches Column
  | .ok batch => .yield batch .stop
  | .error error => .raise (.source error)

/-- The computations on columns that Arrow does. -/
structure Arrow (Expression Column : Type) where
  /-- `RecordBatch.filter` -/
  filter : Expression → RecordBatch Column → Except ArrowError (RecordBatch Column)
  /-- `cast` with `safe=True`. -/
  cast : Column → DataType → Except ArrowError Column
  assumeTimezone : Column → String → Except ArrowError Column
  structField : Column → String → Except ArrowError Column
  type : Column → DataType
  nullCount : Column → Nat
  length : Column → Nat

namespace RecordBatch

variable {Column : Type}

def schema (batch : RecordBatch Column) : Schema := batch.columns.map (·.1)

/-- The position of a column by its name, which has to be there once. -/
def column (batch : RecordBatch Column) (name : String) : Except StepError (Field × Column) :=
  match batch.columns.filter (·.1.name == name) with
  | [found] => .ok found
  | [] => .error (.keyError s!"Field \"{name}\" does not exist in schema")
  | _ => .error (.keyError s!"Field \"{name}\" exists more than once in schema")

/-- `RecordBatch.select` -/
def select (batch : RecordBatch Column) (names : List String) :
    Except StepError (RecordBatch Column) := do
  let columns ← names.mapM batch.column
  return { batch with columns := columns }

/-- `RecordBatch.rename_columns`, where every column gets its name from its old one. -/
def renameColumns (batch : RecordBatch Column) (newName : String → String) :
    RecordBatch Column :=
  { batch with
    columns := batch.columns.map fun column =>
      ({ column.1 with name := newName column.1.name }, column.2) }

/-- The batches of the table with this one batch. -/
def toBatches (batch : RecordBatch Column) : RecordBatches Column :=
  if batch.numRows = 0 then .stop else .yield batch .stop

end RecordBatch

/-- The steps, with what their constructors check. -/
inductive TransformStep (Expression : Type)
  | filter (expression : Expression)
  | selectColumns (columns : List String) (nonempty : columns ≠ [])
  | renameColumns (mapping : List (String × String))
  | castSchema (targetSchema : Schema)
  | normalizeTimestamps (targetTz assumeNaiveTz targetUnit : String)
  | flatten (maxDepth : Nat) (separator : String) (positive : 1 ≤ maxDepth)

namespace TransformStep

variable {Expression Column : Type} (arrow : Arrow Expression Column)

/-- The columns that a check looks for and does not find. -/
def missing (required available : List String) : List String :=
  required.filter fun name => !available.contains name

/-- Raise an exception of Arrow as it is. -/
def fromArrow {α : Type} : Except ArrowError α → Except StepError α :=
  Except.mapError .arrow

/-- Wrap the exceptions that a step catches. -/
def wrapArrow {α : Type} (wrap : ArrowError → StepError) :
    Except ArrowError α → Except StepError α
  | .ok value => .ok value
  | .error (.other message) => .error (.arrow (.other message))
  | .error error => .error (wrap error)

/-- One column of `Table.cast`. -/
def castColumn (target : Field) (column : Column) : Except StepError (Field × Column) :=
  if target.nullable = false ∧ 0 < arrow.nullCount column then
    .error (.valueError s!"Casting field {target.name} with null values to non-nullable")
  else (wrapArrow .castFailed (arrow.cast column target.type)).map (target, ·)

/-- `Table.cast`: the names have to agree already, in order. -/
def castBatch (target : Schema) (batch : RecordBatch Column) :
    Except StepError (RecordBatch Column) :=
  if batch.schema.names ≠ Schema.names target then
    .error (.valueError "Target schema's field names are not matching the table's field names")
  else do
    let columns ← (target.zip batch.columns).mapM fun pair =>
      castColumn arrow pair.1 pair.2.2
    return { batch with columns := columns }

/-- `_normalize_timestamp_column` -/
def normalizeTimestampColumn (targetTz assumeNaiveTz targetUnit : String) (field : Field)
    (column : Column) : Except StepError (Field × Column) :=
  match field.type with
  | .timestamp unit tz => do
      let target := DataType.timestamp targetUnit (some targetTz)
      let normalized ← wrapArrow (.timestampFailed field.name)
        (match tz with
        | none => do arrow.cast (← arrow.assumeTimezone column assumeNaiveTz) target
        | some zone =>
            if zone ≠ targetTz ∨ unit ≠ targetUnit then arrow.cast column target
            else .ok column)
      return ({ field with type := arrow.type normalized }, normalized)
  | _ => .ok (field, column)

/-- `RecordBatch.from_arrays` and `Table.from_arrays`: the first column gives the number
of rows. -/
def fromArrays (columns : List (Field × Column)) : RecordBatch Column where
  columns := columns
  numRows := (columns.head?.map fun column => arrow.length column.2).getD 0

/-- The columns are looked up by their names. -/
def normalizeBatch (targetTz assumeNaiveTz targetUnit : String) (batch : RecordBatch Column) :
    Except StepError (RecordBatch Column) := do
  let columns ← batch.schema.mapM fun field => do
    let found ← batch.column field.name
    normalizeTimestampColumn arrow targetTz assumeNaiveTz targetUnit field found.2
  return fromArrays arrow columns

/-- The columns that one field is replaced by in `_flatten_struct_fields`. -/
def flattenField (separator : String) (batch : RecordBatch Column) (field : Field) :
    Except StepError (List (Field × Column)) :=
  match field.type with
  | .struct children => children.mapM fun child => do
      let parent ← batch.column field.name
      let column ← fromArrow (arrow.structField parent.2 child.1)
      return (⟨field.name ++ separator ++ child.1, child.2, true⟩, column)
  | _ => do
      let found ← batch.column field.name
      return [(field, found.2)]

/-- `_flatten_struct_fields` -/
def flattenStructFields (separator : String) (batch : RecordBatch Column) :
    Except StepError (RecordBatch Column) := do
  let columns ← batch.schema.mapM (flattenField arrow separator batch)
  return fromArrays arrow columns.flatten

/-- The loop over the levels, which ends early when there is no struct column left. -/
def flattenLevels (separator : String) :
    Nat → RecordBatch Column → Except StepError (RecordBatch Column)
  | 0, batch => .ok batch
  | depth + 1, batch =>
      if batch.schema.any (·.type.isStruct) then do
        flattenLevels separator depth (← flattenStructFields arrow separator batch)
      else .ok batch

/-- What a step checks against the schema of the context. -/
def columnCheck (context : Schema) : TransformStep Expression → Except StepError Unit
  | selectColumns columns _ =>
      if missing columns context.names = [] then .ok ()
      else .error (.columnsNotFound (missing columns context.names)
        (context.names.eraseDups.mergeSort fun first second => decide (first ≤ second)))
  | renameColumns mapping =>
      if missing (mapping.map (·.1)) context.names = [] then .ok ()
      else .error (.sourceColumnsNotFound (missing (mapping.map (·.1)) context.names)
        (context.names.eraseDups.mergeSort fun first second => decide (first ≤ second)))
  | _ => .ok ()

/-- What a step does with one batch. -/
def onBatch (batch : RecordBatch Column) :
    TransformStep Expression → RecordBatches Column
  | filter expression => yieldResult (fromArrow (arrow.filter expression batch))
  | selectColumns columns _ => yieldResult (batch.select columns)
  | renameColumns mapping =>
      .yield (batch.renameColumns fun name => (mapping.lookup name).getD name) .stop
  | castSchema target => .forEach RecordBatch.toBatches (yieldResult (castBatch arrow target batch))
  | normalizeTimestamps targetTz assumeNaiveTz targetUnit =>
      yieldResult (normalizeBatch arrow targetTz assumeNaiveTz targetUnit batch)
  | flatten maxDepth separator _ =>
      .forEach RecordBatch.toBatches (yieldResult (flattenLevels arrow separator maxDepth batch))

/-- The body of a step after its column check. Only `NormalizeTimestamps` does something
before its loop: it builds the target type, whose unit has to be known. -/
def onBatches (step : TransformStep Expression)
    (batches : RecordBatches Column) : RecordBatches Column :=
  match step with
  | normalizeTimestamps _ _ targetUnit =>
      if targetUnit ∈ ["s", "ms", "us", "ns"] then
        batches.forEach fun batch => step.onBatch arrow batch
      else .raise <| .source (.valueError s!"Invalid time unit: {targetUnit}")
  | _ => batches.forEach fun batch => step.onBatch arrow batch

/-- `apply`: a generator whose body starts with the column check. -/
def apply (step : TransformStep Expression)
    (batches : RecordBatches Column) (context : Schema) : RecordBatches Column :=
  match step.columnCheck context with
  | .error error => .raise (.source error)
  | .ok () => step.onBatches arrow batches

end TransformStep

end DataSluice.Transforms
