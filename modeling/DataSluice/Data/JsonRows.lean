/-
# Rows of JSON documents

The readers of JSON arrays and of GeoJSON make tables of records. A record of an array loses
the fields that the first one of the array does not have, a feature those that the first one of
its batch does not have, and a property that has the name of the geometry column.
-/

import DataSluice.Data.RecordTable
import DataSluice.Domain.JsonValue
import DataSluice.Lib.Generator

namespace DataSluice.Data.JsonRows

open DataSluice.Lib DataSluice.Domain DataSluice.Data.RecordTable

/-! ## JSON arrays -/

/-- What the readers raise: `FormatError`, or what pyarrow raised. -/
inductive ReadError
  | format (message : String)
  | arrow (error : ArrowError)
  deriving DecidableEq

/-- `type(value).__name__` -/
def typeName : Value → String
  | .none => "NoneType"
  | .bool _ => "bool"
  | .int _ => "int"
  | .float _ => "float"
  | .str _ => "str"
  | .list _ => "list"
  | .tuple _ => "tuple"
  | .dict _ => "dict"
  | .proxy _ => "mappingproxy"
  | .other => "object"

/-- How values are written as text: `json.dumps` with a codec, and `str` of a JSON value. -/
structure Formats where
  codec : JsonCodec
  str : Value → String

section Wkt

variable (formats : Formats)

/-- `json.dumps(geometry, separators=(",", ":"))`; a value that was parsed is always written. -/
def dumps (geometry : Record) : String :=
  match toJson formats.codec (.dict (asMapping geometry)) with
  | some tree => String.ofList (tree.render [])
  | none => ""

end Wkt

section Features

variable (arrow : Arrow) (formats : Formats)

/-- `_batch_from_rows`: the batch of a table with rows, or else the rows as a batch. -/
def batchFromRows (rows : List Record) : Except ArrowError Table :=
  match fromPylist arrow rows with
  | .error error => .error error
  | .ok table => if 0 < table.numRows then .ok table else fromPylist arrow rows

/-- Hand out the batch of some rows, and go on. -/
def emit (rows : List Record) (rest : Generator ReadError Table) : Generator ReadError Table :=
  match batchFromRows arrow rows with
  | .error error => .raise (.arrow error)
  | .ok batch => .yield batch rest

end Features
/-! ## Kept rows -/

section Collections

variable {arrow : Arrow} {formats : Formats}

end Collections

theorem isFloatChar_bits (value : PyFloat) :
    ∀ character ∈ Nat.toDigits 10 value.bits.toNat ++ ['.'], isFloatChar character = true := by
  intro character hmem
  rcases List.mem_append.mp hmem with hdigit | hpoint
  · have hint : character ∈ intText (.ofNat value.bits.toNat) := hdigit
    exact isFloatChar_intText hint
  · rw [List.mem_singleton.mp hpoint]
    rfl

/-- The text of a float is here the number of its bits. -/
def bitsText (value : PyFloat) : FloatText where
  text := Nat.toDigits 10 value.bits.toNat ++ ['.']
  chars := isFloatChar_bits value
  marked := .inl (by simp)

/-- The float of a text of that kind. -/
def floatOfBitsText (text : FloatText) : Option PyFloat :=
  some ⟨UInt64.ofNat (Nat.ofDigitChars 10 text.text.dropLast 0)⟩

theorem floatOfBitsText_bitsText (value : PyFloat) :
    floatOfBitsText (bitsText value) = some value := by
  rw [floatOfBitsText, bitsText, List.dropLast_concat,
    Nat.ofDigitChars_toDigits (by decide) (by decide), UInt64.ofNat_toNat]

/-- Formats for documents without floats. -/
def plainFormats : Formats where
  codec := ⟨bitsText, floatOfBitsText, fun value _ => floatOfBitsText_bitsText value, fun _ => none⟩
  str _ := ""

end DataSluice.Data.JsonRows
