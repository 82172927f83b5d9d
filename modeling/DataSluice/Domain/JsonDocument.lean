/-
# JSON documents

The bytes that `json.dumps` with sorted keys makes of a value, and the value that `json.loads`
makes of bytes. A document that `json.dumps` wrote is read here; any other one is left to the
library. The bound that the interpreter puts on the digits of an integer is left out.
-/

import DataSluice.Domain.EntryOrder
import DataSluice.Lib.Utf8

namespace DataSluice.Domain

open DataSluice.Lib

variable (codec : JsonCodec)

/-- `json.dumps(value, sort_keys=True).encode()`; nothing where it raises `TypeError`. -/
def dumps (value : Value) : Option (List UInt8) :=
  (toJson codec value).map fun tree =>
    (String.ofList (tree.sortKeys.render [' '])).toUTF8.toList

/-- `json.loads` of bytes; nothing where it raises. -/
def loads (raw : List UInt8) : Option Value :=
  let written := (String.fromUTF8? ⟨raw.toArray⟩).bind fun text => Json.ofText [' '] text.toList
  (written.orElse fun _ => codec.otherDocuments raw).bind (ofJson codec)

theorem fromUTF8?_toUTF8_toList (text : String) :
    String.fromUTF8? ⟨text.toUTF8.toList.toArray⟩ = some text := by
  have hbytes : (⟨text.toUTF8.toList.toArray⟩ : ByteArray) = text.toByteArray := by
    apply ByteArray.ext
    rw [Utf8.byteArray_toList_eq]
    rfl
  rw [String.fromUTF8?, hbytes, dif_pos text.isValidUTF8]
  rfl

/-- A JSON value is written, and read with its entries sorted. -/
theorem loads_dumps {value : Value} (hvalue : IsJson value) :
    ∃ raw, dumps codec value = some raw ∧ loads codec raw = some (sorted value) := by
  obtain ⟨tree, htree, hread⟩ := ofJson_toJson codec hvalue
  apply Exists.intro (String.ofList (tree.sortKeys.render [' '])).toUTF8.toList
  constructor
  · rw [dumps, htree, Option.map_some]
  · rw [loads, fromUTF8?_toUTF8_toList, Option.bind_some, String.toList_ofList,
      Json.ofText_render]
    exact hread

end DataSluice.Domain
