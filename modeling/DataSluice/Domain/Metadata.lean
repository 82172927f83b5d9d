/-
# Bounded metadata

`redact_mapping` and `_bounded_metadata`: the metadata of an error keeps a bounded number of
entries at a bounded depth, with the texts redacted and the values of sensitive keys
replaced. What redaction does to a text is left open.
-/

import DataSluice.Domain.Json

namespace DataSluice.Domain

def maxMetadataEntries : Nat := 32

def maxMetadataDepth : Nat := 8

def redactedText : String := "***"

def truncatedText : String := "[TRUNCATED]"

/-- What redaction does to texts, and the text of an object of another type. -/
structure MetadataRedaction extends Redaction where
  /-- `repr`; objects of other types are one value here. -/
  otherText : String

/-- `mapping[key] = value` -/
def setEntry (entries : List (Key × Value)) (key : Key) (value : Value) : List (Key × Value) :=
  match entries with
  | [] => [(key, value)]
  | (name, old) :: entries =>
      if name = key then (name, value) :: entries else (name, old) :: setEntry entries key value

/-- `{**entries, **additions}` -/
def mergeEntries (entries additions : List (Key × Value)) : List (Key × Value) :=
  additions.foldl (fun entries addition => setEntry entries addition.1 addition.2) entries

section Redaction

variable (redaction : MetadataRedaction)

/-- The end of a sequence that is longer than the bound. -/
def truncateItems (length : Nat) (items : List Value) : List Value :=
  if maxMetadataEntries < length then items.dropLast ++ [.str truncatedText] else items

/-- The end of a mapping that is longer than the bound. -/
def truncateEntries (length : Nat) (entries : List (Key × Value)) : List (Key × Value) :=
  if maxMetadataEntries < length then
    setEntry entries.dropLast (.text truncatedText) (.str truncatedText)
  else entries

/-- `_render_unsupported` on a redacted value that is of another type. -/
def renderUnsupported : Value → Value
  | .other => .str (redaction.redactString redaction.otherText)
  | value => value

mutual

/-- `redact_value` -/
def redactValue (depth : Nat) : Value → Value
  | .str text => .str (redaction.redactString text)
  | .none => .none
  | .bool value => .bool value
  | .int value => .int value
  | .float value => .float value
  | .dict entries =>
      if maxMetadataDepth ≤ depth then .str truncatedText
      else .dict (truncateEntries entries.length (redactEntries depth maxMetadataEntries entries))
  | .proxy entries =>
      if maxMetadataDepth ≤ depth then .str truncatedText
      else .dict (truncateEntries entries.length (redactEntries depth maxMetadataEntries entries))
  | .list items =>
      if maxMetadataDepth ≤ depth then .str truncatedText
      else .tuple (truncateItems items.length (redactItems depth maxMetadataEntries items))
  | .tuple items =>
      if maxMetadataDepth ≤ depth then .str truncatedText
      else .tuple (truncateItems items.length (redactItems depth maxMetadataEntries items))
  | .other => if maxMetadataDepth ≤ depth then .str truncatedText else .other

/-- The generator over the first items of a sequence. -/
def redactItems (depth : Nat) : Nat → List Value → List Value
  | 0, _ => []
  | _, [] => []
  | limit + 1, item :: items => redactValue (depth + 1) item :: redactItems depth limit items

/-- The loop over the first entries of a mapping. -/
def redactEntries (depth : Nat) : Nat → List (Key × Value) → List (Key × Value)
  | 0, _ => []
  | _, [] => []
  | limit + 1, (.other _, _) :: entries => redactEntries depth limit entries
  | limit + 1, (.text key, value) :: entries =>
      if key = "" then redactEntries depth limit entries
      else if isSensitiveRecordKey key then
        (.text key, .str redactedText) :: redactEntries depth limit entries
      else
        (.text key, renderUnsupported redaction (redactValue (depth + 1) value)) ::
          redactEntries depth limit entries

end

/-- `redact_mapping` of a whole mapping. -/
def redactMapping (entries : List (Key × Value)) : List (Key × Value) :=
  truncateEntries entries.length (redactEntries redaction 0 maxMetadataEntries entries)

/-- The `repr` of a float that is not finite. -/
def nonFiniteText (value : PyFloat) : String :=
  if value.bits &&& 0xFFFFFFFFFFFFF ≠ 0 then "nan"
  else if value.bits >>> 63 = 1 then "-inf"
  else "inf"

mutual

/-- `_freeze_metadata_node` -/
def freezeMetadataNode : Value → Value
  | .dict entries => .proxy (freezeMetadataEntries entries)
  | .proxy entries => .proxy (freezeMetadataEntries entries)
  | .list items => .tuple (freezeMetadataItems items)
  | .tuple items => .tuple (freezeMetadataItems items)
  | .float value =>
      if value.isFinite then .float value else .str (redaction.redactString (nonFiniteText value))
  | .none => .none
  | .str text => .str text
  | .bool value => .bool value
  | .int value => .int value
  | .other => .str (redaction.redactString redaction.otherText)

def freezeMetadataItems : List Value → List Value
  | [] => []
  | item :: items => freezeMetadataNode item :: freezeMetadataItems items

def freezeMetadataEntries : List (Key × Value) → List (Key × Value)
  | [] => []
  | (.other _, _) :: entries => freezeMetadataEntries entries
  | (.text key, value) :: entries =>
      if key = "" then freezeMetadataEntries entries
      else (.text key, freezeMetadataNode value) :: freezeMetadataEntries entries

end

/-- `_bounded_metadata` of a mapping. The keys of a redacted mapping are non-empty strings. -/
def boundedMetadata (entries : List (Key × Value)) : List (Key × Value) :=
  freezeMetadataEntries redaction (redactMapping redaction entries)

end Redaction

end DataSluice.Domain
