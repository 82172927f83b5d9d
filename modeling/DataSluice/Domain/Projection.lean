/-
# Bounded projections of native values

A catalog record keeps every field that a platform sent; what it writes is a projection of
them, cut at a depth, at a number of entries in each container and at a number of nodes in
all. The nodes that are left are handed from node to node, depth first. Where something was
cut a marker stands.

A structural projection writes types and sizes in place of names and contents. It is a function
of the shape of the value alone, which is what `Shape.evidence` computes.
-/

import Mathlib.Algebra.Group.Nat.Defs
import DataSluice.Domain.Metadata

namespace DataSluice.Domain

/-- `_MAX_RECORD_NODES` -/
def maxRecordNodes : Nat := 256

/-- `MAX_TEXT_LENGTH` -/
def maxTextLength : Nat := 256

/-- `_PRIVATE_RECORD_PARTS` -/
def privateRecordParts : List String :=
  ["private", "internal", "email", "e_mail", "phone", "address", "contact", "origin"]

/-- The names whose values `_private_masked` replaces. -/
def isPrivateName (name : String) : Bool :=
  isSensitiveRecordKey name ||
    privateRecordParts.any fun part => decide (part.toList <:+: normalizeKey name)

/-- The mark of something that was cut. -/
def truncationMarker : Value := .str truncatedText

/-! ## The ends of containers -/

/-- `_mark_truncation` of a list -/
def markItems (sourceSize : Nat) (output : List Value) : List Value :=
  if sourceSize ≤ output.length then output
  else if output.length = maxMetadataEntries then output.dropLast ++ [truncationMarker]
  else output ++ [truncationMarker]

/-- `_mark_truncation` of a dictionary -/
def markFields (sourceSize : Nat) (output : List (Key × Value)) : List (Key × Value) :=
  if sourceSize ≤ output.length then output
  else if output.length = maxMetadataEntries then
    setEntry output.dropLast (.text truncatedText) truncationMarker
  else setEntry output (.text truncatedText) truncationMarker

/-- `_structural_scalar` -/
def structuralScalar : Value → String
  | .none => "null"
  | .str _ => "string"
  | .bool _ => "boolean"
  | .int _ => "integer"
  | .float _ => "number"
  | _ => "unknown"

/-- What the structural projection makes of a container. -/
def structuralContainer (type : String) (size : Nat) (entries : List Value) : Value :=
  .dict [(.text "type", .str type), (.text "size", .int size), (.text "entries", .list entries)]

/-! ## The projection -/

/-- `budget[0] <= 0 or depth >= MAX_METADATA_DEPTH` -/
def isExhausted (depth budget : Nat) : Bool := budget == 0 || decide (maxMetadataDepth ≤ depth)

section Projection

variable (redaction : Redaction) (structural : Bool)

/-- What is written for a value that is no container. An integer is cut when its magnitude has
more than `MAX_TEXT_LENGTH * 3` bits. -/
def writtenScalar (value : Value) : Value :=
  if structural then .str (structuralScalar value)
  else
    match value with
    | .str text => .str (redaction.redactString text)
    | .int number =>
        if 2 ^ (maxTextLength * 3) ≤ number.natAbs then truncationMarker else .int number
    | value => value

/-- `_record_projection` of a value that is no container, with the nodes that are left. -/
def projectScalar (depth budget : Nat) (value : Value) : Value × Nat :=
  if isExhausted depth budget then (truncationMarker, budget)
  else (writtenScalar redaction structural value, budget - 1)

/-- `redact_string` of a field name. The names of a frozen mapping are strings. -/
def redactName : Key → Key
  | .text name => .text (redaction.redactString name)
  | .other identity => .other identity

/-- The field is one whose value `_private_masked` replaces. -/
def isPrivateKey : Key → Bool
  | .text name => isPrivateName name
  | .other _ => false

/-- The end of `_container_projection` for a sequence. -/
def closeSequence (size : Nat) (projected : List Value × Nat) : Value × Nat :=
  let entries := markItems size projected.1
  (if structural then structuralContainer "array" size entries else .list entries, projected.2)

/-- The end of `_container_projection` for a mapping. The loop stores the fields in order, so
that of two names that are redacted alike the later value is kept, in the earlier place. -/
def closeMapping (size : Nat) (projected : List (Key × Value) × Nat) : Value × Nat :=
  (if structural then structuralContainer "object" size (markItems size (projected.1.map Prod.snd))
    else .dict (markFields size (mergeEntries [] projected.1)), projected.2)

mutual

/-- `_record_projection`, with the nodes that are left. -/
def recordProjection (depth budget : Nat) : Value → Value × Nat
  | .dict entries =>
      if isExhausted depth budget then (truncationMarker, budget)
      else closeMapping structural entries.length
        (projectEntries (depth + 1) maxMetadataEntries (budget - 1) entries)
  | .proxy entries =>
      if isExhausted depth budget then (truncationMarker, budget)
      else closeMapping structural entries.length
        (projectEntries (depth + 1) maxMetadataEntries (budget - 1) entries)
  | .list items =>
      if isExhausted depth budget then (truncationMarker, budget)
      else closeSequence structural items.length
        (projectItems (depth + 1) maxMetadataEntries (budget - 1) items)
  | .tuple items =>
      if isExhausted depth budget then (truncationMarker, budget)
      else closeSequence structural items.length
        (projectItems (depth + 1) maxMetadataEntries (budget - 1) items)
  | .none => projectScalar redaction structural depth budget .none
  | .bool value => projectScalar redaction structural depth budget (.bool value)
  | .int value => projectScalar redaction structural depth budget (.int value)
  | .float value => projectScalar redaction structural depth budget (.float value)
  | .str value => projectScalar redaction structural depth budget (.str value)
  | .other => projectScalar redaction structural depth budget .other

/-- The loop of `_container_projection` over the first items of a sequence. -/
def projectItems (depth : Nat) : Nat → Nat → List Value → List Value × Nat
  | 0, budget, _ => ([], budget)
  | _, budget, [] => ([], budget)
  | limit + 1, budget, nested :: items =>
      if budget = 0 then ([], budget)
      else
        let projected := recordProjection depth budget nested
        let rest := projectItems depth limit projected.2 items
        (projected.1 :: rest.1, rest.2)

/-- The loop of `_container_projection` over the first entries of a mapping, in the order of its
assignments. -/
def projectEntries (depth : Nat) :
    Nat → Nat → List (Key × Value) → List (Key × Value) × Nat
  | 0, budget, _ => ([], budget)
  | _, budget, [] => ([], budget)
  | limit + 1, budget, (name, nested) :: entries =>
      if budget = 0 then ([], budget)
      else
        let projected :=
          if !structural && isPrivateKey name then
            projectScalar redaction structural depth budget (.str redactedText)
          else recordProjection depth budget nested
        let rest := projectEntries depth limit projected.2 entries
        ((redactName redaction name, projected.1) :: rest.1, rest.2)

end

/-- `_serialized_record_payload` -/
def serializedRecordPayload (value : Value) : Value :=
  (recordProjection redaction false 0 maxRecordNodes value).1

/-- The value of `_record_evidence`. -/
def evidenceValue (value : Value) : Value :=
  (recordProjection redaction true 0 maxRecordNodes value).1

end Projection

/-! ## Shapes -/

/-- The types that structural evidence tells apart. -/
inductive ScalarType
  | null
  | string
  | boolean
  | integer
  | number
  | unknown
  deriving DecidableEq

/-- The word for a type. -/
def ScalarType.text : ScalarType → String
  | .null => "null"
  | .string => "string"
  | .boolean => "boolean"
  | .integer => "integer"
  | .number => "number"
  | .unknown => "unknown"

/-- What is left of a value without its field names and contents: the kinds of its containers,
their sizes, and the types of its scalars, each at its position. -/
inductive Shape
  | scalar (type : ScalarType)
  | array (items : List Shape)
  | object (items : List Shape)

mutual

def shape : Value → Shape
  | .dict entries => .object (shapeEntries entries)
  | .proxy entries => .object (shapeEntries entries)
  | .list items => .array (shapeItems items)
  | .tuple items => .array (shapeItems items)
  | .none => .scalar .null
  | .bool _ => .scalar .boolean
  | .int _ => .scalar .integer
  | .float _ => .scalar .number
  | .str _ => .scalar .string
  | .other => .scalar .unknown

def shapeItems : List Value → List Shape
  | [] => []
  | item :: items => shape item :: shapeItems items

def shapeEntries : List (Key × Value) → List Shape
  | [] => []
  | (_, value) :: entries => shape value :: shapeEntries entries

end

theorem length_shapeItems (items : List Value) : (shapeItems items).length = items.length := by
  induction items with
  | nil => rfl
  | cons item items ih => rw [shapeItems, List.length_cons, ih, List.length_cons]

theorem length_shapeEntries (entries : List (Key × Value)) :
    (shapeEntries entries).length = entries.length := by
  induction entries with
  | nil => rfl
  | cons entry entries ih =>
      obtain ⟨name, value⟩ := entry
      rw [shapeEntries, List.length_cons, ih, List.length_cons]

end DataSluice.Domain
