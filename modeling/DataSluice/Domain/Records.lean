/-
# Native records and result envelopes

A `NativeRecord` and a `MappingRecord` keep a frozen copy of what a platform sent. `to_dict`
writes a bounded, redacted projection of it and `from_dict` reads such an envelope back;
`to_evidence_dict` writes its structure alone. A result envelope collects the evidence of its
first items.
-/

import DataSluice.Domain.Artifact
import DataSluice.Domain.Evidence

namespace DataSluice.Domain

/-! ## Shared checks -/

/-- `data["schema_version"]` is an integer of the given versions and not a Boolean. -/
def isVersion (versions : List Int) : Value → Bool
  | .int version => decide (version ∈ versions)
  | _ => false

/-- `_strict_envelope` -/
def strictEnvelope (path kind : String) (keys : List String) (versions : List Int) (value : Value) :
    Except ContractError (List (String × Value)) := do
  let data ← objectDict path value
  if hasKeys keys data && isVersion versions (fieldOf data "schema_version") then
    if (fieldOf data "kind").isText kind then return data else contractError path
  else contractError path

/-- `_freeze_json` of a payload, which has to be a mapping. -/
def freezePayload (path : String) (payload : Value) : Except ContractError (List (Key × Value)) :=
  match freezeJson path payload with
  | .ok (.proxy entries) => .ok entries
  | .ok _ => contractError path
  | .error error => .error error

/-- `_freeze_extensions` with the errors of the catalog contracts. -/
def freezeCatalogExtensions : Value → Except ContractError (List (Key × Value))
  | .dict entries => (freezeExtensions entries).mapError fun error => ⟨error.path⟩
  | .proxy entries => (freezeExtensions entries).mapError fun error => ⟨error.path⟩
  | _ => contractError "extensions"

/-- `_record_evidence` -/
def recordEvidence (redaction : Redaction) (kind : String) (value : Value) : Value :=
  record
    [("schema_version", .int 1), ("kind", .str (kind ++ "_evidence")),
      ("value", evidenceValue redaction value)]

/-! ## Native records -/

def nativeRecordPayloadPath : String := "native_record.payload"

/-- `NativeRecord` -/
structure NativeRecord where
  platform : CatalogPlatform
  resourceKind : ResourceKind
  id : CatalogId
  payload : List (Key × Value)
  extensions : List (Key × Value)
  id_scoped : (id.platform, id.resourceKind) = (platform, resourceKind)
  payload_frozen : ∃ given, freezePayload nativeRecordPayloadPath given = .ok payload
  extensions_frozen : ∃ given, freezeCatalogExtensions given = .ok extensions

namespace NativeRecord

/-- The constructor. -/
def new (platform : CatalogPlatform) (resourceKind : ResourceKind) (id : CatalogId)
    (payload extensions : Value) : Except ContractError NativeRecord :=
  if hscoped : (id.platform, id.resourceKind) = (platform, resourceKind) then
    match hpayload : freezePayload nativeRecordPayloadPath payload with
    | .error error => .error error
    | .ok frozen =>
        match hextensions : freezeCatalogExtensions extensions with
        | .error error => .error error
        | .ok frozenExtensions =>
            .ok ⟨platform, resourceKind, id, frozen, frozenExtensions, hscoped,
              ⟨payload, hpayload⟩, ⟨extensions, hextensions⟩⟩
  else contractError "native_record.id"

variable (redaction : Redaction)

/-- `to_dict` -/
def toDict (native : NativeRecord) : Value :=
  record
    [("schema_version", .int 2), ("kind", .str "native_record"),
      ("platform", .str (redaction.redactString native.platform.value)),
      ("resource_kind", .str (redaction.redactString native.resourceKind.value)),
      ("id", serializedRecordPayload redaction native.id.toDict),
      ("payload", serializedRecordPayload redaction (.proxy native.payload)),
      ("extensions", serializedRecordPayload redaction (.proxy native.extensions))]

def keys : List String :=
  ["schema_version", "kind", "platform", "resource_kind", "id", "payload", "extensions"]

/-- `from_dict` -/
def fromDict (value : Value) : Except ContractError NativeRecord := do
  let data ← strictEnvelope "native_record" "native_record" keys [1, 2] value
  match fieldOf data "platform", fieldOf data "resource_kind" with
  | .str platform, .str resourceKind =>
      let platform ← CatalogPlatform.new platform
      let resourceKind ← ResourceKind.new resourceKind
      let id ← CatalogId.fromDict (fieldOf data "id")
      let payload ← objectDict nativeRecordPayloadPath (fieldOf data "payload")
      let extensions ← objectDict "native_record.extensions" (fieldOf data "extensions")
      new platform resourceKind id (record payload) (record extensions)
  | _, _ => contractError "native_record.identity"

/-- What the evidence of a record is made from. -/
def content (native : NativeRecord) : Value :=
  .tuple [.proxy native.payload, .proxy native.extensions]

/-- `to_evidence_dict` -/
def toEvidenceDict (native : NativeRecord) : Value :=
  recordEvidence redaction "native_record" native.content

end NativeRecord

/-! ## Mapping records -/

def mappingRecordPayloadPath : String := "mapping_record.payload"

/-- `MappingRecord` -/
structure MappingRecord where
  payload : List (Key × Value)
  payload_frozen : ∃ given, freezePayload mappingRecordPayloadPath given = .ok payload

namespace MappingRecord

/-- The constructor. -/
def new (payload : Value) : Except ContractError MappingRecord :=
  match hpayload : freezePayload mappingRecordPayloadPath payload with
  | .error error => .error error
  | .ok frozen => .ok ⟨frozen, payload, hpayload⟩

variable (redaction : Redaction)

/-- `to_dict` -/
def toDict (mapping : MappingRecord) : Value :=
  record
    [("schema_version", .int 2), ("kind", .str "mapping_record"),
      ("payload", serializedRecordPayload redaction (.proxy mapping.payload))]

/-- `from_dict` -/
def fromDict (value : Value) : Except ContractError MappingRecord := do
  let data ← strictEnvelope "mapping_record" "mapping_record" ["schema_version", "kind", "payload"]
    [1, 2] value
  let payload ← objectDict mappingRecordPayloadPath (fieldOf data "payload")
  new (record payload)

/-- `to_evidence_dict` -/
def toEvidenceDict (mapping : MappingRecord) : Value :=
  recordEvidence redaction "mapping_record" (.proxy mapping.payload)

end MappingRecord

/-! ## Result envelopes -/

/-- `PageInfo` -/
structure PageInfo where
  cursor : Option String
  nextCursor : Option String
  totalItems : Option Nat

/-- `WarningRecord` -/
structure WarningRecord where
  code : String
  message : String
  code_nonempty : code ≠ ""
  message_nonempty : message ≠ ""

/-- `PlatformMetadata` -/
structure PlatformMetadata where
  platform : CatalogPlatform
  apiVersion : Option String
  deployment : Option String
  extensions : List (Key × Value)
  extensions_frozen : ∃ given, freezeCatalogExtensions given = .ok extensions

/-- `ResultEnvelope` -/
structure ResultEnvelope (Item : Type) where
  items : List Item
  page : Option PageInfo
  warnings : List WarningRecord
  platform : Option PlatformMetadata

/-- An item of a result envelope: a record, or an object that has no `to_evidence_dict`. -/
inductive CatalogItem
  | native (record : NativeRecord)
  | mapping (record : MappingRecord)
  | unsupported

/-- `to_evidence_dict` of an item, where it has one. -/
def CatalogItem.toEvidenceDict (redaction : Redaction) : CatalogItem → Option Value
  | native record => some (record.toEvidenceDict redaction)
  | mapping record => some (record.toEvidenceDict redaction)
  | unsupported => none

namespace ResultEnvelope

variable {Item : Type}

/-- The loop over the first items. -/
def evidenceOf (project : Item → Option Value) : List Item → Except ContractError (List Value)
  | [] => .ok []
  | item :: items =>
      match project item with
      | some evidence => (evidenceOf project items).map (evidence :: ·)
      | none => contractError "result_envelope.evidence"

/-- `to_evidence_dict` -/
def toEvidenceDict (project : Item → Option Value) (envelope : ResultEnvelope Item) :
    Except ContractError Value := do
  let items ← evidenceOf project (envelope.items.take maxMetadataEntries)
  return record
    [("schema_version", .int 1), ("kind", .str "result_envelope_evidence"), ("items", .list items),
      ("item_count", .int envelope.items.length),
      ("truncated", .bool (decide (maxMetadataEntries < envelope.items.length)))]

theorem evidenceOf_congr {project : Item → Option Value} {first second : List Item}
    (halike : List.Forall₂ (fun item other => project item = project other) first second) :
    evidenceOf project first = evidenceOf project second := by
  induction halike with
  | nil => rfl
  | cons hitem _ ih => rw [evidenceOf, evidenceOf, hitem, ih]

/-- Envelopes whose items have pairwise the same evidence have the same evidence. -/
theorem toEvidenceDict_congr {project : Item → Option Value} {first second : ResultEnvelope Item}
    (halike : List.Forall₂ (fun item other => project item = project other) first.items
      second.items) :
    first.toEvidenceDict project = second.toEvidenceDict project := by
  rw [toEvidenceDict, toEvidenceDict, halike.length_eq,
    evidenceOf_congr (List.forall₂_take maxMetadataEntries halike)]

end ResultEnvelope

/-! ## Evidence depends on the shape -/

/-- The records have one shape: their payloads and their extensions have. -/
def NativeRecord.SameShape (first second : NativeRecord) : Prop :=
  shape (.proxy first.payload) = shape (.proxy second.payload) ∧
    shape (.proxy first.extensions) = shape (.proxy second.extensions)

/-- The records have one shape. -/
def MappingRecord.SameShape (first second : MappingRecord) : Prop :=
  shape (.proxy first.payload) = shape (.proxy second.payload)

/-- The items are records of one kind and one shape. -/
inductive CatalogItem.SameShape : CatalogItem → CatalogItem → Prop
  | native {first second : NativeRecord} (halike : first.SameShape second) :
      SameShape (.native first) (.native second)
  | mapping {first second : MappingRecord} (halike : first.SameShape second) :
      SameShape (.mapping first) (.mapping second)

/-- The evidence keeps every bound of the projection; a marker is no level and no node. -/
structure Evidence.Bounded (evidence : Evidence) : Prop where
  levels_le : evidence.levels ≤ maxMetadataDepth
  width_le : evidence.WidthAtMost maxMetadataEntries
  nodes_le : evidence.nodes ≤ maxRecordNodes

variable (redaction : Redaction)

theorem evidenceValue_eq (value : Value) :
    evidenceValue redaction value =
      (Shape.evidence 0 maxRecordNodes (shape value)).1.toValue := by
  rw [evidenceValue, recordProjection_structural]

theorem bounded_evidence (shape : Shape) : (shape.evidence 0 maxRecordNodes).1.Bounded where
  levels_le := levels_evidence_le 0 maxRecordNodes shape
  width_le := widthAtMost_evidence 0 maxRecordNodes shape
  nodes_le := (Nat.le_add_right _ _).trans (nodes_evidence_le 0 maxRecordNodes shape)

/-- A value's evidence is that of its shape, within the bounds. -/
theorem exists_evidence (kind : String) (value : Value) :
    ∃ evidence : Evidence, evidence.Bounded ∧
      recordEvidence redaction kind value =
        record [("schema_version", .int 1), ("kind", .str (kind ++ "_evidence")),
          ("value", evidence.toValue)] :=
  ⟨_, bounded_evidence (shape value), by rw [recordEvidence, evidenceValue_eq]⟩

theorem recordEvidence_congr (kind : String) {first second : Value}
    (halike : shape first = shape second) :
    recordEvidence redaction kind first = recordEvidence redaction kind second := by
  have hevidence : evidenceValue redaction first = evidenceValue redaction second := by
    calc evidenceValue redaction first
      _ = ((shape first).evidence 0 maxRecordNodes).1.toValue := evidenceValue_eq redaction first
      _ = ((shape second).evidence 0 maxRecordNodes).1.toValue := by rw [halike]
      _ = evidenceValue redaction second := (evidenceValue_eq redaction second).symm
  rw [recordEvidence, recordEvidence, hevidence]

theorem NativeRecord.toEvidenceDict_congr {first second : NativeRecord}
    (halike : first.SameShape second) :
    first.toEvidenceDict redaction = second.toEvidenceDict redaction := by
  refine recordEvidence_congr redaction "native_record" ?_
  rw [content, content, shape, shape, shapeItems, shapeItems, shapeItems, shapeItems, halike.1,
    halike.2]
  rfl

theorem MappingRecord.toEvidenceDict_congr {first second : MappingRecord}
    (halike : first.SameShape second) :
    first.toEvidenceDict redaction = second.toEvidenceDict redaction :=
  recordEvidence_congr redaction "mapping_record" halike

theorem CatalogItem.toEvidenceDict_congr {first second : CatalogItem}
    (halike : first.SameShape second) :
    first.toEvidenceDict redaction = second.toEvidenceDict redaction := by
  cases halike with
  | native halike => exact congrArg some (NativeRecord.toEvidenceDict_congr redaction halike)
  | mapping halike => exact congrArg some (MappingRecord.toEvidenceDict_congr redaction halike)

/-- Structural evidence reveals the shape of records and nothing else of them, and keeps the
bounds of the projection. -/
theorem evidence_reveals_shape_only :
    (∀ first second : NativeRecord, first.SameShape second →
        first.toEvidenceDict redaction = second.toEvidenceDict redaction) ∧
      (∀ first second : MappingRecord, first.SameShape second →
        first.toEvidenceDict redaction = second.toEvidenceDict redaction) ∧
      (∀ first second : ResultEnvelope CatalogItem,
        List.Forall₂ CatalogItem.SameShape first.items second.items →
          first.toEvidenceDict (CatalogItem.toEvidenceDict redaction) =
            second.toEvidenceDict (CatalogItem.toEvidenceDict redaction)) ∧
      (∀ native : NativeRecord, ∃ evidence : Evidence, evidence.Bounded ∧
        native.toEvidenceDict redaction =
          record [("schema_version", .int 1), ("kind", .str "native_record_evidence"),
            ("value", evidence.toValue)]) ∧
      (∀ mapping : MappingRecord, ∃ evidence : Evidence, evidence.Bounded ∧
        mapping.toEvidenceDict redaction =
          record [("schema_version", .int 1), ("kind", .str "mapping_record_evidence"),
            ("value", evidence.toValue)]) := by
  refine ⟨fun _ _ => NativeRecord.toEvidenceDict_congr redaction,
    fun _ _ => MappingRecord.toEvidenceDict_congr redaction, fun first second halike => ?_,
    fun native => exists_evidence redaction "native_record" native.content,
    fun mapping => exists_evidence redaction "mapping_record" (.proxy mapping.payload)⟩
  exact ResultEnvelope.toEvidenceDict_congr
    (halike.imp fun _ _ => CatalogItem.toEvidenceDict_congr redaction)

theorem MappingRecord.single_frozen (name text : String) :
    ∃ given, freezePayload mappingRecordPayloadPath given = .ok [(.text name, .str text)] :=
  ⟨.dict [(.text name, .str text)], rfl⟩

/-- A record of one field. -/
def MappingRecord.single (name text : String) : MappingRecord :=
  ⟨[(.text name, .str text)], single_frozen name text⟩

theorem titles_and_addresses_share_evidence :
    (MappingRecord.single "title" "Rainfall").toEvidenceDict ⟨fun _ => false, id⟩ =
      (MappingRecord.single "email" "someone@example.test").toEvidenceDict ⟨fun _ => false, id⟩ :=
  (evidence_reveals_shape_only ⟨fun _ => false, id⟩).2.1 _ _ rfl

end DataSluice.Domain
