/-
# Mutation receipts, bulk plans and bulk checkpoints

Each contract is an immutable record whose constructor checks its fields, with an
envelope that `to_dict` writes and `from_dict` reads strictly: the key set, the
schema version and the kind have to be those of the contract. The records here
carry what their constructors check.

Arguments that the source checks for their type only (`isinstance`) have that type
here, so those checks appear where an envelope is read.
-/

import Mathlib.Data.List.Nodup
import DataSluice.Domain.Json

namespace DataSluice.Domain

/-! ## Envelopes -/

/-- A `dict` with string keys. -/
def record (fields : List (String × Value)) : Value :=
  .dict (fields.map fun field => (.text field.1, field.2))

/-- A schema-v1 envelope. -/
def envelope (kind : String) (fields : List (String × Value)) : Value :=
  record (("schema_version", .int 1) :: ("kind", .str kind) :: fields)

/-- `data[key]`, for a key that is present. -/
def fieldOf (data : List (String × Value)) (key : String) : Value :=
  (data.lookup key).getD .none

/-- The value is the integer 1 and not a Boolean. -/
def Value.isOne : Value → Bool
  | .int value => value == 1
  | _ => false

/-- The value is the given string. -/
def Value.isText (text : String) : Value → Bool
  | .str value => value == text
  | _ => false

/-- The fields of a strict envelope: `set(data)` is the contract's key set, the
schema version is the integer 1 and the kind is the contract's. -/
def openEnvelope (path kind : String) (keys : List String) (value : Value) :
    Except ContractError (List (String × Value)) :=
  match objectDict path value with
  | .error error => .error error
  | .ok data =>
      if data.map Prod.fst ⊆ "schema_version" :: "kind" :: keys ∧
          "schema_version" :: "kind" :: keys ⊆ data.map Prod.fst ∧
          (fieldOf data "schema_version").isOne = true ∧
          (fieldOf data "kind").isText kind = true then .ok data
      else contractError path

/-- `_required_text` -/
def requiredText (path : String) : Value → Except ContractError String
  | .str value => if value = "" then contractError path else .ok value
  | _ => contractError path

/-- `_optional_text` -/
def optionalText (path : String) : Value → Except ContractError (Option String)
  | .none => .ok none
  | .str value => .ok (some value)
  | _ => contractError path

/-- A value checked with `type(value) is not bool`. -/
def requiredBool (path : String) : Value → Except ContractError Bool
  | .bool value => .ok value
  | _ => contractError path

/-- A value checked with `isinstance(value, list)`. -/
def requiredList (path : String) : Value → Except ContractError (List Value)
  | .list items => .ok items
  | _ => contractError path

/-- An optional text as it stands in an envelope. -/
def ofOptional : Option String → Value
  | none => .none
  | some value => .str value

theorem objectDict_record (path : String) (fields : List (String × Value)) :
    objectDict path (record fields) = .ok fields := by
  rw [record, objectDict]
  induction fields with
  | nil => rfl
  | cons field fields ih =>
      rw [List.map_cons, objectDict.textEntries, ih]
      rfl

/-- An envelope opens to the fields it was written with. -/
theorem openEnvelope_envelope (path kind : String) (fields : List (String × Value)) :
    openEnvelope path kind (fields.map Prod.fst) (envelope kind fields) =
      .ok (("schema_version", .int 1) :: ("kind", .str kind) :: fields) := by
  rw [openEnvelope, envelope, objectDict_record]
  refine if_pos ⟨?_, ?_, ?_, ?_⟩
  · exact List.Subset.refl _
  · exact List.Subset.refl _
  · rfl
  · simp [fieldOf, Value.isText, List.lookup_cons]

theorem optionalText_ofOptional (path : String) (value : Option String) :
    optionalText path (ofOptional value) = .ok value := by
  cases value with
  | none => rfl
  | some value => rfl

theorem requiredText_str {path value : String} (hvalue : value ≠ "") :
    requiredText path (.str value) = .ok value := if_neg hvalue

/-- Reading back a list that was written item by item. -/
theorem mapM_map_ok {α β ε : Type} {write : α → β} {read : β → Except ε α}
    (hread : ∀ value, read (write value) = .ok value) (values : List α) :
    (values.map write).mapM read = .ok values := by
  induction values with
  | nil => rfl
  | cons value values ih =>
      rw [List.map_cons, List.mapM_cons, hread, ih]
      rfl

/-! ## Catalog identifiers -/

/-- The characters after the first of a platform or a resource kind. -/
def isValueChar (character : Char) : Bool :=
  character.isLower || character.isDigit || character == '.' || character == '_' ||
    character == '/' || character == '-'

/-- `_VALUE_RE.fullmatch(value) is not None` -/
def matchesValueRe (value : String) : Bool :=
  match value.toList with
  | [] => false
  | first :: rest => (first.isLower || first.isDigit) && rest.all isValueChar

/-- An explicit platform identity for one catalog deployment family. -/
structure CatalogPlatform where
  value : String
  valid : matchesValueRe value = true
  deriving DecidableEq

/-- An explicit resource kind scoped by a `CatalogId`. -/
structure ResourceKind where
  value : String
  valid : matchesValueRe value = true
  deriving DecidableEq

/-- A platform- and resource-kind-scoped opaque catalog identifier. -/
structure CatalogId where
  platform : CatalogPlatform
  resourceKind : ResourceKind
  value : String
  nonempty : value ≠ ""
  deriving DecidableEq

/-- The `CatalogPlatform` constructor. -/
def CatalogPlatform.new (value : String) : Except ContractError CatalogPlatform :=
  if valid : matchesValueRe value = true then .ok ⟨value, valid⟩ else contractError "platform"

/-- The `ResourceKind` constructor. -/
def ResourceKind.new (value : String) : Except ContractError ResourceKind :=
  if valid : matchesValueRe value = true then .ok ⟨value, valid⟩
  else contractError "resource_kind"

/-- The `CatalogId` constructor. -/
def CatalogId.new (platform : CatalogPlatform) (resourceKind : ResourceKind) (value : String) :
    Except ContractError CatalogId :=
  if nonempty : value ≠ "" then .ok ⟨platform, resourceKind, value, nonempty⟩
  else contractError "catalog_id.value"

/-- `CatalogId.to_dict` -/
def CatalogId.toDict (id : CatalogId) : Value :=
  envelope "catalog_id"
    [("platform", .str id.platform.value), ("resource_kind", .str id.resourceKind.value),
      ("value", .str id.value)]

/-- `CatalogId.from_dict` -/
def CatalogId.fromDict (value : Value) : Except ContractError CatalogId := do
  let data ← openEnvelope "catalog_id" "catalog_id" ["platform", "resource_kind", "value"] value
  match fieldOf data "platform", fieldOf data "resource_kind", fieldOf data "value" with
  | .str platform, .str resourceKind, .str nativeValue =>
      CatalogId.new (← CatalogPlatform.new platform) (← ResourceKind.new resourceKind) nativeValue
  | _, _, _ => contractError "catalog_id"

theorem CatalogId.fromDict_toDict (id : CatalogId) : fromDict id.toDict = .ok id := by
  have hopen := openEnvelope_envelope "catalog_id" "catalog_id"
    [("platform", .str id.platform.value), ("resource_kind", .str id.resourceKind.value),
      ("value", .str id.value)]
  simp only [List.map_cons, List.map_nil] at hopen
  rw [fromDict, toDict, hopen]
  simp [fieldOf, List.lookup_cons, CatalogPlatform.new, ResourceKind.new, CatalogId.new, bind,
    Except.bind, id.platform.valid, id.resourceKind.valid, id.nonempty]

/-! ## Mutation receipts -/

/-- `_ATOMICITIES` -/
inductive Atomicity
  | atomic
  | independent
  deriving DecidableEq

/-- `_OUTCOMES` -/
inductive Outcome
  | succeeded
  | rejected
  | failed
  | cancelled
  | ambiguous
  | skipped
  deriving DecidableEq

def Atomicity.text : Atomicity → String
  | .atomic => "atomic"
  | .independent => "independent"

def Atomicity.ofText (text : String) : Option Atomicity :=
  [Atomicity.atomic, .independent].find? fun atomicity => atomicity.text = text

def Outcome.text : Outcome → String
  | .succeeded => "succeeded"
  | .rejected => "rejected"
  | .failed => "failed"
  | .cancelled => "cancelled"
  | .ambiguous => "ambiguous"
  | .skipped => "skipped"

def Outcome.ofText (text : String) : Option Outcome :=
  [Outcome.succeeded, .rejected, .failed, .cancelled, .ambiguous, .skipped].find? fun outcome =>
    outcome.text = text

@[simp] theorem Atomicity.ofText_text (atomicity : Atomicity) :
    ofText atomicity.text = some atomicity := by
  cases atomicity <;> rfl

@[simp] theorem Outcome.ofText_text (outcome : Outcome) : ofText outcome.text = some outcome := by
  cases outcome <;> rfl

theorem Atomicity.text_ne_empty (atomicity : Atomicity) : atomicity.text ≠ "" := by
  cases atomicity <;> decide

theorem Outcome.text_ne_empty (outcome : Outcome) : outcome.text ≠ "" := by
  cases outcome <;> decide

/-- `_MUTATION_RECEIPT_AUDIT_METADATA_PATH` -/
def auditMetadataPath : String := "mutation_receipt.audit_metadata"

/-- `_MUTATION_RECEIPT_ATOMICITY_PATH` -/
def atomicityPath : String := "mutation_receipt.atomicity"

/-- `_freeze_audit_metadata`. A validated mapping freezes to a mapping, so the second
type check of the source is not reached. -/
def freezeAuditMetadata (redaction : Redaction) : Value → Except ContractError Value
  | .dict entries => validateRedactedMetadata redaction auditMetadataPath (.dict entries)
  | .proxy entries => validateRedactedMetadata redaction auditMetadataPath (.proxy entries)
  | _ => contractError auditMetadataPath

/-- An immutable, redacted receipt for one catalog mutation. -/
structure MutationReceipt (redaction : Redaction) where
  operation : String
  outcome : Outcome
  target : CatalogId
  versionToken : Option String := none
  requestId : Option String := none
  atomicity : Atomicity := .independent
  operationAtomicity : Atomicity := .independent
  auditMetadata : Value
  operation_ne_empty : operation ≠ ""
  atomic_only_if : ¬ (atomicity = .atomic ∧ operationAtomicity ≠ .atomic)
  /-- The metadata is the frozen copy of a mapping that passed the check. -/
  audit_frozen : ∃ raw, freezeAuditMetadata redaction raw = .ok auditMetadata

namespace MutationReceipt

variable {redaction : Redaction}

/-- The constructor, with the checks of `__post_init__` in their order. -/
def new (operation outcome : String) (target : CatalogId) (versionToken requestId : Option String)
    (atomicity operationAtomicity : String) (auditMetadata : Value) :
    Except ContractError (MutationReceipt redaction) :=
  if hoperation : operation = "" then contractError "mutation_receipt.operation"
  else
    match Outcome.ofText outcome with
    | none => contractError "mutation_receipt.outcome"
    | some outcome =>
        match Atomicity.ofText atomicity, Atomicity.ofText operationAtomicity with
        | some atomicity, some operationAtomicity =>
            if hatomic : atomicity = .atomic ∧ operationAtomicity ≠ .atomic then
              contractError atomicityPath
            else
              match hfrozen : freezeAuditMetadata redaction auditMetadata with
              | .error error => .error error
              | .ok frozen =>
                  .ok ⟨operation, outcome, target, versionToken, requestId, atomicity,
                    operationAtomicity, frozen, hoperation, hatomic, auditMetadata, hfrozen⟩
        | _, _ => contractError atomicityPath

/-- The fields of `to_dict` after the schema version and the kind. -/
def fields (receipt : MutationReceipt redaction) : List (String × Value) :=
  [("operation", .str receipt.operation),
    ("outcome", .str receipt.outcome.text),
    ("target", receipt.target.toDict),
    ("version_token", ofOptional receipt.versionToken),
    ("request_id", ofOptional receipt.requestId),
    ("atomicity", .str receipt.atomicity.text),
    ("operation_atomicity", .str receipt.operationAtomicity.text),
    ("audit_metadata", thawJson receipt.auditMetadata)]

/-- `MutationReceipt.to_dict` -/
def toDict (receipt : MutationReceipt redaction) : Value :=
  envelope "mutation_receipt" receipt.fields

/-- `MutationReceipt.from_dict` -/
def fromDict (value : Value) : Except ContractError (MutationReceipt redaction) := do
  let data ← openEnvelope "mutation_receipt" "mutation_receipt"
    ["operation", "outcome", "target", "version_token", "request_id", "atomicity",
      "operation_atomicity", "audit_metadata"] value
  new (← requiredText "mutation_receipt.operation" (fieldOf data "operation"))
    (← requiredText "mutation_receipt.outcome" (fieldOf data "outcome"))
    (← CatalogId.fromDict (fieldOf data "target"))
    (← optionalText "mutation_receipt.version_token" (fieldOf data "version_token"))
    (← optionalText "mutation_receipt.request_id" (fieldOf data "request_id"))
    (← requiredText atomicityPath (fieldOf data "atomicity"))
    (← requiredText "mutation_receipt.operation_atomicity" (fieldOf data "operation_atomicity"))
    (record (← objectDict auditMetadataPath (fieldOf data "audit_metadata")))

/-- The constructor rebuilds a receipt from its fields, given metadata that freezes
to the receipt's own. -/
theorem new_eq (receipt : MutationReceipt redaction) {raw : Value}
    (hraw : freezeAuditMetadata redaction raw = .ok receipt.auditMetadata) :
    new receipt.operation receipt.outcome.text receipt.target receipt.versionToken
      receipt.requestId receipt.atomicity.text receipt.operationAtomicity.text raw =
        .ok receipt := by
  simp only [new, Outcome.ofText_text, Atomicity.ofText_text]
  rw [dif_neg receipt.operation_ne_empty, dif_neg receipt.atomic_only_if]
  split
  · next error herror =>
      rw [hraw] at herror
      cases herror
  · next frozen hfrozen =>
      rw [hraw] at hfrozen
      cases hfrozen
      rfl

/-- Frozen metadata is a mapping, and its thawed copy passes the check again. -/
theorem audit_roundTrip (receipt : MutationReceipt redaction) :
    ∃ copied, objectDict auditMetadataPath (thawJson receipt.auditMetadata) = .ok copied ∧
      freezeAuditMetadata redaction (record copied) = .ok receipt.auditMetadata := by
  obtain ⟨raw, hraw⟩ := receipt.audit_frozen
  have hvalid : validateRedactedMetadata redaction auditMetadataPath raw =
      .ok receipt.auditMetadata ∧ ∃ entries, raw = .dict entries ∨ raw = .proxy entries := by
    cases raw with
    | dict entries => exact ⟨hraw, entries, .inl rfl⟩
    | proxy entries => exact ⟨hraw, entries, .inr rfl⟩
    | none | bool _ | int _ | float _ | str _ | list _ | tuple _ | other => cases hraw
  obtain ⟨hvalid, entries, hentries⟩ := hvalid
  have hobject : ∃ frozen, freezeJsonObject auditMetadataPath entries = .ok frozen ∧
      receipt.auditMetadata = .proxy frozen := by
    rcases hentries with rfl | rfl
    · exact map_eq_ok (freezeJson_of_validate hvalid)
    · exact map_eq_ok (freezeJson_of_validate hvalid)
  obtain ⟨frozen, hfrozen, hmetadata⟩ := hobject
  obtain ⟨copied, hcopied, hthawed⟩ := objectDict_thawJson hfrozen auditMetadataPath
  refine ⟨copied, by rw [hmetadata]; exact hcopied, ?_⟩
  have hagain := validateRedactedMetadata_thawJson redaction auditMetadataPath raw hvalid
  rw [hmetadata, thawJson, ← hthawed] at hagain
  rw [hmetadata]
  exact hagain

theorem fromDict_toDict (receipt : MutationReceipt redaction) :
    fromDict receipt.toDict = .ok receipt := by
  have hopen := openEnvelope_envelope "mutation_receipt" "mutation_receipt" receipt.fields
  obtain ⟨copied, hcopied, hfrozen⟩ := receipt.audit_roundTrip
  simp only [fields, List.map_cons, List.map_nil] at hopen
  rw [fromDict, toDict, fields, hopen]
  simp only [bind, Except.bind, fieldOf, List.lookup_cons, Option.getD, String.reduceBEq,
    requiredText_str receipt.operation_ne_empty, requiredText_str receipt.outcome.text_ne_empty,
    CatalogId.fromDict_toDict, optionalText_ofOptional,
    requiredText_str receipt.atomicity.text_ne_empty,
    requiredText_str receipt.operationAtomicity.text_ne_empty, hcopied]
  exact receipt.new_eq hfrozen

end MutationReceipt

/-! ## Bulk plans -/

/-- An ordered immutable plan for a bounded set of catalog mutations. -/
structure BulkPlan where
  operation : String
  items : List CatalogId
  preview : Bool := false
  atomicity : Atomicity := .independent
  cancellationRequested : Bool := false
  resumptionCursor : Option String := none
  operation_ne_empty : operation ≠ ""
  deriving DecidableEq

namespace BulkPlan

/-- The constructor. -/
def new (operation : String) (items : List CatalogId) (preview : Bool) (atomicity : String)
    (cancellationRequested : Bool) (resumptionCursor : Option String) :
    Except ContractError BulkPlan :=
  if hoperation : operation = "" then contractError "bulk_plan.operation"
  else
    match Atomicity.ofText atomicity with
    | none => contractError "bulk_plan.atomicity"
    | some atomicity =>
        .ok ⟨operation, items, preview, atomicity, cancellationRequested, resumptionCursor,
          hoperation⟩

/-- The fields of `to_dict` after the schema version and the kind. -/
def fields (plan : BulkPlan) : List (String × Value) :=
  [("operation", .str plan.operation),
    ("items", .list (plan.items.map CatalogId.toDict)),
    ("preview", .bool plan.preview),
    ("atomicity", .str plan.atomicity.text),
    ("cancellation_requested", .bool plan.cancellationRequested),
    ("resumption_cursor", ofOptional plan.resumptionCursor)]

/-- `BulkPlan.to_dict` -/
def toDict (plan : BulkPlan) : Value := envelope "bulk_plan" plan.fields

/-- `BulkPlan.from_dict` -/
def fromDict (value : Value) : Except ContractError BulkPlan := do
  let data ← openEnvelope "bulk_plan" "bulk_plan"
    ["operation", "items", "preview", "atomicity", "cancellation_requested",
      "resumption_cursor"] value
  let items ← requiredList "bulk_plan" (fieldOf data "items")
  let preview ← requiredBool "bulk_plan" (fieldOf data "preview")
  let cancellationRequested ← requiredBool "bulk_plan" (fieldOf data "cancellation_requested")
  new (← requiredText "bulk_plan.operation" (fieldOf data "operation"))
    (← items.mapM CatalogId.fromDict) preview
    (← requiredText "bulk_plan.atomicity" (fieldOf data "atomicity")) cancellationRequested
    (← optionalText "bulk_plan.resumption_cursor" (fieldOf data "resumption_cursor"))

theorem new_eq (plan : BulkPlan) :
    new plan.operation plan.items plan.preview plan.atomicity.text plan.cancellationRequested
      plan.resumptionCursor = .ok plan := by
  rw [new, dif_neg plan.operation_ne_empty, Atomicity.ofText_text]

theorem fromDict_toDict (plan : BulkPlan) : fromDict plan.toDict = .ok plan := by
  have hopen := openEnvelope_envelope "bulk_plan" "bulk_plan" plan.fields
  simp only [fields, List.map_cons, List.map_nil] at hopen
  rw [fromDict, toDict, fields, hopen]
  simp only [bind, Except.bind, fieldOf, List.lookup_cons, Option.getD, String.reduceBEq,
    requiredList, requiredBool, requiredText_str plan.operation_ne_empty,
    mapM_map_ok CatalogId.fromDict_toDict, requiredText_str plan.atomicity.text_ne_empty,
    optionalText_ofOptional]
  exact plan.new_eq

end BulkPlan

/-! ## Bulk checkpoints -/

/-- One ordered mutation outcome recorded during a bulk plan. -/
structure BulkItemReceipt (redaction : Redaction) where
  index : Nat
  receipt : MutationReceipt redaction

namespace BulkItemReceipt

variable {redaction : Redaction}

/-- The constructor. -/
def new (index : Int) (receipt : MutationReceipt redaction) :
    Except ContractError (BulkItemReceipt redaction) :=
  if index < 0 then contractError "bulk_item_receipt" else .ok ⟨index.toNat, receipt⟩

/-- `BulkItemReceipt.to_dict` -/
def toDict (item : BulkItemReceipt redaction) : Value :=
  envelope "bulk_item_receipt" [("index", .int item.index), ("receipt", item.receipt.toDict)]

/-- `BulkItemReceipt.from_dict` -/
def fromDict (value : Value) : Except ContractError (BulkItemReceipt redaction) := do
  let data ← openEnvelope "bulk_item_receipt" "bulk_item_receipt" ["index", "receipt"] value
  match fieldOf data "index" with
  | .int index => new index (← MutationReceipt.fromDict (fieldOf data "receipt"))
  | _ => contractError "bulk_item_receipt.index"

theorem fromDict_toDict (item : BulkItemReceipt redaction) :
    fromDict item.toDict = .ok item := by
  have hopen := openEnvelope_envelope "bulk_item_receipt" "bulk_item_receipt"
    [("index", .int item.index), ("receipt", item.receipt.toDict)]
  simp only [List.map_cons, List.map_nil] at hopen
  rw [fromDict, toDict, hopen]
  simp only [bind, Except.bind, fieldOf, List.lookup_cons, Option.getD, String.reduceBEq,
    MutationReceipt.fromDict_toDict, new]
  rw [if_neg (Int.not_lt.mpr (Int.natCast_nonneg _)), Int.toNat_natCast]

end BulkItemReceipt

/-- What the constructor of a checkpoint asks of the receipts' indices: they equal
their sorted copy, none occurs twice and each names an item of the plan. -/
structure IndicesOk (total : Nat) (indices : List Nat) : Prop where
  sorted : indices.Pairwise (· ≤ ·)
  nodup : indices.Nodup
  bounded : ∀ index ∈ indices, index < total

instance (total : Nat) (indices : List Nat) : Decidable (IndicesOk total indices) :=
  decidable_of_iff
    (indices.Pairwise (· ≤ ·) ∧ indices.Nodup ∧ ∀ index ∈ indices, index < total)
    ⟨fun h => ⟨h.1, h.2.1, h.2.2⟩, fun h => ⟨h.sorted, h.nodup, h.bounded⟩⟩

/-- A resumable immutable record of one partially executed bulk plan. -/
structure BulkCheckpoint (redaction : Redaction) where
  plan : BulkPlan
  itemReceipts : List (BulkItemReceipt redaction)
  cancellationRequested : Bool
  resumptionCursor : Option String
  indices_ok : IndicesOk plan.items.length (itemReceipts.map BulkItemReceipt.index)

namespace BulkCheckpoint

variable {redaction : Redaction}

/-- The constructor. -/
def new (plan : BulkPlan) (itemReceipts : List (BulkItemReceipt redaction))
    (cancellationRequested : Bool) (resumptionCursor : Option String) :
    Except ContractError (BulkCheckpoint redaction) :=
  if hindices : IndicesOk plan.items.length (itemReceipts.map BulkItemReceipt.index) then
    .ok ⟨plan, itemReceipts, cancellationRequested, resumptionCursor, hindices⟩
  else contractError "bulk_checkpoint.item_receipts"

/-- The fields of `to_dict` after the schema version and the kind. -/
def fields (checkpoint : BulkCheckpoint redaction) : List (String × Value) :=
  [("plan", checkpoint.plan.toDict),
    ("item_receipts", .list (checkpoint.itemReceipts.map BulkItemReceipt.toDict)),
    ("cancellation_requested", .bool checkpoint.cancellationRequested),
    ("resumption_cursor", ofOptional checkpoint.resumptionCursor)]

/-- `BulkCheckpoint.to_dict` -/
def toDict (checkpoint : BulkCheckpoint redaction) : Value :=
  envelope "bulk_checkpoint" checkpoint.fields

/-- `BulkCheckpoint.from_dict` -/
def fromDict (value : Value) : Except ContractError (BulkCheckpoint redaction) := do
  let data ← openEnvelope "bulk_checkpoint" "bulk_checkpoint"
    ["plan", "item_receipts", "cancellation_requested", "resumption_cursor"] value
  let itemReceipts ← requiredList "bulk_checkpoint" (fieldOf data "item_receipts")
  let cancellationRequested ←
    requiredBool "bulk_checkpoint" (fieldOf data "cancellation_requested")
  new (← BulkPlan.fromDict (fieldOf data "plan")) (← itemReceipts.mapM BulkItemReceipt.fromDict)
    cancellationRequested
    (← optionalText "bulk_checkpoint.resumption_cursor" (fieldOf data "resumption_cursor"))

/-- A checkpoint is read back from the envelope it is written to. -/
theorem fromDict_toDict (checkpoint : BulkCheckpoint redaction) :
    fromDict checkpoint.toDict = .ok checkpoint := by
  have hopen := openEnvelope_envelope "bulk_checkpoint" "bulk_checkpoint" checkpoint.fields
  simp only [fields, List.map_cons, List.map_nil] at hopen
  rw [fromDict, toDict, fields, hopen]
  simp only [bind, Except.bind, fieldOf, List.lookup_cons, Option.getD, String.reduceBEq,
    requiredList, requiredBool, BulkPlan.fromDict_toDict,
    mapM_map_ok BulkItemReceipt.fromDict_toDict, optionalText_ofOptional]
  rw [new, dif_pos checkpoint.indices_ok]

end BulkCheckpoint

end DataSluice.Domain
