/-
# The state of a resource

A `SyncState` says how far the sync of a resource has come: a completed artifact with its
watermark, or the checkpoint of a continuation. `sync.py` builds the two kinds and reads them
back; the file store checks every field before it writes a state, and again after it reads one.

The fields are whatever a caller passes, as `Value`s. The texts that the store compares with
patterns are read character by character.
-/

import DataSluice.Domain.Equality
import DataSluice.Sync.Materialize
import DataSluice.Sync.Transaction

namespace DataSluice.Sync.State

open DataSluice.Lib DataSluice.Lib.Url DataSluice.Domain DataSluice.Data
  DataSluice.Sync.Materialize

/-- `SyncState` -/
structure SyncState where
  cursor : Value
  partitions : Value
  lastSyncedAt : Value
  extra : Value

/-- What is raised about a state. -/
inductive StateError
  | /-- `StateStoreError` -/
    store (message : String)
  | /-- `DataSluiceError` of `_decode_checkpoint` -/
    checkpoint (message : String)
  | /-- The same, where the message ends in the `repr` of the version. -/
    unsupportedVersion (version : Value)
  | /-- `ValueError` of `urlsplit` -/
    value (error : ValueError)

/-- `value.get(name)` of a `dict` -/
def getField (entries : List (Key × Value)) (name : String) : Value :=
  (entries.lookup (.text name)).getD .none

/-- `name in entries` -/
def hasField (entries : List (Key × Value)) (name : String) : Bool :=
  (entries.lookup (.text name)).isSome

/-- `set(entries) <= names` -/
def fieldsWithin (names : List String) (entries : List (Key × Value)) : Bool :=
  entries.all fun entry =>
    match entry.1 with
    | .text name => names.contains name
    | .other _ => false

/-- `set(entries) == names` -/
def fieldsAre (names : List String) (entries : List (Key × Value)) : Bool :=
  fieldsWithin names entries && names.all (hasField entries)

theorem lookup_cons_text (key name : String) (value : Value) (entries : List (Key × Value)) :
    ((Key.text key, value) :: entries).lookup (.text name) =
      if name = key then some value else entries.lookup (.text name) := by
  by_cases hname : name = key
  · simp [hname]
  · have hkey : (Key.text name == Key.text key) = false := by simp [hname]
    rw [List.lookup_cons, hkey, if_neg hname]

@[simp]
theorem getField_cons (key name : String) (value : Value) (entries : List (Key × Value)) :
    getField ((.text key, value) :: entries) name =
      if name = key then value else getField entries name := by
  rw [getField, lookup_cons_text]
  split <;> rfl

@[simp]
theorem hasField_cons (key name : String) (value : Value) (entries : List (Key × Value)) :
    hasField ((.text key, value) :: entries) name =
      if name = key then true else hasField entries name := by
  rw [hasField, lookup_cons_text]
  split <;> rfl

@[simp]
theorem getField_nil (name : String) : getField [] name = .none := rfl

@[simp]
theorem hasField_nil (name : String) : hasField [] name = false := rfl

/-- `value == number` -/
def isNumber (number : Int) (value : Value) : Bool := wholeNumber value == some number

/-! ## Watermarks -/

section Watermarks

variable (stdlib : Stdlib)

/-- `_MAX_WATERMARK_LENGTH` -/
def maxWatermarkLength : Nat := 256

/-- `_MAX_TIMESTAMP_LENGTH` -/
def maxTimestampLength : Nat := 128

/-- A character of the class in `_ETAG_PATTERN`. -/
def isEtagChar (character : Char) : Bool :=
  character == '!' || ('#' ≤ character && character ≤ '~') ||
    (0x80 ≤ character.val && character.val ≤ 0xFF)

/-- The quoted part of `_ETAG_PATTERN`, up to the end of the text. -/
def isQuotedEtag : List Char → Bool
  | '"' :: rest => rest.getLast? == some '"' && rest.dropLast.all isEtagChar
  | _ => false

/-- `_ETAG_PATTERN.fullmatch` -/
def isEtag : List Char → Bool
  | 'W' :: '/' :: rest => isQuotedEtag rest
  | text => isQuotedEtag text

/-- `_SECRET_SUBSTRINGS` -/
def secretSubstrings : List String :=
  ["signature", "credential", "password", "token", "secret", "bearer", "apikey", "api_key",
    "authorization"]

/-- `_contains_secret_material` -/
def containsSecretMaterial (watermark : List Char) : Bool :=
  let lowered := stdlib.unicode.lower watermark
  ("://" :: "@" :: "?=" :: secretSubstrings).any
      (fun substring => decide (substring.toList <:+: lowered)) ||
    watermark.any fun character => decide (character.val < 0x20)

/-- `_is_completed_watermark` -/
def isCompletedWatermark (watermark : String) : Bool :=
  if watermark = "" ∨ maxWatermarkLength < watermark.length then false
  else if isSha256 watermark then true
  else if isEtag watermark.toList then !containsSecretMaterial stdlib watermark.toList
  else
    match stdlib.parsedateToDatetime watermark.toList with
    | none => false
    | some parsed => parsed.offset.isSome

end Watermarks

/-! ## `_validate_state_for_write` -/

section Validation

variable (stdlib : Stdlib)

/-- An error of the store at a field of the state. -/
def storeError {α : Type} (field : String) : Except StateError α :=
  .error (.store ("Invalid durable SyncState at state." ++ field))

/-- `_validate_cursor` -/
def validateCursor (key : String) : Value → Except StateError Unit
  | .dict [] => .ok ()
  | .dict [(.text cursorKey, .str watermark)] =>
      if cursorKey ≠ key ∨ isCompletedWatermark stdlib watermark = false then storeError "cursor"
      else .ok ()
  | _ => storeError "cursor"

/-- `_validate_last_synced_at` -/
def validateLastSyncedAt : Value → Except StateError Unit
  | .none => .ok ()
  | .str value =>
      if value = "" ∨ maxTimestampLength < value.length then storeError "last_synced_at"
      else
        match stdlib.fromisoformat value.toList with
        | none => storeError "last_synced_at"
        | some parsed => if parsed.offset.isSome then .ok () else storeError "last_synced_at"
  | _ => storeError "last_synced_at"

/-- `_is_source_version` -/
def isSourceVersion : Value → Bool
  | .none => true
  | .str version => isSha256 version
  | _ => false

/-- `type(value) is int and value >= 0` -/
def isIndex : Value → Bool
  | .int value => decide (0 ≤ value)
  | _ => false

/-- `is_sha256` of any value -/
def isSha256Value : Value → Bool
  | .str value => isSha256 value
  | _ => false

def checkpointKeys : List String :=
  ["version", "status", "next_batch_index", "position", "source_version", "destination_identity"]

/-- `_CHECKPOINT_POSITION_KEYS` -/
def checkpointPositionKeys : List String := ["kind", "row_group_index"]

/-- `_validate_checkpoint_v3` -/
def validateCheckpointV3 (checkpoint : List (Key × Value)) : Except StateError Unit :=
  if fieldsAre checkpointKeys checkpoint = false then storeError "extra.datasluice_checkpoint"
  else
    match getField checkpoint "position" with
    | .dict position =>
        if fieldsAre checkpointPositionKeys position = false then
          storeError "extra.datasluice_checkpoint.position"
        else if isIndex (getField checkpoint "next_batch_index") &&
            isIndex (getField position "row_group_index") &&
            (getField position "kind").isText "parquet_row_group" &&
            (getField checkpoint "status").isText "in_progress" &&
            isSourceVersion (getField checkpoint "source_version") &&
            isSha256Value (getField checkpoint "destination_identity") then .ok ()
        else storeError "extra.datasluice_checkpoint"
    | _ => storeError "extra.datasluice_checkpoint.position"

/-- `_validate_completed_artifact` -/
def validateCompletedArtifact (artifact : Value) : Except StateError Unit :=
  match Domain.Artifact.fromDict stdlib artifact with
  | .ok _ => .ok ()
  | .error _ => storeError "extra.datasluice_completed_artifact"

/-- `_validate_extra` -/
def validateExtra : Value → Except StateError Unit
  | .dict [] => .ok ()
  | .dict extra =>
      if hasField extra "datasluice_completed_artifact" &&
          fieldsWithin ["datasluice_completed_artifact", "datasluice_source_version"] extra then do
        validateCompletedArtifact stdlib (getField extra "datasluice_completed_artifact")
        if isSourceVersion (getField extra "datasluice_source_version") then .ok ()
        else storeError "extra.datasluice_source_version"
      else if fieldsAre ["datasluice_checkpoint"] extra = false then storeError "extra"
      else
        match getField extra "datasluice_checkpoint" with
        | .dict checkpoint =>
            if isNumber 3 (getField checkpoint "version") then validateCheckpointV3 checkpoint
            else storeError "extra.datasluice_checkpoint.version"
        | _ => storeError "extra.datasluice_checkpoint"
  | _ => storeError "extra"

/-- `_validate_state_for_write` -/
def validateStateForWrite (key : String) (state : SyncState) : Except StateError Unit := do
  validateCursor stdlib key state.cursor
  match state.partitions with
  | .dict [] => .ok ()
  | _ => storeError "partitions"
  validateLastSyncedAt stdlib state.lastSyncedAt
  validateExtra stdlib state.extra

end Validation

/-! ## States of completed artifacts -/

section Completed

variable (stdlib : Stdlib)

/-- `_completed_sync_state`, at the time of `_utcnow_iso`; nothing where the artifact has no
envelope. -/
def completedSyncState (stateKey watermark : String) (record : Domain.Artifact stdlib.unicode)
    (sourceVersion : Option String) (now : DateTime) : Option SyncState := do
  let envelope ← record.toDict
  let version := sourceVersion.map fun version =>
    (Key.text "datasluice_source_version", Value.str version)
  return {
    cursor := .dict [(.text stateKey, .str watermark)]
    partitions := .dict []
    lastSyncedAt := .str (String.ofList now.isoformat)
    extra := .dict ((.text "datasluice_completed_artifact", envelope) :: version.toList) }

/-- `_completed_artifact_record` -/
def completedArtifactRecord (state : Option SyncState) : Option (Domain.Artifact stdlib.unicode) :=
  match state.map SyncState.extra with
  | some (.dict extra) =>
      match getField extra "datasluice_completed_artifact" with
      | .dict artifact => (Domain.Artifact.fromDict stdlib (.dict artifact)).toOption
      | _ => none
  | _ => none

end Completed

/-! ## Checkpoints -/

/-- `_Checkpoint` -/
structure Checkpoint where
  nextBatchIndex : Int
  rowGroupIndex : Int
  sourceVersion : Option String
  destinationIdentity : String
  deriving DecidableEq

section Checkpoints

variable {Schema Batch : Type} (tools : Tools Schema Batch)

/-- The scope that `canonical_destination_identity` hashes. -/
def destinationScope (destinationUri : String) : Except ValueError Text :=
  match urlsplit tools.stdlib.unicode destinationUri.toList with
  | .error error => .error error
  | .ok parts =>
      let authority :=
        match parts.hostname tools.stdlib.unicode with
        | none => tools.stdlib.unicode.lower (rpartition '@' parts.netloc).2.2
        | some host =>
            match parts.port with
            | .ok (some port) => tools.stdlib.unicode.lower host ++ ':' :: (Nat.repr port).toList
            | _ => tools.stdlib.unicode.lower host
      let path := (baseUri (String.ofList parts.path)).toList
      let bare := (partition '#' (partition '?' destinationUri.toList).1).1
      .ok (if parts.scheme ≠ [] then
          tools.stdlib.unicode.lower parts.scheme ++ "://".toList ++ authority ++ path
        else if path ≠ [] then path
        else (baseUri (String.ofList bare)).toList)

/-- `canonical_destination_identity` -/
def canonicalDestinationIdentity (destinationUri : String) : Except ValueError String :=
  (destinationScope tools destinationUri).map fun scope =>
    tools.sha256 (String.ofList scope).toUTF8.toList

/-- `_in_progress_state`, for a cursor in a Parquet file. -/
def inProgressState (cursor : BatchCursor) (sourceVersion : Option String)
    (destinationUri : String) : Except ValueError SyncState :=
  (canonicalDestinationIdentity tools destinationUri).map fun identity =>
    { cursor := .dict []
      partitions := .dict []
      lastSyncedAt := .none
      extra := record
        [("datasluice_checkpoint", record
          [("version", .int 3), ("status", .str "in_progress"),
            ("next_batch_index", .int cursor.nextBatchIndex),
            ("position", record
              [("kind", .str "parquet_row_group"), ("row_group_index", .int cursor.rowGroupIndex)]),
            ("source_version", ofOptional sourceVersion),
            ("destination_identity", .str identity)])] }

/-- `_decode_checkpoint_v3` -/
def decodeCheckpointV3 (checkpoint : List (Key × Value)) : Except StateError Checkpoint :=
  let invalid := StateError.checkpoint "Corrupt datasluice checkpoint v3: invalid field values"
  if fieldsAre checkpointKeys checkpoint = false then
    .error (.checkpoint "Corrupt datasluice checkpoint v3: unexpected keys")
  else
    match getField checkpoint "position" with
    | .dict position =>
        if (getField checkpoint "status").isText "in_progress" &&
            fieldsAre checkpointPositionKeys position &&
            (getField position "kind").isText "parquet_row_group" then
          match getField checkpoint "next_batch_index", getField position "row_group_index",
              optionalText "" (getField checkpoint "source_version"),
              getField checkpoint "destination_identity" with
          | .int nextBatchIndex, .int rowGroupIndex, .ok sourceVersion, .str identity =>
              if 0 ≤ nextBatchIndex ∧ 0 ≤ rowGroupIndex ∧ sourceVersion.all isSha256 ∧
                  isSha256 identity then
                .ok ⟨nextBatchIndex, rowGroupIndex, sourceVersion, identity⟩
              else .error invalid
          | _, _, _, _ => .error invalid
        else .error invalid
    | _ => .error invalid

/-- `_decode_checkpoint`, of a state whose `extra` is a `dict`. -/
def decodeCheckpoint (state : SyncState) : Except StateError (Option Checkpoint) :=
  match state.extra with
  | .dict extra =>
      if hasField extra "datasluice_checkpoint" then
        match getField extra "datasluice_checkpoint" with
        | .dict checkpoint =>
            if isNumber 3 (getField checkpoint "version") then
              (decodeCheckpointV3 checkpoint).map some
            else .error (.unsupportedVersion (getField checkpoint "version"))
        | _ => .error (.checkpoint "Corrupt datasluice checkpoint: expected dict")
      else .ok none
  | _ => .ok none

end Checkpoints

end DataSluice.Sync.State
