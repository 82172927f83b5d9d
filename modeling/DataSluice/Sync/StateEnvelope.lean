/-
# The envelope of a stored state

A `SyncState` is stored as a JSON document with sorted keys, its cursor without the key that
the state is stored under. What is read back is checked again, with the checks of a write.

A state made of JSON values comes back with the entries of its `extra` sorted, which neither
the checks nor a comparison see. An artifact's record may also hold tuples and read-only
mappings: the one comes back as a list, the other is not written at all.
-/

import DataSluice.Data.JsonRows
import DataSluice.Domain.JsonDocument
import DataSluice.Sync.Watermark

namespace DataSluice.Sync.State

open DataSluice.Lib DataSluice.Lib.Url DataSluice.Domain DataSluice.Data
  DataSluice.Sync.Materialize

/-! ## Encoding -/

/-- `_COMPLETED_WATERMARK_SCHEMA` -/
def completedWatermarkSchema : String := "datasluice_completed_watermark_v1"

/-- `_COMPLETED_WATERMARK_KEYS` -/
def completedWatermarkKeys : List String := ["schema", "watermark"]

/-- The `cursor` that `_encode_state` writes for one that is a `dict`. -/
def encodeCursor : Value → Value
  | .dict ((_, watermark) :: _) =>
      record [("schema", .str completedWatermarkSchema), ("watermark", watermark)]
  | _ => record []

/-- `_encode_state` -/
def encodeState (state : SyncState) : Value :=
  record
    [("cursor", encodeCursor state.cursor), ("partitions", record []),
      ("last_synced_at", state.lastSyncedAt), ("extra", state.extra)]

/-- `_serialize_state`; nothing where `json.dumps` raises. -/
def serializeState (codec : JsonCodec) (state : SyncState) : Option (List UInt8) :=
  dumps codec (record [("schema_version", .int 1), ("state", encodeState state)])

/-! ## Decoding -/

/-- `value.get(name, {})` of a `dict` -/
def getFieldOrEmpty (entries : List (Key × Value)) (name : String) : Value :=
  (entries.lookup (.text name)).getD (.dict [])

/-- `_mapping_field` -/
def mappingField (state : List (Key × Value)) (field : String) : Except StateError Value :=
  match getFieldOrEmpty state field with
  | .dict entries => .ok (.dict entries)
  | _ => .error (.store ("Corrupt state envelope at state." ++ field))

/-- `_decode_completed_cursor` -/
def decodeCompletedCursor (key : String) (cursor : Value) : Except StateError Value :=
  let corrupt := StateError.store "Corrupt state envelope at state.cursor"
  if pyEq cursor (.dict []) then .ok (.dict [])
  else
    match cursor with
    | .dict entries =>
        if fieldsAre completedWatermarkKeys entries = false then .error corrupt
        else if (getField entries "schema").isText completedWatermarkSchema = false then
          .error corrupt
        else
          match getField entries "watermark" with
          | .str watermark => .ok (.dict [(.text key, .str watermark)])
          | _ => .error corrupt
    | _ => .error corrupt

section Decoding

variable (codec : JsonCodec) (stdlib : Stdlib)

/-- The state in an envelope whose `state` is a `dict`. -/
def decodeState (key : String) (state : List (Key × Value)) : Except StateError SyncState := do
  let cursor ← decodeCompletedCursor key (getFieldOrEmpty state "cursor")
  let partitions ← mappingField state "partitions"
  let extra ← mappingField state "extra"
  let decoded := ⟨cursor, partitions, getField state "last_synced_at", extra⟩
  validateStateForWrite stdlib key decoded
  return decoded

/-- `_decode_envelope` -/
def decodeEnvelope (key : String) (raw : List UInt8) : Except StateError SyncState :=
  let unsupported :=
    StateError.store "Unsupported state envelope schema_version; expected 1"
  match loads codec raw with
  | none => .error (.store "Corrupt state envelope: invalid JSON")
  | some (.dict envelope) =>
      if isNumber 1 (getField envelope "schema_version") = false then .error unsupported
      else
        match getField envelope "state" with
        | .dict state =>
            if fieldsAre ["schema_version", "state"] envelope = false then
              .error (.store "Corrupt state envelope at top level")
            else decodeState stdlib key state
        | _ => .error (.store "Corrupt state envelope at state")
  | some _ => .error unsupported

end Decoding

/-- `==` of two states -/
def SyncState.equals (state other : SyncState) : Bool :=
  pyEq state.cursor other.cursor && pyEq state.partitions other.partitions &&
    pyEq state.lastSyncedAt other.lastSyncedAt && pyEq state.extra other.extra

/-- A state is written, and an equal one is read under the key. -/
def ReadsBack (codec : JsonCodec) (stdlib : Stdlib) (key : String) (state : SyncState) : Prop :=
  ∃ raw decoded, serializeState codec state = some raw ∧
    decodeEnvelope codec stdlib key raw = .ok decoded ∧ state.equals decoded = true

/-! ## Entries in another order -/

section Order

variable {fields : List (String × Value)}

theorem getField_asMapping (fields : List (String × Value)) (name : String) :
    getField (asMapping fields) name = fieldOf fields name := by
  rw [getField, lookup_asMapping, fieldOf]

theorem fieldsAre_asMapping (names : List String) (fields : List (String × Value)) :
    fieldsAre names (asMapping fields) = hasKeys names fields := by
  have hwithin : fieldsWithin names (asMapping fields) = decide (fields.map Prod.fst ⊆ names) := by
    rw [Bool.eq_iff_iff]
    simp [fieldsWithin, asMapping, List.subset_def]
  have hall : names.all (hasField (asMapping fields)) =
      decide (names ⊆ fields.map Prod.fst) := by
    rw [Bool.eq_iff_iff, List.all_eq_true, decide_eq_true_eq, List.subset_def]
    apply forall₂_congr
    intro name _
    simp [hasField, lookup_asMapping]
  rw [fieldsAre, hwithin, hall, hasKeys]

theorem hasField_sorted (hfields : JsonFields fields) (name : String) :
    hasField (asMapping (sortedFields fields)) name = hasField (asMapping fields) name := by
  rw [hasField, hasField, lookup_asMapping, lookup_asMapping, lookup_sortedFields hfields.1,
    Option.isSome_map]

theorem fieldsAre_sorted (names : List String) :
    fieldsAre names (asMapping (sortedFields fields)) = fieldsAre names (asMapping fields) := by
  rw [fieldsAre_asMapping, hasKeys_sortedFields, fieldsAre_asMapping]

theorem fieldsWithin_sorted (names : List String) :
    fieldsWithin names (asMapping (sortedFields fields)) =
      fieldsWithin names (asMapping fields) := by
  have hmem : ∀ field, field ∈ (sortedFields fields).map Prod.fst ↔ field ∈ fields.map Prod.fst :=
    fun field => (keys_perm_sortedFields fields).mem_iff
  rw [Bool.eq_iff_iff]
  simpa [fieldsWithin, asMapping] using forall_congr' fun field => imp_congr_left (hmem field)

theorem getField_sorted (hfields : JsonFields fields) (name : String) :
    getField (asMapping (sortedFields fields)) name =
      sorted (getField (asMapping fields) name) := by
  rw [getField_asMapping, fieldOf_sortedFields hfields, getField_asMapping]

theorem getFieldOrEmpty_sorted (hfields : JsonFields fields) (name : String) :
    getFieldOrEmpty (asMapping (sortedFields fields)) name =
      sorted (getFieldOrEmpty (asMapping fields) name) := by
  rw [getFieldOrEmpty, getFieldOrEmpty, lookup_asMapping, lookup_asMapping,
    lookup_sortedFields hfields.1]
  cases fields.lookup name <;> rfl

end Order

theorem isSourceVersion_sorted (value : Value) :
    isSourceVersion (sorted value) = isSourceVersion value := by
  cases value <;> rfl

theorem isNumber_sorted (number : Int) (value : Value) :
    isNumber number (sorted value) = isNumber number value := by
  cases value <;> rfl

theorem isIndex_sorted (value : Value) : isIndex (sorted value) = isIndex value := by
  cases value <;> rfl

theorem isSha256Value_sorted (value : Value) :
    isSha256Value (sorted value) = isSha256Value value := by
  cases value <;> rfl

/-! ## What is accepted in another order -/

section Accepted

variable {stdlib : Stdlib}

theorem validateCheckpointV3_sorted {checkpoint : List (String × Value)}
    (hcheckpoint : JsonFields checkpoint)
    (hvalid : validateCheckpointV3 (asMapping checkpoint) = .ok ()) :
    validateCheckpointV3 (asMapping (sortedFields checkpoint)) = .ok () := by
  rw [validateCheckpointV3, fieldsAre_sorted]
  rw [validateCheckpointV3] at hvalid
  split at hvalid
  · cases hvalid
  next hkeys =>
    rw [if_neg hkeys, getField_sorted hcheckpoint]
    split at hvalid
    next position hposition =>
      have hjson := hcheckpoint.fieldOf "position"
      rw [← getField_asMapping, hposition] at hjson
      cases hjson with
      | dict fields hnodup hfields =>
          have hsorted : JsonFields fields := ⟨hnodup, hfields⟩
          rw [hposition, sorted_dict]
          simp only [fieldsAre_sorted, getField_sorted hsorted, getField_sorted hcheckpoint,
            isIndex_sorted, isText_sorted, isSourceVersion_sorted, isSha256Value_sorted]
          exact hvalid
    · cases hvalid

theorem validateCompletedArtifact_sorted {artifact : Value} (hartifact : IsJson artifact)
    (hvalid : validateCompletedArtifact stdlib artifact = .ok ()) :
    validateCompletedArtifact stdlib (sorted artifact) = .ok () := by
  rw [validateCompletedArtifact] at hvalid ⊢
  split at hvalid
  next record hrecord =>
    obtain ⟨same, hsame⟩ := Artifact.fromDict_sorted stdlib hartifact hrecord
    rw [hsame]
  · cases hvalid

/-- `_validate_extra`, of a `dict` that is not empty. -/
theorem validateExtra_of_ne {extra : List (Key × Value)} (hextra : extra ≠ []) :
    validateExtra stdlib (.dict extra) =
      if hasField extra "datasluice_completed_artifact" &&
          fieldsWithin ["datasluice_completed_artifact", "datasluice_source_version"] extra then do
        validateCompletedArtifact stdlib (getField extra "datasluice_completed_artifact")
        if isSourceVersion (getField extra "datasluice_source_version") then .ok ()
        else storeError "extra.datasluice_source_version"
      else if fieldsAre ["datasluice_checkpoint"] extra = false then storeError "extra"
      else
        match getField extra "datasluice_checkpoint" with
        | .dict checkpoint =>
            if isNumber 3 (getField checkpoint "version") then validateCheckpointV3 checkpoint
            else storeError "extra.datasluice_checkpoint.version"
        | _ => storeError "extra.datasluice_checkpoint" := by
  cases extra with
  | nil => exact absurd rfl hextra
  | cons => rfl

/-- An `extra` that is accepted is accepted with its entries sorted. -/
theorem validateExtra_sorted {extra : Value} (hextra : IsJson extra)
    (hvalid : validateExtra stdlib extra = .ok ()) :
    validateExtra stdlib (sorted extra) = .ok () := by
  cases hextra with
  | dict fields hnodup hjson =>
      have hfields : JsonFields fields := ⟨hnodup, hjson⟩
      by_cases hempty : fields = []
      · rw [hempty]
        rfl
      · have hgiven : asMapping fields ≠ [] := by simpa [asMapping] using hempty
        have hlength := (keys_perm_sortedFields fields).length_eq
        have hsorted : asMapping (sortedFields fields) ≠ [] := by
          intro hnil
          rw [asMapping, List.map_eq_nil_iff] at hnil
          rw [hnil, List.map_nil, List.length_nil, List.length_map] at hlength
          exact hempty (List.eq_nil_of_length_eq_zero hlength.symm)
        rw [validateExtra_of_ne hgiven] at hvalid
        rw [sorted_dict, validateExtra_of_ne hsorted, hasField_sorted hfields,
          fieldsWithin_sorted, fieldsAre_sorted, getField_sorted hfields, getField_sorted hfields,
          getField_sorted hfields, isSourceVersion_sorted]
        split at hvalid
        next hcompleted =>
          rw [if_pos hcompleted]
          have hartifact := hfields.fieldOf "datasluice_completed_artifact"
          rw [← getField_asMapping] at hartifact
          cases hrecord : validateCompletedArtifact stdlib
              (getField (asMapping fields) "datasluice_completed_artifact") with
          | error error =>
              rw [hrecord] at hvalid
              cases hvalid
          | ok =>
              rw [validateCompletedArtifact_sorted hartifact hrecord]
              rw [hrecord] at hvalid
              exact hvalid
        next hcompleted =>
          rw [if_neg hcompleted]
          split at hvalid
          · cases hvalid
          next hkeys =>
            rw [if_neg hkeys]
            split at hvalid
            next checkpoint hcheckpoint =>
              have hfield := hfields.fieldOf "datasluice_checkpoint"
              rw [← getField_asMapping, hcheckpoint] at hfield
              cases hfield with
              | dict others hdistinct hothers =>
                  have hjsonFields : JsonFields others := ⟨hdistinct, hothers⟩
                  rw [hcheckpoint, sorted_dict]
                  simp only [getField_sorted hjsonFields, isNumber_sorted]
                  split at hvalid
                  next hversion =>
                    rw [if_pos hversion]
                    exact validateCheckpointV3_sorted hjsonFields hvalid
                  · cases hvalid
            · cases hvalid
  | _ => cases hvalid

end Accepted

/-! ## The round trip -/

section RoundTrip

variable (codec : JsonCodec) {stdlib : Stdlib}

theorem validateStateForWrite_eq_ok_iff {key : String} {state : SyncState} :
    validateStateForWrite stdlib key state = .ok () ↔
      validateCursor stdlib key state.cursor = .ok () ∧ state.partitions = .dict [] ∧
        validateLastSyncedAt stdlib state.lastSyncedAt = .ok () ∧
        validateExtra stdlib state.extra = .ok () := by
  rw [validateStateForWrite]
  cases validateCursor stdlib key state.cursor with
  | error error => simp [bind, Except.bind]
  | ok =>
      cases hpartitions : state.partitions with
      | dict entries =>
          cases entries with
          | nil =>
              cases validateLastSyncedAt stdlib state.lastSyncedAt <;> simp [bind, Except.bind]
          | cons => simp [bind, Except.bind, storeError]
      | _ => simp [bind, Except.bind, storeError]

theorem cursor_of_validateCursor {key : String} {cursor : Value}
    (hvalid : validateCursor stdlib key cursor = .ok ()) :
    cursor = .dict [] ∨ ∃ watermark, cursor = .dict [(.text key, .str watermark)] := by
  unfold validateCursor at hvalid
  split at hvalid
  · exact .inl rfl
  next cursorKey watermark =>
    split at hvalid
    · cases hvalid
    next hkey =>
      obtain ⟨hsame, -⟩ := not_or.mp hkey
      rw [not_not.mp hsame]
      exact .inr ⟨watermark, rfl⟩
  · cases hvalid

theorem lastSyncedAt_of_validate {value : Value}
    (hvalid : validateLastSyncedAt stdlib value = .ok ()) :
    IsJson value ∧ sorted value = value := by
  cases value with
  | none => exact ⟨.none, rfl⟩
  | str text => exact ⟨.str text, rfl⟩
  | _ => cases hvalid

theorem isJson_nil : IsJson (.dict []) := .dict [] List.nodup_nil (by simp)

theorem isJson_record_iff {fields : List (String × Value)} :
    IsJson (record fields) ↔ JsonFields fields := isJson_dict_iff

/-- A cursor is written without its key, and read for the key it was written for. -/
theorem decodeCompletedCursor_encodeCursor {key : String} {cursor : Value}
    (hvalid : validateCursor stdlib key cursor = .ok ()) :
    IsJson (encodeCursor cursor) ∧
      decodeCompletedCursor key (sorted (encodeCursor cursor)) = .ok cursor := by
  obtain rfl | ⟨watermark, rfl⟩ := cursor_of_validateCursor hvalid
  · exact ⟨isJson_nil, rfl⟩
  · have hjson : JsonFields
        [("schema", .str completedWatermarkSchema), ("watermark", .str watermark)] := by
      simp [JsonFields, IsJson.str]
    apply And.intro (isJson_dict_iff.mpr hjson)
    rw [encodeCursor, record]
    change decodeCompletedCursor key (sorted (.dict (asMapping _))) = _
    rw [sorted_dict, decodeCompletedCursor]
    have hne : pyEq (.dict (asMapping (sortedFields
        [("schema", .str completedWatermarkSchema), ("watermark", .str watermark)])))
        (.dict []) = false := by
      have hlength := (keys_perm_sortedFields
        [("schema", .str completedWatermarkSchema), ("watermark", .str watermark)]).length_eq
      rw [List.length_map] at hlength
      simp [pyEq, asMapping, hlength]
    simp only [hne, fieldsAre_sorted, getField_sorted hjson, isText_sorted]
    simp [fieldsAre_asMapping, getField_asMapping, hasKeys, completedWatermarkKeys, fieldOf,
      List.lookup_cons, Value.isText, sorted]

theorem sorted_record (fields : List (String × Value)) :
    sorted (record fields) = .dict (asMapping (sortedFields fields)) := sorted_dict fields

/-- The `state` of an envelope, with its entries sorted. -/
theorem decodeState_encodeState {key : String} {state : SyncState}
    (hvalid : validateStateForWrite stdlib key state = .ok ()) (hextra : IsJson state.extra) :
    ∃ fields, JsonFields fields ∧ encodeState state = record fields ∧
      decodeState stdlib key (asMapping (sortedFields fields)) =
        .ok { state with extra := sorted state.extra } := by
  obtain ⟨hcursor, hpartitions, hsynced, haccepted⟩ := validateStateForWrite_eq_ok_iff.mp hvalid
  obtain ⟨hcursorJson, hdecoded⟩ := decodeCompletedCursor_encodeCursor hcursor
  obtain ⟨hsyncedJson, hsyncedSorted⟩ := lastSyncedAt_of_validate hsynced
  have hstate : JsonFields
      [("cursor", encodeCursor state.cursor), ("partitions", record []),
        ("last_synced_at", state.lastSyncedAt), ("extra", state.extra)] := by
    simp [JsonFields, hcursorJson, isJson_record_iff, hsyncedJson, hextra]
  have hdict : ∃ entries, sorted state.extra = .dict entries := by
    generalize state.extra = extra at hextra haccepted
    cases hextra with
    | dict fields => exact ⟨_, sorted_dict fields⟩
    | _ => cases haccepted
  obtain ⟨entries, hentries⟩ := hdict
  have hwritten : validateStateForWrite stdlib key
      ⟨state.cursor, .dict [], state.lastSyncedAt, .dict entries⟩ = .ok () := by
    rw [← hentries]
    exact validateStateForWrite_eq_ok_iff.mpr
      ⟨hcursor, rfl, hsynced, validateExtra_sorted hextra haccepted⟩
  have hnone : sorted (record []) = .dict [] := rfl
  refine ⟨_, hstate, rfl, ?_⟩
  simp only [decodeState, mappingField, getFieldOrEmpty_sorted hstate, getField_sorted hstate]
  simp only [getFieldOrEmpty, getField, lookup_asMapping]
  simp [List.lookup_cons, hdecoded, hsyncedSorted, hentries, hnone, hwritten, hpartitions, bind,
    Except.bind, pure, Except.pure]

/-- A state made of JSON values is written, and comes back with its `extra` sorted. -/
theorem exists_serializeState {key : String} {state : SyncState}
    (hvalid : validateStateForWrite stdlib key state = .ok ()) (hextra : IsJson state.extra) :
    ∃ raw, serializeState codec state = some raw ∧
      decodeEnvelope codec stdlib key raw = .ok { state with extra := sorted state.extra } := by
  obtain ⟨fields, hstate, hencoded, hdecoded⟩ := decodeState_encodeState hvalid hextra
  have henvelope : JsonFields [("schema_version", .int 1), ("state", record fields)] := by
    simp [JsonFields, IsJson.int, isJson_record_iff.mpr hstate]
  obtain ⟨raw, hraw, hloads⟩ := loads_dumps codec (isJson_dict_iff.mpr henvelope)
  apply Exists.intro raw
  constructor
  · rw [serializeState, hencoded]
    exact hraw
  · rw [sorted_dict] at hloads
    rw [decodeEnvelope, hloads]
    simp only [getField_sorted henvelope, fieldsAre_sorted, isNumber_sorted]
    simp [getField_asMapping, fieldsAre_asMapping, hasKeys, fieldOf, List.lookup_cons, isNumber,
      wholeNumber, sorted_record, hdecoded]

/-- No comparison tells the state that comes back. -/
theorem equals_sorted {key : String} {state : SyncState}
    (hvalid : validateStateForWrite stdlib key state = .ok ()) (hextra : IsJson state.extra) :
    state.equals { state with extra := sorted state.extra } = true := by
  obtain ⟨hcursor, hpartitions, hsynced, -⟩ := validateStateForWrite_eq_ok_iff.mp hvalid
  have hcursors : pyEq state.cursor state.cursor = true := by
    obtain hnone | ⟨watermark, hone⟩ := cursor_of_validateCursor hcursor
    · rw [hnone]
      rfl
    · rw [hone]
      simp [pyEq, pyEqEntries]
  have hsyncs : pyEq state.lastSyncedAt state.lastSyncedAt = true := by
    obtain ⟨hjson, hsame⟩ := lastSyncedAt_of_validate hsynced
    have hequal := pyEq_sorted hjson
    rwa [hsame] at hequal
  rw [SyncState.equals, hcursors, hpartitions, hsyncs, pyEq_sorted hextra]
  rfl

/-- Every state that is read is one that the store would write. -/
theorem validate_of_decodeEnvelope {key : String} {raw : List UInt8} {state : SyncState}
    (hdecoded : decodeEnvelope codec stdlib key raw = .ok state) :
    validateStateForWrite stdlib key state = .ok () := by
  have hchecked : ∀ entries, decodeState stdlib key entries = .ok state →
      validateStateForWrite stdlib key state = .ok () := by
    intro entries hstate
    simp only [decodeState, bind, Except.bind, pure, Except.pure] at hstate
    split at hstate
    · cases hstate
    split at hstate
    · cases hstate
    split at hstate
    · cases hstate
    split at hstate
    · cases hstate
    next haccepted =>
      cases hstate
      exact haccepted
  unfold decodeEnvelope at hdecoded
  split at hdecoded
  · cases hdecoded
  · split at hdecoded
    · cases hdecoded
    · split at hdecoded
      · split at hdecoded
        · cases hdecoded
        · exact hchecked _ hdecoded
      · cases hdecoded
  · cases hdecoded

/-! ## Checkpoints -/

/-- A checkpoint reads the same with its entries sorted. -/
theorem decodeCheckpointV3_sorted {checkpoint : List (String × Value)}
    (hcheckpoint : JsonFields checkpoint) {decoded : Checkpoint}
    (hdecoded : decodeCheckpointV3 (asMapping checkpoint) = .ok decoded) :
    decodeCheckpointV3 (asMapping (sortedFields checkpoint)) = .ok decoded := by
  unfold decodeCheckpointV3 at hdecoded ⊢
  rw [fieldsAre_sorted]
  split at hdecoded
  · cases hdecoded
  next hkeys =>
    rw [if_neg hkeys, getField_sorted hcheckpoint]
    split at hdecoded
    next position hposition =>
      have hjson := hcheckpoint.fieldOf "position"
      rw [← getField_asMapping, hposition] at hjson
      cases hjson with
      | dict fields hnodup hfields =>
          have hsorted : JsonFields fields := ⟨hnodup, hfields⟩
          rw [hposition, sorted_dict]
          simp only [fieldsAre_sorted, getField_sorted hsorted, getField_sorted hcheckpoint,
            isText_sorted]
          split at hdecoded
          next hshape =>
            rw [if_pos hshape]
            split at hdecoded
            next hnext hgroup hversion hidentity =>
              rw [optionalText_sorted, hnext, hgroup, hversion, hidentity]
              exact hdecoded
            · cases hdecoded
          · cases hdecoded
    · cases hdecoded

/-- The checkpoint in the state of a cursor: the store takes it, and it reads as the cursor. -/
theorem inProgressState_checkpoint {Schema Batch : Type} (tools : Tools Schema Batch)
    (cursor : BatchCursor) {sourceVersion : Option String}
    (hversion : sourceVersion.all isSha256 = true) {destinationUri identity : String}
    (hidentity : canonicalDestinationIdentity tools destinationUri = .ok identity) :
    ∃ checkpoint, JsonFields checkpoint ∧
      inProgressState tools cursor sourceVersion destinationUri =
        .ok ⟨.dict [], .dict [], .none, record [("datasluice_checkpoint", record checkpoint)]⟩ ∧
      isNumber 3 (getField (asMapping checkpoint) "version") = true ∧
      validateCheckpointV3 (asMapping checkpoint) = .ok () ∧
      decodeCheckpointV3 (asMapping checkpoint) =
        .ok ⟨cursor.nextBatchIndex, cursor.rowGroupIndex, sourceVersion, identity⟩ := by
  have hsha : isSha256 identity = true := by
    unfold canonicalDestinationIdentity at hidentity
    obtain ⟨scope, -, rfl⟩ := map_eq_ok hidentity
    exact isSha256_of_lower (tools.sha256_valid _)
  have hposition : IsJson (record
      [("kind", .str "parquet_row_group"), ("row_group_index", .int cursor.rowGroupIndex)]) := by
    simp [isJson_record_iff, JsonFields, IsJson.str, IsJson.int]
  have hsource : IsJson (ofOptional sourceVersion) := by
    cases sourceVersion with
    | none => exact .none
    | some version => exact .str version
  have hchecked : isSourceVersion (ofOptional sourceVersion) = true := by
    cases sourceVersion with
    | none => rfl
    | some version => exact hversion
  refine ⟨_, ?_, by rw [inProgressState, hidentity]; rfl, rfl, ?_, ?_⟩
  · simp [JsonFields, IsJson.int, IsJson.str, hposition, hsource]
  · simp [validateCheckpointV3, fieldsAre, fieldsWithin, asMapping, record, checkpointKeys,
      checkpointPositionKeys, Value.isText, isIndex, isSha256Value, hsha, hchecked]
  · simp [decodeCheckpointV3, fieldsAre, fieldsWithin, asMapping, record, checkpointKeys,
      checkpointPositionKeys, Value.isText, optionalText_ofOptional, hversion, hsha]

theorem validateExtra_checkpoint {checkpoint : List (String × Value)}
    (hnumber : isNumber 3 (getField (asMapping checkpoint) "version") = true)
    (haccepted : validateCheckpointV3 (asMapping checkpoint) = .ok ()) :
    validateExtra stdlib (record [("datasluice_checkpoint", record checkpoint)]) = .ok () := by
  have hextra : record [("datasluice_checkpoint", record checkpoint)] =
      .dict [(.text "datasluice_checkpoint", .dict (asMapping checkpoint))] := rfl
  rw [hextra, validateExtra_of_ne (List.cons_ne_nil _ _)]
  simp [fieldsAre, fieldsWithin, hnumber, haccepted]

/-- The checkpoint of a state is found with the entries of `extra` sorted. -/
theorem decodeCheckpoint_sorted {checkpoint : List (String × Value)}
    (hcheckpoint : JsonFields checkpoint)
    (hnumber : isNumber 3 (getField (asMapping checkpoint) "version") = true) {found : Checkpoint}
    (hfound : decodeCheckpointV3 (asMapping checkpoint) = .ok found) (state : SyncState) :
    decodeCheckpoint
        { state with extra := sorted (record [("datasluice_checkpoint", record checkpoint)]) } =
      .ok (some found) := by
  have hextra : sorted (record [("datasluice_checkpoint", record checkpoint)]) =
      .dict [(.text "datasluice_checkpoint", .dict (asMapping (sortedFields checkpoint)))] := by
    rw [sorted_record, ← sorted_record checkpoint]
    rfl
  have hsorted : isNumber 3 (getField (asMapping (sortedFields checkpoint)) "version") = true := by
    rw [getField_sorted hcheckpoint, isNumber_sorted, hnumber]
  simp [decodeCheckpoint, hextra, hsorted, decodeCheckpointV3_sorted hcheckpoint hfound,
    Except.map]

/-- The state of a checkpoint is stored under any key, and what is read back is that
checkpoint. -/
theorem exists_inProgressState {Schema Batch : Type} (tools : Tools Schema Batch) (key : String)
    (cursor : BatchCursor) {sourceVersion : Option String}
    (hversion : sourceVersion.all isSha256 = true) {destinationUri : String} {state : SyncState}
    (hstate : inProgressState tools cursor sourceVersion destinationUri = .ok state) :
    ∃ raw decoded identity, serializeState codec state = some raw ∧
      decodeEnvelope codec tools.stdlib key raw = .ok decoded ∧ state.equals decoded = true ∧
      canonicalDestinationIdentity tools destinationUri = .ok identity ∧
      decodeCheckpoint decoded =
        .ok (some ⟨cursor.nextBatchIndex, cursor.rowGroupIndex, sourceVersion, identity⟩) := by
  cases hidentity : canonicalDestinationIdentity tools destinationUri with
  | error error =>
      rw [inProgressState, hidentity] at hstate
      cases hstate
  | ok identity =>
      obtain ⟨checkpoint, hfields, hbuilt, hnumber, haccepted, hdecoded⟩ :=
        inProgressState_checkpoint tools cursor hversion hidentity
      cases hbuilt.symm.trans hstate
      have hextra : JsonFields [("datasluice_checkpoint", record checkpoint)] := by
        simp [JsonFields, isJson_record_iff.mpr hfields]
      have hvalid : validateStateForWrite tools.stdlib key
          ⟨.dict [], .dict [], .none, record [("datasluice_checkpoint", record checkpoint)]⟩ =
          .ok () :=
        validateStateForWrite_eq_ok_iff.mpr
          ⟨rfl, rfl, rfl, validateExtra_checkpoint hnumber haccepted⟩
      obtain ⟨raw, hraw, hread⟩ := exists_serializeState codec hvalid (isJson_dict_iff.mpr hextra)
      exact ⟨raw, _, identity, hraw, hread, equals_sorted hvalid (isJson_dict_iff.mpr hextra),
        rfl, decodeCheckpoint_sorted hfields hnumber hdecoded _⟩

/-- An accepted state made of JSON values reads back, what is read is accepted, and the state of
a checkpoint reads back as that checkpoint. -/
theorem durable_state_round_trip {Schema Batch : Type} (tools : Tools Schema Batch)
    (key : String) :
    (∀ state, validateStateForWrite tools.stdlib key state = .ok () → IsJson state.extra →
      ReadsBack codec tools.stdlib key state) ∧
    (∀ raw decoded, decodeEnvelope codec tools.stdlib key raw = .ok decoded →
      validateStateForWrite tools.stdlib key decoded = .ok ()) ∧
    ∀ (cursor : BatchCursor) (sourceVersion : Option String) (destinationUri : String) state,
      sourceVersion.all isSha256 = true →
      inProgressState tools cursor sourceVersion destinationUri = .ok state →
      ∃ raw decoded identity, serializeState codec state = some raw ∧
        decodeEnvelope codec tools.stdlib key raw = .ok decoded ∧ state.equals decoded = true ∧
        canonicalDestinationIdentity tools destinationUri = .ok identity ∧
        decodeCheckpoint decoded =
          .ok (some ⟨cursor.nextBatchIndex, cursor.rowGroupIndex, sourceVersion, identity⟩) := by
  refine ⟨?_, ?_, ?_⟩
  · intro state hvalid hextra
    obtain ⟨raw, hraw, hread⟩ := exists_serializeState codec hvalid hextra
    exact ⟨raw, _, hraw, hread, equals_sorted hvalid hextra⟩
  · intro raw decoded hdecoded
    exact validate_of_decodeEnvelope codec hdecoded
  · intro cursor sourceVersion destinationUri state hversion hstate
    exact exists_inProgressState codec tools key cursor hversion hstate

end RoundTrip

/-! ## Small states -/

/-- A state with a watermark only. -/
def watermarkState : SyncState :=
  ⟨.dict [(.text "r",
      .str "11507a0e2f5e69d5dfa40a62a1bd7b6ee57e6bcd85c67c9b8431b36fff21c437")],
    .dict [], .none, .dict []⟩

/-- It reads back, and so does a checkpoint in front of a third row group. -/
theorem small_states_read_back :
    ReadsBack JsonRows.plainFormats.codec memoryTools.stdlib "r" watermarkState ∧
      ∃ raw decoded identity,
        decodeEnvelope JsonRows.plainFormats.codec memoryTools.stdlib "r" raw = .ok decoded ∧
          decodeCheckpoint decoded = .ok (some ⟨1, 2, none, identity⟩) := by
  obtain ⟨hcompleted, hchecked, hprogress⟩ :=
    durable_state_round_trip JsonRows.plainFormats.codec memoryTools "r"
  constructor
  · exact hcompleted watermarkState
      (validateStateForWrite_eq_ok_iff.mpr
        ⟨(validateCursor_eq_ok_iff _ _).mpr (by decide), rfl, rfl, rfl⟩) isJson_nil
  · obtain ⟨raw, decoded, identity, -, hread, -, -, hfound⟩ :=
      hprogress ⟨1, 2⟩ none "memory:///out" _ rfl rfl
    exact ⟨raw, decoded, identity, hread, hfound⟩

/-- A digest. -/
def smallDigest : Value :=
  record [("algorithm", .str "sha256"),
    ("value", .str "11507a0e2f5e69d5dfa40a62a1bd7b6ee57e6bcd85c67c9b8431b36fff21c437")]

/-- The record of an artifact whose metadata has one entry. -/
def artifactWith (parts : Value) : Value :=
  record
    [("schema_version", .int 1), ("kind", .str "artifact"), ("uri", .str "file:///out/r.csv"),
      ("media_type", .str "text/csv"), ("size", .int 3), ("content_digest", smallDigest),
      ("blob_digest", smallDigest),
      ("provenance", record
        [("source_locator", record
          [("schema_version", .int 1), ("kind", .str "direct"), ("uri", .str "file:///data/r.csv"),
            ("format", .none), ("media_type", .none), ("extensions", record [])]),
          ("resource_identity",
            .str "11507a0e2f5e69d5dfa40a62a1bd7b6ee57e6bcd85c67c9b8431b36fff21c437"),
          ("created_at", .str "2024-01-01T00:00:00Z"), ("materialization_mode", .str "raw"),
          ("transforms", .list [])]),
      ("metadata", record [("parts", parts)]), ("extensions", record [])]

/-- The state of that artifact. -/
def stateWith (parts : Value) : SyncState :=
  ⟨.dict [], .dict [], .none, record [("datasluice_completed_artifact", artifactWith parts)]⟩

/-- A tuple in the metadata is accepted, and comes back as a list. -/
theorem tuple_comes_back_as_list :
    ¬ ∀ (codec : JsonCodec) (stdlib : Stdlib) (key : String) (state : SyncState),
      validateStateForWrite stdlib key state = .ok () → ReadsBack codec stdlib key state := by
  intro hevery
  have haccepted : ∀ parts, parts = .tuple [] ∨ parts = .list [] →
      validateStateForWrite memoryTools.stdlib "r" (stateWith parts) = .ok () := by
    intro parts hparts
    have hrecord : (Domain.Artifact.fromDict memoryTools.stdlib (artifactWith parts)).isOk =
        true := by
      obtain rfl | rfl := hparts <;> decide +kernel
    have hartifact : validateCompletedArtifact memoryTools.stdlib (artifactWith parts) =
        .ok () := by
      rw [validateCompletedArtifact]
      split
      · rfl
      next error herror =>
        rw [herror] at hrecord
        cases hrecord
    exact validateStateForWrite_eq_ok_iff.mpr
      ⟨rfl, rfl, rfl, (validateExtra_completed (artifactWith parts) none).trans hartifact⟩
  obtain ⟨raw, decoded, hraw, hread, hequals⟩ := hevery JsonRows.plainFormats.codec
    memoryTools.stdlib "r" (stateWith (.tuple [])) (haccepted _ (.inl rfl))
  have hjson : IsJson (stateWith (.list [])).extra := by
    have hlist : IsJson (.list []) := .list [] (by simp)
    simp [stateWith, artifactWith, smallDigest, isJson_record_iff, JsonFields, IsJson.none,
      IsJson.int, IsJson.str, hlist]
  obtain ⟨listed, hlisted, hback⟩ :=
    exists_serializeState JsonRows.plainFormats.codec (haccepted _ (.inr rfl)) hjson
  have hsame : serializeState JsonRows.plainFormats.codec (stateWith (.tuple [])) =
      serializeState JsonRows.plainFormats.codec (stateWith (.list [])) := rfl
  rw [hsame, hlisted] at hraw
  cases hraw
  rw [hback] at hread
  cases hread
  revert hequals
  decide +kernel

end DataSluice.Sync.State
