/-
# JSON-like values and their frozen copies

A caller's value is copied by `_freeze_json` before a contract keeps it: mappings
become read-only proxies, sequences become tuples, and a value outside JSON is
refused with the path of the field it stands at. `_thaw_json` copies it back into
plain dictionaries and lists. Audit metadata is checked for credentials on the way
in.

The entries of a mapping are listed in insertion order. Its keys are distinct, so
a copy made entry by entry stores each entry once.
-/

import Mathlib.Data.List.Infix

namespace DataSluice.Domain

/-- A value that a schema-v1 contract refuses, with the path its error names. -/
structure ContractError where
  path : String
  deriving DecidableEq

/-- The text of the raised `DataSluiceError`. -/
def ContractError.message (error : ContractError) : String :=
  "Invalid schema-v1 catalog contract at " ++ error.path

/-- `_contract_error` raised at a path. -/
def contractError {α : Type} (path : String) : Except ContractError α := .error ⟨path⟩

/-- A binary64 value, by its bits. -/
structure PyFloat where
  bits : UInt64
  deriving DecidableEq

/-- `math.isfinite`: the exponent bits are not all set. -/
def PyFloat.isFinite (value : PyFloat) : Bool := (value.bits >>> 52) &&& 0x7FF != 0x7FF

/-- A key of a mapping: a string, or a hashable value of another type. -/
inductive Key
  | text (name : String)
  | other (identity : Nat)
  deriving DecidableEq

/-- A Python value as far as the contracts look at it. -/
inductive Value
  | none
  | bool (value : Bool)
  | int (value : Int)
  | float (value : PyFloat)
  | str (value : String)
  | list (items : List Value)
  | tuple (items : List Value)
  | /-- A `dict`. -/
    dict (entries : List (Key × Value))
  | /-- A mapping that is not a `dict`, such as a `MappingProxyType`. -/
    proxy (entries : List (Key × Value))
  | /-- An object of any other type. -/
    other

/-! ## Copies -/

mutual

/-- `_freeze_json` -/
def freezeJson (path : String) : Value → Except ContractError Value
  | .none => .ok .none
  | .bool value => .ok (.bool value)
  | .int value => .ok (.int value)
  | .float value => if value.isFinite then .ok (.float value) else contractError path
  | .str value => .ok (.str value)
  | .dict entries => (freezeJsonObject path entries).map .proxy
  | .proxy entries => (freezeJsonObject path entries).map .proxy
  | .list items => (freezeJsonItems path items).map .tuple
  | .tuple items => (freezeJsonItems path items).map .tuple
  | .other => contractError path

/-- The generator expression over a sequence. -/
def freezeJsonItems (path : String) : List Value → Except ContractError (List Value)
  | [] => .ok []
  | nested :: items =>
      match freezeJson path nested with
      | .error error => .error error
      | .ok frozen => (freezeJsonItems path items).map (frozen :: ·)

/-- `_freeze_json_object` -/
def freezeJsonObject (path : String) :
    List (Key × Value) → Except ContractError (List (Key × Value))
  | [] => .ok []
  | (.other _, _) :: _ => contractError path
  | (.text key, nested) :: entries =>
      match freezeJson (path ++ "." ++ key) nested with
      | .error error => .error error
      | .ok frozen => (freezeJsonObject path entries).map ((.text key, frozen) :: ·)

end

mutual

/-- `_thaw_json` -/
def thawJson : Value → Value
  | .none => .none
  | .bool value => .bool value
  | .int value => .int value
  | .float value => .float value
  | .str value => .str value
  | .dict entries => .dict (thawJsonEntries entries)
  | .proxy entries => .dict (thawJsonEntries entries)
  | .list items => .list items
  | .tuple items => .list (thawJsonItems items)
  | .other => .other

/-- The list comprehension over a tuple. -/
def thawJsonItems : List Value → List Value
  | [] => []
  | nested :: items => thawJson nested :: thawJsonItems items

/-- The dictionary comprehension over a mapping. -/
def thawJsonEntries : List (Key × Value) → List (Key × Value)
  | [] => []
  | (key, nested) :: entries => (key, thawJson nested) :: thawJsonEntries entries

end

/-- `object_dict`: a `dict` all of whose keys are strings. -/
def objectDict (path : String) : Value → Except ContractError (List (String × Value))
  | .dict entries => textEntries entries
  | _ => contractError path
where
  /-- The loop over the entries. -/
  textEntries : List (Key × Value) → Except ContractError (List (String × Value))
    | [] => .ok []
    | (.other _, _) :: _ => contractError path
    | (.text key, nested) :: entries => (textEntries entries).map ((key, nested) :: ·)

/-! ## Redaction -/

/-- The substrings of a normalized key that mark a credential or a raw body. -/
def sensitiveParts : List String :=
  ["authorization", "credential", "token", "secret", "password", "passwd", "pwd", "cookie",
    "api_key", "apikey", "private_key", "access_key", "consumer_key", "client_key", "signature",
    "body", "header"]

/-- `str.lower` on one character, as far as the result is ASCII: beside the capital
letters these are the Kelvin sign and the dotted capital I. Other characters stay
outside ASCII in lower case, and no sensitive part has one. -/
def lowerChar (character : Char) : List Char :=
  if character.val = 0x212A then ['k']
  else if character.val = 0x130 then ['i', Char.ofNat 0x307]
  else [character.toLower]

/-- `key.lower().replace("-", "_")` -/
def normalizeKey (key : String) : List Char :=
  (key.toList.flatMap lowerChar).map fun character => if character = '-' then '_' else character

/-- `is_sensitive_record_key` -/
def isSensitiveRecordKey (key : String) : Bool :=
  sensitiveParts.any fun part => decide (part.toList <:+: normalizeKey key)

/-- The two functions on text that the metadata check calls. What a receipt keeps is
decided by them, how it is copied is not, so they stay arbitrary here. -/
structure Redaction where
  /-- `contains_credential_content` -/
  containsCredentialContent : String → Bool
  /-- `redact_string` -/
  redactString : String → String

mutual

/-- `_validate_redacted_metadata` -/
def validateRedactedMetadata (redaction : Redaction) (path : String) :
    Value → Except ContractError Value
  | .str text =>
      if redaction.containsCredentialContent text && redaction.redactString text != text then
        contractError path
      else freezeJson path (.str text)
  | .dict entries =>
      match validateRedactedEntries redaction path entries with
      | .error error => .error error
      | .ok () => freezeJson path (.dict entries)
  | .proxy entries =>
      match validateRedactedEntries redaction path entries with
      | .error error => .error error
      | .ok () => freezeJson path (.proxy entries)
  | .list items =>
      match validateRedactedItems redaction path items with
      | .error error => .error error
      | .ok () => freezeJson path (.list items)
  | .tuple items =>
      match validateRedactedItems redaction path items with
      | .error error => .error error
      | .ok () => freezeJson path (.tuple items)
  | .none => freezeJson path .none
  | .bool value => freezeJson path (.bool value)
  | .int value => freezeJson path (.int value)
  | .float value => freezeJson path (.float value)
  | .other => freezeJson path .other

/-- The loop over a sequence. -/
def validateRedactedItems (redaction : Redaction) (path : String) :
    List Value → Except ContractError Unit
  | [] => .ok ()
  | nested :: items =>
      match validateRedactedMetadata redaction path nested with
      | .error error => .error error
      | .ok _ => validateRedactedItems redaction path items

/-- The loop over a mapping, with `_require_unaudited_key`. -/
def validateRedactedEntries (redaction : Redaction) (path : String) :
    List (Key × Value) → Except ContractError Unit
  | [] => .ok ()
  | (.other _, _) :: _ => contractError path
  | (.text key, nested) :: entries =>
      if isSensitiveRecordKey key then contractError path
      else
        match validateRedactedMetadata redaction (path ++ "." ++ key) nested with
        | .error error => .error error
        | .ok _ => validateRedactedEntries redaction path entries

end

/-! ## A frozen copy thaws and freezes to itself -/

theorem map_eq_ok {α β ε : Type} {result : Except ε α} {f : α → β} {value : β}
    (hmap : result.map f = .ok value) : ∃ raw, result = .ok raw ∧ value = f raw := by
  cases result with
  | error error => cases hmap
  | ok raw =>
      cases hmap
      exact ⟨raw, rfl, rfl⟩

mutual

theorem freezeJson_thawJson (path : String) (value : Value) {frozen : Value}
    (hfrozen : freezeJson path value = .ok frozen) :
    freezeJson path (thawJson frozen) = .ok frozen := by
  cases value with
  | none | bool _ | int _ | str _ =>
      cases hfrozen
      rfl
  | float value =>
      rw [freezeJson] at hfrozen
      split at hfrozen
      · cases hfrozen
        rw [thawJson, freezeJson, if_pos (by assumption)]
      · cases hfrozen
  | dict entries | proxy entries =>
      obtain ⟨copied, hcopied, rfl⟩ := map_eq_ok hfrozen
      rw [thawJson, freezeJson, freezeJsonObject_thawJson path entries hcopied]
      rfl
  | list items | tuple items =>
      obtain ⟨copied, hcopied, rfl⟩ := map_eq_ok hfrozen
      rw [thawJson, freezeJson, freezeJsonItems_thawJson path items hcopied]
      rfl
  | other => cases hfrozen

theorem freezeJsonItems_thawJson (path : String) (items : List Value) {frozen : List Value}
    (hfrozen : freezeJsonItems path items = .ok frozen) :
    freezeJsonItems path (thawJsonItems frozen) = .ok frozen := by
  cases items with
  | nil =>
      cases hfrozen
      rfl
  | cons nested items =>
      rw [freezeJsonItems] at hfrozen
      split at hfrozen
      · cases hfrozen
      · next head hhead =>
          obtain ⟨tail, htail, rfl⟩ := map_eq_ok hfrozen
          rw [thawJsonItems, freezeJsonItems, freezeJson_thawJson path nested hhead,
            freezeJsonItems_thawJson path items htail]
          rfl

theorem freezeJsonObject_thawJson (path : String) (entries : List (Key × Value))
    {frozen : List (Key × Value)} (hfrozen : freezeJsonObject path entries = .ok frozen) :
    freezeJsonObject path (thawJsonEntries frozen) = .ok frozen := by
  match entries with
  | [] =>
      cases hfrozen
      rfl
  | (.other _, _) :: _ => cases hfrozen
  | (.text key, nested) :: entries =>
      rw [freezeJsonObject] at hfrozen
      split at hfrozen
      · cases hfrozen
      · next head hhead =>
          obtain ⟨tail, htail, rfl⟩ := map_eq_ok hfrozen
          rw [thawJsonEntries, freezeJsonObject, freezeJson_thawJson _ nested hhead,
            freezeJsonObject_thawJson path entries htail]
          rfl

end

/-- What the metadata check returns is the frozen copy. -/
theorem freezeJson_of_validate {redaction : Redaction} {path : String} {value frozen : Value}
    (hvalid : validateRedactedMetadata redaction path value = .ok frozen) :
    freezeJson path value = .ok frozen := by
  cases value with
  | none | bool _ | int _ | float _ | other => exact hvalid
  | str text =>
      rw [validateRedactedMetadata] at hvalid
      split at hvalid
      · cases hvalid
      · exact hvalid
  | dict _ | proxy _ | list _ | tuple _ =>
      rw [validateRedactedMetadata] at hvalid
      split at hvalid
      · cases hvalid
      · exact hvalid

mutual

theorem validateRedactedMetadata_thawJson (redaction : Redaction) (path : String) (value : Value)
    {frozen : Value} (hvalid : validateRedactedMetadata redaction path value = .ok frozen) :
    validateRedactedMetadata redaction path (thawJson frozen) = .ok frozen := by
  have hfrozen := freezeJson_of_validate hvalid
  have hagain := freezeJson_thawJson path value hfrozen
  cases value with
  | other => cases hfrozen
  | none | bool _ | int _ =>
      cases hfrozen
      exact hagain
  | float value =>
      rw [freezeJson] at hfrozen
      split at hfrozen
      · cases hfrozen
        exact hagain
      · cases hfrozen
  | str text =>
      cases hfrozen
      exact hvalid
  | dict entries | proxy entries =>
      obtain ⟨copied, hcopied, rfl⟩ := map_eq_ok hfrozen
      rw [validateRedactedMetadata] at hvalid
      split at hvalid
      · cases hvalid
      · next hentries =>
          rw [thawJson] at hagain ⊢
          rw [validateRedactedMetadata,
            validateRedactedEntries_thawJson redaction path entries hentries hcopied]
          exact hagain
  | list items | tuple items =>
      obtain ⟨copied, hcopied, rfl⟩ := map_eq_ok hfrozen
      rw [validateRedactedMetadata] at hvalid
      split at hvalid
      · cases hvalid
      · next hitems =>
          rw [thawJson] at hagain ⊢
          rw [validateRedactedMetadata,
            validateRedactedItems_thawJson redaction path items hitems hcopied]
          exact hagain

theorem validateRedactedItems_thawJson (redaction : Redaction) (path : String)
    (items : List Value) {frozen : List Value}
    (hvalid : validateRedactedItems redaction path items = .ok ())
    (hfrozen : freezeJsonItems path items = .ok frozen) :
    validateRedactedItems redaction path (thawJsonItems frozen) = .ok () := by
  cases items with
  | nil =>
      cases hfrozen
      rfl
  | cons nested items =>
      rw [validateRedactedItems] at hvalid
      split at hvalid
      · cases hvalid
      · next head hhead =>
          rw [freezeJsonItems, freezeJson_of_validate hhead] at hfrozen
          obtain ⟨tail, htail, rfl⟩ := map_eq_ok hfrozen
          rw [thawJsonItems, validateRedactedItems,
            validateRedactedMetadata_thawJson redaction path nested hhead]
          exact validateRedactedItems_thawJson redaction path items hvalid htail

theorem validateRedactedEntries_thawJson (redaction : Redaction) (path : String)
    (entries : List (Key × Value)) {frozen : List (Key × Value)}
    (hvalid : validateRedactedEntries redaction path entries = .ok ())
    (hfrozen : freezeJsonObject path entries = .ok frozen) :
    validateRedactedEntries redaction path (thawJsonEntries frozen) = .ok () := by
  match entries with
  | [] =>
      cases hfrozen
      rfl
  | (.other _, _) :: _ => cases hfrozen
  | (.text key, nested) :: entries =>
      rw [validateRedactedEntries] at hvalid
      split at hvalid
      · cases hvalid
      · next hkey =>
          split at hvalid
          · cases hvalid
          · next head hhead =>
              rw [freezeJsonObject, freezeJson_of_validate hhead] at hfrozen
              obtain ⟨tail, htail, rfl⟩ := map_eq_ok hfrozen
              rw [thawJsonEntries, validateRedactedEntries, if_neg hkey,
                validateRedactedMetadata_thawJson redaction _ nested hhead]
              exact validateRedactedEntries_thawJson redaction path entries hvalid htail

end

/-- Copying a thawed mapping entry by entry changes nothing. -/
theorem objectDict_thawJson {path : String} {entries frozen : List (Key × Value)}
    (hfrozen : freezeJsonObject path entries = .ok frozen) (errorPath : String) :
    ∃ copied, objectDict errorPath (thawJson (.proxy frozen)) = .ok copied ∧
      copied.map (fun entry => (Key.text entry.1, entry.2)) = thawJsonEntries frozen := by
  rw [thawJson, objectDict]
  induction entries generalizing frozen with
  | nil =>
      cases hfrozen
      exact ⟨[], rfl, rfl⟩
  | cons entry entries ih =>
      obtain ⟨key | _, nested⟩ := entry
      · rw [freezeJsonObject] at hfrozen
        split at hfrozen
        · cases hfrozen
        · next head hhead =>
            obtain ⟨tail, htail, rfl⟩ := map_eq_ok hfrozen
            obtain ⟨copied, hcopied, hentries⟩ := ih htail
            refine ⟨(key, thawJson head) :: copied, ?_, ?_⟩
            · rw [thawJsonEntries, objectDict.textEntries, hcopied]
              rfl
            · rw [thawJsonEntries, List.map_cons, hentries]
      · cases hfrozen

end DataSluice.Domain
