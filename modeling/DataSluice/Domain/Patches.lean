/-
# Create and patch requests

A patch says of each of its fields that it is left out, set to null, or replaced. The three
are kept apart in the envelope of a patch, while what is sent over the wire has no trace of a
field that is left out. A create request has no such fields.

A mapping has each of its keys once, and so have the fields of a request.
-/

import DataSluice.Domain.Receipts
import DataSluice.Lib.Dict

namespace DataSluice.Domain

open DataSluice.Lib

/-- `UNSET`, or a value. -/
inductive FieldValue
  | unset
  | value (content : Value)

/-- The fields that a caller names: a mapping. -/
structure GivenFields where
  entries : List (Key × FieldValue)
  distinct : (entries.map Prod.fst).Nodup

/-- One field of `_freeze_fields`. -/
def freezeField (allowUnset : Bool) (name : String) : FieldValue → Except ContractError FieldValue
  | .unset => if allowUnset = true then .ok .unset else contractError "create_request.fields"
  | .value content => (freezeJson ("request.fields." ++ name) content).map .value

/-- `_freeze_fields`: the loop over the entries. -/
def freezeFields (allowUnset : Bool) :
    List (Key × FieldValue) → Except ContractError (List (String × FieldValue))
  | [] => .ok []
  | (.other _, _) :: _ => contractError "request.fields"
  | (.text name, field) :: entries =>
      if name = "" then contractError "request.fields"
      else
        match freezeField allowUnset name field with
        | .error error => .error error
        | .ok kept => (freezeFields allowUnset entries).map ((name, kept) :: ·)

/-- A field with its value thawed. -/
def FieldValue.thawed : FieldValue → FieldValue
  | .unset => .unset
  | .value content => .value (thawJson content)

/-- Fields as they could have been given. -/
def givenEntries (fields : List (String × FieldValue)) : List (Key × FieldValue) :=
  fields.map fun field => (.text field.1, field.2.thawed)

/-- What is sent of the fields: those that have a value. -/
def wireEntries (fields : List (String × FieldValue)) : List (String × Value) :=
  fields.filterMap fun field =>
    match field.2 with
    | .unset => none
    | .value content => some (field.1, thawJson content)

/-- What `_freeze_fields` returns for a mapping. -/
structure RequestFields (allowUnset : Bool) where
  fields : List (String × FieldValue)
  distinct : (fields.map Prod.fst).Nodup
  frozen : ∃ given, freezeFields allowUnset given = .ok fields

/-! ## Frozen fields -/

section Freezing

variable {allowUnset : Bool} {given : List (Key × FieldValue)}
  {fields : List (String × FieldValue)}

/-- The fields of a mapping are frozen one by one, under names that are not empty. -/
theorem freezeFields_cons {key : Key} {field : FieldValue}
    (hfields : freezeFields allowUnset ((key, field) :: given) = .ok fields) :
    ∃ name kept rest, key = .text name ∧ name ≠ "" ∧
      freezeField allowUnset name field = .ok kept ∧ freezeFields allowUnset given = .ok rest ∧
      fields = (name, kept) :: rest := by
  cases key with
  | other identity => cases hfields
  | text name =>
      rw [freezeFields] at hfields
      split at hfields
      · cases hfields
      next hname =>
        split at hfields
        · cases hfields
        next kept hkept =>
          obtain ⟨rest, hrest, rfl⟩ := map_eq_ok hfields
          exact ⟨name, kept, rest, rfl, hname, hkept, hrest, rfl⟩

theorem freezeField_thawed {name : String} {field kept : FieldValue}
    (hkept : freezeField allowUnset name field = .ok kept) :
    freezeField allowUnset name kept.thawed = .ok kept := by
  cases field with
  | unset =>
      have hkeep := hkept
      rw [freezeField] at hkeep
      split at hkeep
      · cases hkeep
        exact hkept
      · cases hkeep
  | value content =>
      obtain ⟨frozen, hfrozen, rfl⟩ := map_eq_ok hkept
      rw [FieldValue.thawed, freezeField, freezeJson_thawJson _ content hfrozen]
      rfl

/-- The names are those that were given, in their order. -/
theorem names_freezeFields (hfields : freezeFields allowUnset given = .ok fields) :
    given.map Prod.fst = (fields.map Prod.fst).map .text := by
  induction given generalizing fields with
  | nil =>
      cases hfields
      rfl
  | cons entry given ih =>
      obtain ⟨name, kept, rest, hkey, -, -, hrest, rfl⟩ := freezeFields_cons hfields
      rw [List.map_cons, ih hrest, hkey]
      rfl

/-- Frozen fields thaw and freeze to themselves. -/
theorem freezeFields_givenEntries (hfields : freezeFields allowUnset given = .ok fields) :
    freezeFields allowUnset (givenEntries fields) = .ok fields := by
  induction given generalizing fields with
  | nil =>
      cases hfields
      rfl
  | cons entry given ih =>
      obtain ⟨name, kept, rest, -, hname, hkept, hrest, rfl⟩ := freezeFields_cons hfields
      rw [givenEntries, List.map_cons, freezeFields, if_neg hname, freezeField_thawed hkept]
      exact congrArg (Except.map _) (ih hrest)

/-- No name is empty. -/
theorem name_ne_of_freezeFields (hfields : freezeFields allowUnset given = .ok fields) :
    ∀ field ∈ fields, field.1 ≠ "" := by
  induction given generalizing fields with
  | nil =>
      cases hfields
      exact fun field hfield => absurd hfield List.not_mem_nil
  | cons entry given ih =>
      obtain ⟨name, kept, rest, -, hname, -, hrest, rfl⟩ := freezeFields_cons hfields
      intro field hfield
      rcases List.mem_cons.mp hfield with rfl | hlater
      · exact hname
      · exact ih hrest field hlater

/-- Fields are left out of a patch only. -/
theorem value_of_freezeFields (hfields : freezeFields false given = .ok fields) :
    ∀ field ∈ fields, field.2 ≠ .unset := by
  induction given generalizing fields with
  | nil =>
      cases hfields
      exact fun field hfield => absurd hfield List.not_mem_nil
  | cons entry given ih =>
      obtain ⟨name, kept, rest, -, -, hkept, hrest, rfl⟩ := freezeFields_cons hfields
      intro field hfield
      rcases List.mem_cons.mp hfield with rfl | hlater
      · rintro rfl
        cases hvalue : entry.2 with
        | unset =>
            rw [hvalue] at hkept
            cases hkept
        | value content =>
            rw [hvalue] at hkept
            obtain ⟨frozen, -, hunset⟩ := map_eq_ok hkept
            cases hunset
      · exact ih hrest field hlater

end Freezing

namespace RequestFields

variable {allowUnset : Bool}

/-- The constructor of both requests. -/
def new (allowUnset : Bool) (given : GivenFields) : Except ContractError (RequestFields allowUnset) :=
  match hfields : freezeFields allowUnset given.entries with
  | .error error => .error error
  | .ok fields =>
      .ok
        { fields
          distinct := by
            have hnames := given.distinct
            rw [names_freezeFields hfields] at hnames
            exact hnames.of_map _
          frozen := ⟨_, hfields⟩ }

/-- `to_wire` -/
def toWire (request : RequestFields allowUnset) : List (String × Value) :=
  wireEntries request.fields

/-- What a request holds builds it again. -/
theorem new_eq (request : RequestFields allowUnset) {given : GivenFields}
    (hgiven : given.entries = givenEntries request.fields) :
    new allowUnset given = .ok request := by
  obtain ⟨earlier, hearlier⟩ := request.frozen
  have hfrozen := freezeFields_givenEntries hearlier
  rw [← hgiven] at hfrozen
  unfold new
  split
  · next error herror =>
      rw [hfrozen] at herror
      cases herror
  · next fields hfields =>
      rw [hfrozen] at hfields
      cases hfields
      rfl

/-- What is sent are the fields with a value, null included. -/
theorem mem_toWire (request : RequestFields allowUnset) (name : String) (value : Value) :
    (name, value) ∈ request.toWire ↔
      ∃ content, (name, .value content) ∈ request.fields ∧ value = thawJson content := by
  unfold toWire wireEntries
  rw [List.mem_filterMap]
  constructor
  · rintro ⟨⟨other, kept⟩, hfield, hwire⟩
    cases kept with
    | unset => cases hwire
    | value content =>
        cases hwire
        exact ⟨content, hfield, rfl⟩
  · rintro ⟨content, hfield, rfl⟩
    exact ⟨_, hfield, rfl⟩

end RequestFields

/-! ## Create requests -/

/-- `CreateRequest` -/
abbrev CreateRequest : Type := RequestFields false

namespace CreateRequest

/-- `to_dict` -/
def toDict (request : CreateRequest) : Value :=
  envelope "create_request" [("fields", record request.toWire)]

/-- The entries of a dictionary, each key once. -/
def ofDict (data : List (String × Value)) : GivenFields where
  entries := (setAll data []).map fun entry => (.text entry.1, .value entry.2)
  distinct := by
    have hnames : ((setAll data []).map fun entry =>
        (Key.text entry.1, FieldValue.value entry.2)).map Prod.fst =
          ((setAll data []).map Prod.fst).map .text := by
      rw [List.map_map, List.map_map]
      rfl
    have hnodup : ((setAll data []).map Prod.fst).Nodup := by
      apply nodup_keys_setAll
      exact List.nodup_nil
    rw [hnames]
    exact hnodup.map fun _ _ => Key.text.inj

/-- `from_dict` -/
def fromDict (value : Value) : Except ContractError CreateRequest := do
  let data ← openEnvelope "create_request" "create_request" ["fields"] value
  RequestFields.new false (ofDict (← objectDict "create_request.fields" (fieldOf data "fields")))

/-- The wire of fields that all have a value has all of them. -/
theorem wireEntries_eq {fields : List (String × FieldValue)}
    (hvalue : ∀ field ∈ fields, field.2 ≠ .unset) :
    ((wireEntries fields).map fun entry => (Key.text entry.1, FieldValue.value entry.2)) =
      givenEntries fields := by
  induction fields with
  | nil => rfl
  | cons field fields ih =>
      obtain ⟨name, kept⟩ := field
      cases kept with
      | unset => exact absurd rfl (hvalue _ List.mem_cons_self)
      | value content =>
          exact congrArg (List.cons _) (ih fun field hfield =>
            hvalue field (List.mem_cons_of_mem _ hfield))

theorem fromDict_toDict (request : CreateRequest) : fromDict request.toDict = .ok request := by
  have hopen := openEnvelope_envelope "create_request" "create_request"
    [("fields", record request.toWire)]
  obtain ⟨given, hfrozen⟩ := request.frozen
  have hwire : _ = givenEntries request.fields := wireEntries_eq (value_of_freezeFields hfrozen)
  have hnames : (request.toWire.map Prod.fst).Nodup := by
    have hkeys := congrArg (List.map Prod.fst) hwire
    rw [givenEntries, List.map_map, List.map_map] at hkeys
    have hdistinct := request.distinct.map fun _ _ => Key.text.inj
    rw [List.map_map] at hdistinct
    apply List.Nodup.of_map Key.text
    rw [List.map_map]
    exact hkeys ▸ hdistinct
  have hgiven : (ofDict request.toWire).entries = givenEntries request.fields := by
    rw [← hwire]
    exact congrArg (List.map _) (setAll_of_nodup hnames)
  rw [List.map_cons, List.map_nil] at hopen
  rw [fromDict, toDict, hopen]
  simp only [bind, Except.bind, fieldOf, List.lookup_cons, Option.getD, String.reduceBEq,
    objectDict_record]
  exact request.new_eq hgiven

end CreateRequest

/-! ## Patch requests -/

/-- `PatchRequest` -/
abbrev PatchRequest : Type := RequestFields true

namespace PatchRequest

/-- `_PATCH_REQUEST_FIELDS_PATH` -/
def fieldsPath : String := "patch_request.fields"

/-- One field of the envelope. -/
def writeField (field : String × FieldValue) : Value :=
  match field.2 with
  | .unset => record [("name", .str field.1), ("state", .str "unset")]
  | .value content =>
      record [("name", .str field.1), ("state", .str "value"), ("value", thawJson content)]

/-- `to_dict` -/
def toDict (request : PatchRequest) : Value :=
  envelope "patch_request" [("fields", .list (request.fields.map writeField))]

/-- `set(data) == keys` -/
def HasKeys (data : List (String × Value)) (keys : List String) : Prop :=
  data.map Prod.fst ⊆ keys ∧ keys ⊆ data.map Prod.fst

instance (data : List (String × Value)) (keys : List String) : Decidable (HasKeys data keys) :=
  inferInstanceAs (Decidable (_ ∧ _))

/-- One field that is read back. -/
def readField (index : Nat) (item : Value) : Except ContractError (String × FieldValue) :=
  match objectDict ("patch_request.fields." ++ toString index) item with
  | .error error => .error error
  | .ok data =>
      match data.lookup "name", data.lookup "state" with
      | some (.str name), some (.str state) =>
          if name = "" then contractError fieldsPath
          else if state = "unset" ∧ HasKeys data ["name", "state"] then .ok (name, .unset)
          else if state = "value" ∧ HasKeys data ["name", "state", "value"] then
            .ok (name, .value (fieldOf data "value"))
          else contractError fieldsPath
      | _, _ => contractError fieldsPath

/-- One more field. -/
def push (fields : GivenFields) (name : String) (field : FieldValue)
    (hname : Key.text name ∉ fields.entries.map Prod.fst) : GivenFields where
  entries := fields.entries ++ [(.text name, field)]
  distinct := by
    rw [List.map_append]
    exact List.nodup_append_comm.mp (List.nodup_cons.mpr ⟨hname, fields.distinct⟩)

/-- The loop of `from_dict`. -/
def readFields (index : Nat) (fields : GivenFields) : List Value → Except ContractError GivenFields
  | [] => .ok fields
  | item :: items =>
      match readField index item with
      | .error error => .error error
      | .ok (name, field) =>
          if hname : Key.text name ∈ fields.entries.map Prod.fst then contractError fieldsPath
          else readFields (index + 1) (push fields name field hname) items

/-- No fields. -/
def noFields : GivenFields where
  entries := []
  distinct := List.nodup_nil

/-- `from_dict` -/
def fromDict (value : Value) : Except ContractError PatchRequest := do
  let data ← openEnvelope "patch_request" "patch_request" ["fields"] value
  match fieldOf data "fields" with
  | .list items => RequestFields.new true (← readFields 0 noFields items)
  | _ => contractError fieldsPath

/-- A field that was written is read back, thawed. -/
theorem readField_writeField (index : Nat) {field : String × FieldValue} (hname : field.1 ≠ "") :
    readField index (writeField field) = .ok (field.1, field.2.thawed) := by
  obtain ⟨name, kept⟩ := field
  cases kept with
  | unset =>
      rw [readField, writeField, objectDict_record]
      have hne : name ≠ "" := hname
      simp [List.lookup_cons, HasKeys, FieldValue.thawed, hne]
  | value content =>
      rw [readField, writeField, objectDict_record]
      have hne : name ≠ "" := hname
      simp [List.lookup_cons, HasKeys, FieldValue.thawed, fieldOf, hne]

/-- Fields that were written are read back, thawed. -/
theorem readFields_writeField (fields : List (String × FieldValue)) (index : Nat)
    (start : GivenFields) (hname : ∀ field ∈ fields, field.1 ≠ "")
    (hdistinct : ((start.entries ++ givenEntries fields).map Prod.fst).Nodup) :
    ∃ given, readFields index start (fields.map writeField) = .ok given ∧
      given.entries = start.entries ++ givenEntries fields := by
  induction fields generalizing index start with
  | nil => exact ⟨start, rfl, (List.append_nil _).symm⟩
  | cons field fields ih =>
      have hnew : Key.text field.1 ∉ start.entries.map Prod.fst := by
        intro hold
        rw [List.map_append, List.nodup_append] at hdistinct
        exact hdistinct.2.2 _ hold _ List.mem_cons_self rfl
      have hassoc : (push start field.1 field.2.thawed hnew).entries ++ givenEntries fields =
          start.entries ++ givenEntries (field :: fields) := List.append_assoc _ _ _
      rw [List.map_cons, readFields, readField_writeField index (hname _ List.mem_cons_self)]
      simp only
      rw [dif_neg hnew]
      rw [← hassoc] at hdistinct ⊢
      exact ih _ _ (fun other hother => hname other (List.mem_cons_of_mem _ hother)) hdistinct

theorem fromDict_toDict (request : PatchRequest) : fromDict request.toDict = .ok request := by
  have hopen := openEnvelope_envelope "patch_request" "patch_request"
    [("fields", .list (request.fields.map writeField))]
  obtain ⟨earlier, hfrozen⟩ := request.frozen
  obtain ⟨given, hgiven, hentries⟩ := readFields_writeField request.fields 0 noFields
    (name_ne_of_freezeFields hfrozen) (by
      rw [noFields, List.nil_append, givenEntries, List.map_map]
      have hdistinct := request.distinct.map fun _ _ => Key.text.inj
      rw [List.map_map] at hdistinct
      exact hdistinct)
  rw [List.map_cons, List.map_nil] at hopen
  rw [fromDict, toDict, hopen]
  simp only [bind, Except.bind, fieldOf, List.lookup_cons, Option.getD, String.reduceBEq, hgiven]
  exact request.new_eq hentries

end PatchRequest

/-! ## Both requests -/

/-- The fields of a create request are those of a patch that leaves nothing out. -/
theorem freezeFields_false_iff {given : List (Key × FieldValue)}
    {fields : List (String × FieldValue)} :
    freezeFields false given = .ok fields ↔
      freezeFields true given = .ok fields ∧ ∀ field ∈ fields, field.2 ≠ .unset := by
  constructor
  · intro hfields
    refine ⟨?_, value_of_freezeFields hfields⟩
    induction given generalizing fields with
    | nil => exact hfields
    | cons entry given ih =>
        obtain ⟨name, kept, rest, hkey, hname, hkept, hrest, rfl⟩ := freezeFields_cons hfields
        obtain ⟨key, field⟩ := entry
        obtain rfl : key = .text name := hkey
        rw [freezeFields, if_neg hname]
        cases field with
        | unset => cases hkept
        | value content =>
            rw [show freezeField true name (.value content) = .ok kept from hkept]
            simp only [ih hrest, Except.map]
  · rintro ⟨hfields, hvalue⟩
    induction given generalizing fields with
    | nil => exact hfields
    | cons entry given ih =>
        obtain ⟨name, kept, rest, hkey, hname, hkept, hrest, rfl⟩ := freezeFields_cons hfields
        obtain ⟨key, field⟩ := entry
        obtain rfl : key = .text name := hkey
        rw [freezeFields, if_neg hname]
        cases field with
        | unset =>
            cases hkept
            exact absurd rfl (hvalue _ List.mem_cons_self)
        | value content =>
            rw [show freezeField false name (.value content) = .ok kept from hkept]
            simp only [ih hrest fun other hother => hvalue other (List.mem_cons_of_mem _ hother),
              Except.map]

theorem fields_new {allowUnset : Bool} {given : GivenFields} {request : RequestFields allowUnset} :
    RequestFields.new allowUnset given = .ok request ↔
      freezeFields allowUnset given.entries = .ok request.fields := by
  unfold RequestFields.new
  constructor
  · intro hnew
    split at hnew
    · cases hnew
    · next fields hfields =>
        cases hnew
        exact hfields
  · intro hfields
    split
    · next error herror =>
        rw [herror] at hfields
        cases hfields
    · next fields hsame =>
        rw [hsame] at hfields
        cases hfields
        rfl

/-- Requests keep what their caller meant: an envelope that a request writes is read back as
the same request, with each field left out, null or replaced as before; a create request is a
patch that leaves nothing out; and both send the fields that have a value, null included, and no
other. -/
theorem requests_keep_intent :
    (∀ request : PatchRequest, PatchRequest.fromDict request.toDict = .ok request) ∧
      (∀ request : CreateRequest, CreateRequest.fromDict request.toDict = .ok request) ∧
      (∀ (given : GivenFields) (create : CreateRequest),
        RequestFields.new false given = .ok create ↔
          ∃ patch : PatchRequest, RequestFields.new true given = .ok patch ∧
            patch.fields = create.fields ∧ ∀ field ∈ patch.fields, field.2 ≠ .unset) ∧
      ∀ (allowUnset : Bool) (request : RequestFields allowUnset) (name : String) (value : Value),
        (name, value) ∈ request.toWire ↔
          ∃ content, (name, .value content) ∈ request.fields ∧ value = thawJson content := by
  refine ⟨PatchRequest.fromDict_toDict, CreateRequest.fromDict_toDict, ?_, fun _ =>
    RequestFields.mem_toWire⟩
  intro given create
  rw [fields_new, freezeFields_false_iff]
  constructor
  · rintro ⟨hfields, hvalue⟩
    exact ⟨⟨create.fields, create.distinct, _, hfields⟩, fields_new.mpr hfields, rfl, hvalue⟩
  · rintro ⟨patch, hpatch, hsame, hvalue⟩
    rw [← hsame]
    exact ⟨fields_new.mp hpatch, hvalue⟩

end DataSluice.Domain
