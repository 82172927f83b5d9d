/-
# Values written as JSON

`json.dumps` makes a tree of a value, and `json.loads` a value of a tree. A value made of JSON
types comes back with the entries of its dictionaries in the order they are written in, which
no comparison sees. A tuple comes back as a list; a read-only proxy is not written at all.

How a finite float is written, and which float a decimal text stands for, is left to the
library, as are texts of other forms than `json.dumps` writes.
-/

import DataSluice.Domain.Artifact
import DataSluice.Domain.Equality
import DataSluice.Lib.Dict
import DataSluice.Lib.JsonParse

namespace DataSluice.Domain

open DataSluice.Lib

/-- What of the `json` module stands outside. -/
structure JsonCodec where
  /-- `float.__repr__` of a finite value -/
  floatText : PyFloat → FloatText
  /-- The value of a decimal text; nothing where it is no number. -/
  floatOfText : FloatText → Option PyFloat
  floatOfText_floatText : ∀ value, value.isFinite = true →
    floatOfText (floatText value) = some value
  /-- The tree of a document that is not written the way `json.dumps` writes one. -/
  otherDocuments : List UInt8 → Option Json

/-- The entries of a dictionary whose keys are strings. -/
def textFields (entries : List (Key × Value)) : List (String × Value) :=
  entries.filterMap fun entry =>
    match entry.1 with
    | .text name => some (name, entry.2)
    | .other _ => none

theorem textFields_asMapping (fields : List (String × Value)) :
    textFields (asMapping fields) = fields := by
  induction fields with
  | nil => rfl
  | cons field fields ih =>
      rw [asMapping, List.map_cons, textFields, List.filterMap_cons]
      exact congrArg (field :: ·) ih

/-! ## Trees of values -/

variable (codec : JsonCodec)

/-- The token of a float. -/
def floatAtom (value : PyFloat) : Atom :=
  if value.isFinite then .float (codec.floatText value)
  else if value.isNan then .literal .nan
  else if value.bits >>> 63 = 1 then .literal .negInfinity
  else .literal .infinity

mutual

/-- The tree that `json.dumps` writes; nothing where it raises `TypeError`. A key that is no
string is refused here, where the source would write some of them as text. -/
def toJson : Value → Option Json
  | .none => some (.atom (.literal .null))
  | .bool value => some (.atom (.literal (.bool value)))
  | .int value => some (.atom (.int value))
  | .float value => some (.atom (floatAtom codec value))
  | .str value => some (.string value)
  | .list items => (toJsonItems items).map .array
  | .tuple items => (toJsonItems items).map .array
  | .dict entries => (toJsonEntries entries).map .object
  | .proxy _ => none
  | .other => none

def toJsonItems : List Value → Option (List Json)
  | [] => some []
  | item :: items =>
      match toJson item, toJsonItems items with
      | some tree, some trees => some (tree :: trees)
      | _, _ => none

def toJsonEntries : List (Key × Value) → Option (List (String × Json))
  | [] => some []
  | (.other _, _) :: _ => none
  | (.text key, value) :: entries =>
      match toJson value, toJsonEntries entries with
      | some tree, some trees => some ((key, tree) :: trees)
      | _, _ => none

end

mutual

/-- The value that `json.loads` makes of a tree. A key that comes twice keeps its last value. -/
def ofJson : Json → Option Value
  | .atom (.literal .null) => some .none
  | .atom (.literal (.bool value)) => some (.bool value)
  | .atom (.literal .nan) => some (.float ⟨0x7FF8000000000000⟩)
  | .atom (.literal .infinity) => some (.float ⟨0x7FF0000000000000⟩)
  | .atom (.literal .negInfinity) => some (.float ⟨0xFFF0000000000000⟩)
  | .atom (.int value) => some (.int value)
  | .atom (.float text) => (codec.floatOfText text).map .float
  | .string text => some (.str text)
  | .array items => (ofJsonItems items).map .list
  | .object entries =>
      (ofJsonEntries entries).map fun fields => .dict (asMapping (setAll fields []))

def ofJsonItems : List Json → Option (List Value)
  | [] => some []
  | item :: items =>
      match ofJson item, ofJsonItems items with
      | some value, some values => some (value :: values)
      | _, _ => none

def ofJsonEntries : List (String × Json) → Option (List (String × Value))
  | [] => some []
  | (key, tree) :: entries =>
      match ofJson tree, ofJsonEntries entries with
      | some value, some values => some ((key, value) :: values)
      | _, _ => none

end

/-! ## JSON values -/

/-- The values that are made of JSON types: finite numbers, strings, lists, and dictionaries
whose keys are strings, which are distinct in every dictionary. -/
inductive IsJson : Value → Prop
  | none : IsJson .none
  | bool (value : Bool) : IsJson (.bool value)
  | int (value : Int) : IsJson (.int value)
  | float (value : PyFloat) (hfinite : value.isFinite = true) : IsJson (.float value)
  | str (value : String) : IsJson (.str value)
  | list (items : List Value) (hitems : ∀ item ∈ items, IsJson item) : IsJson (.list items)
  | dict (fields : List (String × Value)) (hnodup : (fields.map Prod.fst).Nodup)
      (hfields : ∀ field ∈ fields, IsJson field.2) : IsJson (.dict (asMapping fields))

mutual

/-- The value with the entries of its dictionaries sorted, at every depth. -/
def sorted : Value → Value
  | .list items => .list (sortedItems items)
  | .dict entries => .dict (asMapping (sortEntries (textFields (sortedEntries entries))))
  | value => value

def sortedItems : List Value → List Value
  | [] => []
  | item :: items => sorted item :: sortedItems items

def sortedEntries : List (Key × Value) → List (Key × Value)
  | [] => []
  | (key, value) :: entries => (key, sorted value) :: sortedEntries entries

end

theorem sortedItems_eq_map (items : List Value) : sortedItems items = items.map sorted := by
  induction items with
  | nil => rfl
  | cons item items ih => rw [sortedItems, ih, List.map_cons]

/-- The fields of a dictionary, sorted. -/
def sortedFields (fields : List (String × Value)) : List (String × Value) :=
  sortEntries (fields.map fun field => (field.1, sorted field.2))

theorem sorted_dict (fields : List (String × Value)) :
    sorted (.dict (asMapping fields)) = .dict (asMapping (sortedFields fields)) := by
  have hentries : sortedEntries (asMapping fields) =
      asMapping (fields.map fun field => (field.1, sorted field.2)) := by
    induction fields with
    | nil => rfl
    | cons field fields ih =>
        rw [asMapping, List.map_cons, sortedEntries]
        exact congrArg _ ih
  rw [sorted, hentries, textFields_asMapping]
  rfl

theorem keys_perm_sortedFields (fields : List (String × Value)) :
    ((sortedFields fields).map Prod.fst).Perm (fields.map Prod.fst) := by
  have hperm := (perm_sortEntries (fields.map fun field => (field.1, sorted field.2))).map Prod.fst
  rw [List.map_map] at hperm
  exact hperm

theorem mem_sortedFields {fields : List (String × Value)} {field : String × Value} :
    field ∈ sortedFields fields ↔ ∃ given ∈ fields, (given.1, sorted given.2) = field := by
  rw [sortedFields, (perm_sortEntries _).mem_iff, List.mem_map]

theorem lookup_sortedFields {fields : List (String × Value)}
    (hnodup : (fields.map Prod.fst).Nodup) (name : String) :
    (sortedFields fields).lookup name = (fields.lookup name).map sorted := by
  have hkeys : ((fields.map fun field => (field.1, sorted field.2)).map Prod.fst).Nodup := by
    rw [List.map_map]
    exact hnodup
  calc (sortedFields fields).lookup name
    _ = (fields.map fun field => (field.1, sorted field.2)).lookup name :=
      lookup_sortEntries hkeys name
    _ = (fields.lookup name).map sorted := lookup_map_value sorted fields name

theorem isJson_sorted {value : Value} (hvalue : IsJson value) : IsJson (sorted value) := by
  induction hvalue with
  | none => exact .none
  | bool value => exact .bool value
  | int value => exact .int value
  | float value hfinite => exact .float value hfinite
  | str value => exact .str value
  | list items _ ih =>
      rw [sorted, sortedItems_eq_map]
      apply IsJson.list
      intro item hitem
      obtain ⟨given, hgiven, rfl⟩ := List.mem_map.mp hitem
      exact ih given hgiven
  | dict fields hnodup _ ih =>
      rw [sorted_dict]
      apply IsJson.dict _ ((keys_perm_sortedFields fields).nodup_iff.mpr hnodup)
      intro field hfield
      obtain ⟨given, hgiven, rfl⟩ := mem_sortedFields.mp hfield
      exact ih given hgiven

theorem lookup_asMapping (fields : List (String × Value)) (name : String) :
    (asMapping fields).lookup (.text name) = fields.lookup name := by
  induction fields with
  | nil => rfl
  | cons field fields ih =>
      obtain ⟨key, value⟩ := field
      rw [asMapping, List.map_cons] at *
      by_cases hname : name = key
      · simp [hname]
      · have hkey : (Key.text name == Key.text key) = false := by simp [hname]
        rw [List.lookup_cons, hkey, lookup_cons_of_ne hname]
        exact ih

theorem isNan_of_isFinite {value : PyFloat} (hfinite : value.isFinite = true) :
    value.isNan = false := by
  rw [PyFloat.isFinite, bne_iff_ne] at hfinite
  have hexponent : value.exponent ≠ 0x7FF := by
    intro hall
    apply hfinite
    exact UInt64.toNat_inj.mp hall
  simp [PyFloat.isNan, hexponent]

theorem pyEqItems_map {items : List Value}
    (hitems : ∀ item ∈ items, pyEq item (sorted item) = true) :
    pyEqItems items (items.map sorted) = true := by
  induction items with
  | nil => rfl
  | cons item items ih =>
      rw [List.map_cons, pyEqItems, hitems item List.mem_cons_self, Bool.true_and]
      exact ih fun later hlater => hitems later (List.mem_cons_of_mem item hlater)

theorem pyEqEntries_of_lookup {fields : List (String × Value)} {others : List (Key × Value)}
    (hfields : ∀ field ∈ fields, ∃ value, others.lookup (.text field.1) = some value ∧
      pyEq field.2 value = true) : pyEqEntries (asMapping fields) others = true := by
  induction fields with
  | nil => rfl
  | cons field fields ih =>
      obtain ⟨value, hvalue, hsame⟩ := hfields field List.mem_cons_self
      rw [asMapping, List.map_cons, pyEqEntries, hvalue]
      simp only [hsame, Bool.true_and]
      exact ih fun later hlater => hfields later (List.mem_cons_of_mem field hlater)

/-- No comparison sees the order of the entries. -/
theorem pyEq_sorted {value : Value} (hvalue : IsJson value) :
    pyEq value (sorted value) = true := by
  induction hvalue with
  | none => rfl
  | bool value => simp [sorted, pyEq, sameNumber, wholeNumber]
  | int value => simp [sorted, pyEq, sameNumber, wholeNumber]
  | float value hfinite => simp [sorted, pyEq, sameNumber, isNan_of_isFinite hfinite]
  | str value => simp [sorted, pyEq]
  | list items _ ih =>
      rw [sorted, sortedItems_eq_map, pyEq]
      exact pyEqItems_map ih
  | dict fields hnodup _ ih =>
      have hlength : (asMapping fields).length = (asMapping (sortedFields fields)).length := by
        have hkeys := (keys_perm_sortedFields fields).length_eq
        rw [List.length_map, List.length_map] at hkeys
        rw [asMapping, asMapping, List.length_map, List.length_map, hkeys]
      have hentries : pyEqEntries (asMapping fields) (asMapping (sortedFields fields)) = true := by
        apply pyEqEntries_of_lookup
        intro field hfield
        refine ⟨sorted field.2, ?_, ih field hfield⟩
        rw [lookup_asMapping, lookup_sortedFields hnodup,
          (lookup_eq_some_iff_mem hnodup field.1 field.2).mpr hfield, Option.map_some]
      rw [sorted_dict, pyEq, hentries, hlength]
      simp

/-! ## What comes back -/

/-- The trees of a list, and what they are read as. -/
theorem exists_toJsonItems {items : List Value}
    (hitems : ∀ item ∈ items, ∃ tree, toJson codec item = some tree ∧
      ofJson codec tree.sortKeys = some (sorted item)) :
    ∃ trees, toJsonItems codec items = some trees ∧
      ofJsonItems codec (Json.sortKeysItems trees) = some (items.map sorted) := by
  induction items with
  | nil => exact ⟨[], rfl, rfl⟩
  | cons item items ih =>
      obtain ⟨tree, htree, hread⟩ := hitems item List.mem_cons_self
      obtain ⟨trees, htrees, hreads⟩ := ih fun later hlater =>
        hitems later (List.mem_cons_of_mem item hlater)
      apply Exists.intro (tree :: trees)
      simp only [toJsonItems, htree, htrees, Json.sortKeysItems, ofJsonItems, hread, hreads,
        List.map_cons, and_self]

/-- The trees of the fields of a dictionary, each with what it is read as. -/
theorem exists_toJsonEntries {fields : List (String × Value)}
    (hfields : ∀ field ∈ fields, ∃ tree, toJson codec field.2 = some tree ∧
      ofJson codec tree.sortKeys = some (sorted field.2)) :
    ∃ triples : List (String × Json × Value),
      toJsonEntries codec (asMapping fields) =
        some (triples.map fun triple => (triple.1, triple.2.1)) ∧
      (fields.map fun field => (field.1, sorted field.2)) =
        (triples.map fun triple => (triple.1, triple.2.2)) ∧
      ∀ triple ∈ triples, ofJson codec triple.2.1.sortKeys = some triple.2.2 := by
  induction fields with
  | nil => exact ⟨[], rfl, rfl, fun _ hnone => absurd hnone List.not_mem_nil⟩
  | cons field fields ih =>
      obtain ⟨tree, htree, hread⟩ := hfields field List.mem_cons_self
      obtain ⟨triples, htrees, hsame, hreads⟩ := ih fun later hlater =>
        hfields later (List.mem_cons_of_mem field hlater)
      refine ⟨(field.1, tree, sorted field.2) :: triples, ?_, ?_, ?_⟩
      · rw [asMapping, List.map_cons, toJsonEntries, htree]
        rw [asMapping] at htrees
        rw [htrees]
        rfl
      · rw [List.map_cons, hsame, List.map_cons]
      · intro triple htriple
        cases List.mem_cons.mp htriple with
        | inl heq =>
            rw [heq]
            exact hread
        | inr hmem => exact hreads triple hmem

theorem sortKeysEntries_eq_map (entries : List (String × Json)) :
    Json.sortKeysEntries entries = entries.map fun entry => (entry.1, entry.2.sortKeys) := by
  induction entries with
  | nil => rfl
  | cons entry entries ih => rw [Json.sortKeysEntries, ih, List.map_cons]

/-- Entries that are read one by one. -/
theorem ofJsonEntries_map {triples : List (String × Json × Value)}
    (htriples : ∀ triple ∈ triples, ofJson codec triple.2.1.sortKeys = some triple.2.2) :
    ofJsonEntries codec (triples.map fun triple => (triple.1, triple.2.1.sortKeys)) =
      some (triples.map fun triple => (triple.1, triple.2.2)) := by
  induction triples with
  | nil => rfl
  | cons triple triples ih =>
      have hread := htriples triple List.mem_cons_self
      have hreads := ih fun later hlater => htriples later (List.mem_cons_of_mem triple hlater)
      simp only [List.map_cons, ofJsonEntries, hread, hreads]

/-- A JSON value is written, and comes back with its entries sorted. -/
theorem ofJson_toJson {value : Value} (hvalue : IsJson value) :
    ∃ tree, toJson codec value = some tree ∧
      ofJson codec tree.sortKeys = some (sorted value) := by
  induction hvalue with
  | none => exact ⟨_, rfl, rfl⟩
  | bool value => exact ⟨_, rfl, rfl⟩
  | int value => exact ⟨_, rfl, rfl⟩
  | float value hfinite =>
      apply Exists.intro _
      apply And.intro rfl
      simp only [floatAtom, hfinite, if_true, Json.sortKeys, ofJson,
        codec.floatOfText_floatText value hfinite, Option.map_some]
      rfl
  | str value => exact ⟨_, rfl, rfl⟩
  | list items _ ih =>
      obtain ⟨trees, htrees, hreads⟩ := exists_toJsonItems codec ih
      apply Exists.intro (.array trees)
      simp only [toJson, htrees, Option.map_some, Json.sortKeys, ofJson, hreads, sorted,
        sortedItems_eq_map, and_self]
  | dict fields hnodup _ ih =>
      obtain ⟨triples, htrees, hsame, hreads⟩ := exists_toJsonEntries codec ih
      have hsorted : ofJsonEntries codec
          ((sortEntries triples).map fun triple => (triple.1, triple.2.1.sortKeys)) =
          some (sortedFields fields) := by
        rw [ofJsonEntries_map codec fun triple htriple =>
          hreads triple ((perm_sortEntries triples).mem_iff.mp htriple), sortedFields, hsame,
          sortEntries_map fun pair : Json × Value => pair.2]
      have hkeys : ((sortedFields fields).map Prod.fst).Nodup :=
        (keys_perm_sortedFields fields).nodup_iff.mpr hnodup
      apply Exists.intro (.object (triples.map fun triple => (triple.1, triple.2.1)))
      apply And.intro
      · rw [toJson, htrees]
        rfl
      · rw [Json.sortKeys, sortKeysEntries_eq_map, List.map_map, ofJson, sorted_dict]
        have hcommute := sortEntries_map (fun pair : Json × Value => pair.1.sortKeys) triples
        change sortEntries (triples.map fun triple => (triple.1, triple.2.1.sortKeys)) = _
          at hcommute
        change (ofJsonEntries codec
          (sortEntries (triples.map fun triple => (triple.1, triple.2.1.sortKeys)))).map _ = _
        rw [hcommute, hsorted, Option.map_some, setAll_of_nodup hkeys, List.nil_append]

end DataSluice.Domain
