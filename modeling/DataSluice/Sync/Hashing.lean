/-
# The text under the logical digest

`logical_sha256_batches` feeds SHA-256 with a fingerprint of the schema and one line
of JSON for each row. A row is the dictionary that `to_pylist` makes of it, keyed by
column name, and cells outside JSON are written as small objects: a date or time as
`{"__t": ...}`, bytes as `{"__b": ...}` and any other object as `{"__s": ...}`.

The text is read back as far as it goes: it determines the names, the text of the
types, the nullability and, of each row, how the last column of each name is spelled.
It does not show a column behind a later one of its name, nor whether a cell was such
an object or a struct with that one field.

Types and objects of other kinds are abstract here, with the text that `str` gives.
-/

import DataSluice.Lib.JsonText

namespace DataSluice.Sync.Hashing

open DataSluice.Lib

/-- What `str` prints for the types and for the objects of `pyarrow` and Python. -/
structure ArrowText where
  DataType : Type
  Object : Type
  typeStr : DataType → String
  str : Object → String

/-- A cell as `to_pylist` returns it. -/
inductive Cell (Object : Type)
  | /-- `None`, a `bool`, an `int` or a `float`. -/
    scalar (value : Atom)
  | str (text : String)
  | /-- A date, time or datetime, by its `isoformat`. -/
    temporal (iso : String)
  | bytes (data : List UInt8)
  | list (items : List (Cell Object))
  | /-- A struct, with distinct keys. -/
    dict (entries : List (String × Cell Object))
  | /-- An object of any other type, such as a `Decimal` or a `tuple`. -/
    other (value : Object)

/-- `bytes.hex` -/
def hexText (data : List UInt8) : String :=
  .ofList (data.flatMap fun byte =>
    [Nat.digitChar (byte.toNat / 16), Nat.digitChar (byte.toNat % 16)])

variable (arrow : ArrowText)

mutual

/-- `_encode` -/
def encode : Cell arrow.Object → Json
  | .scalar value => .atom value
  | .str text => .string text
  | .temporal iso => .object [("__t", .string iso)]
  | .bytes data => .object [("__b", .string (hexText data))]
  | .list items => .array (encodeItems items)
  | .dict entries => .object (encodeEntries entries)
  | .other value => .object [("__s", .string (arrow.str value))]

def encodeItems : List (Cell arrow.Object) → List Json
  | [] => []
  | item :: items => encode item :: encodeItems items

def encodeEntries : List (String × Cell arrow.Object) → List (String × Json)
  | [] => []
  | (key, item) :: entries => (key, encode item) :: encodeEntries entries

end

/-! ## Tables -/

/-- A field of a schema. -/
structure Field where
  name : String
  type : arrow.DataType
  nullable : Bool

/-- A schema with its batches; every row has a cell for each field. -/
structure Table where
  fields : List (Field arrow)
  batches : List (List (List (Cell arrow.Object)))
  width : ∀ batch ∈ batches, ∀ row ∈ batch, row.length = fields.length

variable {arrow}

namespace Table

/-- The column names, in order. -/
def names (table : Table arrow) : List String := table.fields.map Field.name

/-- The rows of all batches. -/
def rows (table : Table arrow) : List (List (Cell arrow.Object)) := table.batches.flatten

theorem length_of_mem_rows {table : Table arrow} {row : List (Cell arrow.Object)}
    (hrow : row ∈ table.rows) : row.length = table.names.length := by
  obtain ⟨batch, hbatch, hmem⟩ := List.mem_flatten.mp hrow
  rw [names, List.length_map]
  exact table.width batch hbatch row hmem

end Table

/-- The dictionary of one row in `to_pylist`. -/
def rowDict (names : List String) (row : List (Cell arrow.Object)) :
    List (String × Cell arrow.Object) :=
  setAll (names.zip row) []

/-- One row as it is hashed: `json.dumps` with sorted keys and no blanks, and a line
end. -/
def rowText (names : List String) (row : List (Cell arrow.Object)) : List Char :=
  (Json.object (encodeEntries arrow (rowDict names row))).sortKeys.render [] ++ ['\n']

/-- One field in the fingerprint. -/
def fieldJson (field : Field arrow) : Json :=
  .array [.string field.name, .string (arrow.typeStr field.type),
    .atom (.literal (.bool field.nullable))]

/-- `_schema_fingerprint`, with the blanks of the default separators. -/
def schemaFingerprint (fields : List (Field arrow)) : List Char :=
  (Json.array (fields.map fieldJson)).render [' ']

/-- What `logical_sha256_batches` feeds to SHA-256. The text is ASCII, so its characters
are its bytes. -/
def logicalText (table : Table arrow) : List Char :=
  schemaFingerprint table.fields ++
    table.batches.flatMap fun batch => batch.flatMap (rowText table.names)

/-- The rows are hashed one after the other, however they are cut into batches. -/
theorem logicalText_eq_rows (table : Table arrow) :
    logicalText table =
      schemaFingerprint table.fields ++ table.rows.flatMap (rowText table.names) := by
  rw [logicalText, Table.rows]
  congr 1
  induction table.batches with
  | nil => rfl
  | cons batch batches ih =>
      rw [List.flatMap_cons, ih, List.flatten_cons, List.flatMap_append]

/-! ## Cells that are spelled alike -/

mutual

/-- The cell with the fields of its structs in the order of their keys: the order of a
dictionary does not tell two cells apart. -/
def Cell.canon {Object : Type} : Cell Object → Cell Object
  | .scalar value => .scalar value
  | .str text => .str text
  | .temporal iso => .temporal iso
  | .bytes data => .bytes data
  | .list items => .list (canonItems items)
  | .dict entries => .dict (sortEntries (canonEntries entries))
  | .other value => .other value

def Cell.canonItems {Object : Type} : List (Cell Object) → List (Cell Object)
  | [] => []
  | item :: items => item.canon :: canonItems items

def Cell.canonEntries {Object : Type} :
    List (String × Cell Object) → List (String × Cell Object)
  | [] => []
  | (key, item) :: entries => (key, item.canon) :: canonEntries entries

end

mutual

/-- The cell with every date, bytes and other object replaced by the struct that it is
written like. -/
def tagged : Cell arrow.Object → Cell arrow.Object
  | .scalar value => .scalar value
  | .str text => .str text
  | .temporal iso => .dict [("__t", .str iso)]
  | .bytes data => .dict [("__b", .str (hexText data))]
  | .list items => .list (taggedItems items)
  | .dict entries => .dict (taggedEntries entries)
  | .other value => .dict [("__s", .str (arrow.str value))]

def taggedItems : List (Cell arrow.Object) → List (Cell arrow.Object)
  | [] => []
  | item :: items => tagged item :: taggedItems items

def taggedEntries : List (String × Cell arrow.Object) → List (String × Cell arrow.Object)
  | [] => []
  | (key, item) :: entries => (key, tagged item) :: taggedEntries entries

end

/-- The two cells are the same value, up to the order of the fields of structs. That is not
always what `==` says in Python: `0.0` and `-0.0` are equal there and have different cells, and
a `NaN`, which is not equal to itself, has the same cell as itself. -/
def SameCell (first second : Cell arrow.Object) : Prop := first.canon = second.canon

/-- The two cells are equal up to objects and the structs they are written like. -/
def AlikeCell (first second : Cell arrow.Object) : Prop :=
  tagged first.canon = tagged second.canon

/-- The cell of the last column of a name. -/
def lastCell (names : List String) (row : List (Cell arrow.Object)) (name : String) :
    Option (Cell arrow.Object) := (names.zip row).reverse.lookup name

/-- The two tables have the same fields and, position by position, equal cells. -/
structure SameTable (first second : Table arrow) : Prop where
  fields : first.fields = second.fields
  rows : List.Forall₂ (List.Forall₂ SameCell) first.rows second.rows

/-- The two tables have the same names, types of the same text and the same nullability,
and in each row the last columns of each name have cells that are alike. -/
structure AlikeTable (first second : Table arrow) : Prop where
  names : first.names = second.names
  types : first.fields.map (fun field => arrow.typeStr field.type) =
    second.fields.map fun field => arrow.typeStr field.type
  nullable : first.fields.map Field.nullable = second.fields.map Field.nullable
  rows : List.Forall₂ (fun row other => ∀ name,
    Option.Rel AlikeCell (lastCell first.names row name) (lastCell first.names other name))
      first.rows second.rows

/-! ## Encoded cells -/

theorem encodeEntries_eq_map (entries : List (String × Cell arrow.Object)) :
    encodeEntries arrow entries = entries.map fun entry => (entry.1, encode arrow entry.2) := by
  induction entries with
  | nil => rfl
  | cons entry entries ih =>
      obtain ⟨key, item⟩ := entry
      rw [encodeEntries, ih, List.map_cons]

mutual

/-- Sorting the keys of an encoded cell is encoding the sorted cell. -/
theorem sortKeys_encode (cell : Cell arrow.Object) :
    (encode arrow cell).sortKeys = encode arrow cell.canon := by
  cases cell with
  | scalar _ | str _ | temporal _ | bytes _ | other _ => rfl
  | list items => rw [encode, Json.sortKeys, sortKeys_encodeItems, Cell.canon, encode]
  | dict entries =>
      calc (encode arrow (.dict entries)).sortKeys
        _ = .object (sortEntries (encodeEntries arrow (Cell.canonEntries entries))) := by
          rw [encode, Json.sortKeys, sortKeys_encodeEntries]
        _ = .object (encodeEntries arrow (sortEntries (Cell.canonEntries entries))) := by
          rw [encodeEntries_eq_map, encodeEntries_eq_map, sortEntries_map]
        _ = encode arrow (Cell.dict entries).canon := by rw [Cell.canon, encode]

theorem sortKeys_encodeItems (items : List (Cell arrow.Object)) :
    Json.sortKeysItems (encodeItems arrow items) = encodeItems arrow (Cell.canonItems items) := by
  cases items with
  | nil => rfl
  | cons item items =>
      rw [encodeItems, Json.sortKeysItems, sortKeys_encode, sortKeys_encodeItems,
        Cell.canonItems, encodeItems]

theorem sortKeys_encodeEntries (entries : List (String × Cell arrow.Object)) :
    Json.sortKeysEntries (encodeEntries arrow entries) =
      encodeEntries arrow (Cell.canonEntries entries) := by
  match entries with
  | [] => rfl
  | (key, item) :: entries =>
      rw [encodeEntries, Json.sortKeysEntries, sortKeys_encode, sortKeys_encodeEntries,
        Cell.canonEntries, encodeEntries]

end

mutual

/-- The cell that a JSON value is the plain encoding of. -/
def ofJson : Json → Cell arrow.Object
  | .atom value => .scalar value
  | .string text => .str text
  | .array items => .list (ofJsonItems items)
  | .object entries => .dict (ofJsonEntries entries)

def ofJsonItems : List Json → List (Cell arrow.Object)
  | [] => []
  | item :: items => ofJson item :: ofJsonItems items

def ofJsonEntries : List (String × Json) → List (String × Cell arrow.Object)
  | [] => []
  | (key, item) :: entries => (key, ofJson item) :: ofJsonEntries entries

end

mutual

theorem ofJson_encode (cell : Cell arrow.Object) : ofJson (encode arrow cell) = tagged cell := by
  cases cell with
  | scalar _ | str _ | temporal _ | bytes _ | other _ => rfl
  | list items => rw [encode, ofJson, ofJson_encodeItems, tagged]
  | dict entries => rw [encode, ofJson, ofJson_encodeEntries, tagged]

theorem ofJson_encodeItems (items : List (Cell arrow.Object)) :
    ofJsonItems (encodeItems arrow items) = taggedItems items := by
  cases items with
  | nil => rfl
  | cons item items =>
      rw [encodeItems, ofJsonItems, ofJson_encode, ofJson_encodeItems, taggedItems]

theorem ofJson_encodeEntries (entries : List (String × Cell arrow.Object)) :
    ofJsonEntries (encodeEntries arrow entries) = taggedEntries entries := by
  match entries with
  | [] => rfl
  | (key, item) :: entries =>
      rw [encodeEntries, ofJsonEntries, ofJson_encode, ofJson_encodeEntries, taggedEntries]

end

mutual

theorem encode_tagged (cell : Cell arrow.Object) :
    encode arrow (tagged cell) = encode arrow cell := by
  cases cell with
  | scalar _ | str _ | temporal _ | bytes _ | other _ => rfl
  | list items => rw [tagged, encode, encode_taggedItems, encode]
  | dict entries => rw [tagged, encode, encode_taggedEntries, encode]

theorem encode_taggedItems (items : List (Cell arrow.Object)) :
    encodeItems arrow (taggedItems items) = encodeItems arrow items := by
  cases items with
  | nil => rfl
  | cons item items =>
      rw [taggedItems, encodeItems, encode_tagged, encode_taggedItems, encodeItems]

theorem encode_taggedEntries (entries : List (String × Cell arrow.Object)) :
    encodeEntries arrow (taggedEntries entries) = encodeEntries arrow entries := by
  match entries with
  | [] => rfl
  | (key, item) :: entries =>
      rw [taggedEntries, encodeEntries, encode_tagged, encode_taggedEntries, encodeEntries]

end

/-- Cells are written alike if and only if they are alike. -/
theorem sortKeys_encode_eq_iff (first second : Cell arrow.Object) :
    (encode arrow first).sortKeys = (encode arrow second).sortKeys ↔ AlikeCell first second := by
  rw [sortKeys_encode, sortKeys_encode, AlikeCell]
  constructor
  · intro hencode
    rw [← ofJson_encode, ← ofJson_encode, hencode]
  · intro htagged
    rw [← encode_tagged, htagged, encode_tagged]

/-! ## Rows -/

theorem lookup_rowDict (names : List String) (row : List (Cell arrow.Object)) (name : String) :
    (rowDict names row).lookup name = lastCell names row name := by
  have hlookup := lookup_setAll (names.zip row) [] name
  rwa [List.lookup_nil, Option.or_none] at hlookup

theorem nodup_keys_rowDict (names : List String) (row : List (Cell arrow.Object)) :
    ((rowDict names row).map Prod.fst).Nodup := nodup_keys_setAll List.nodup_nil

theorem keys_rowDict {names : List String} {row other : List (Cell arrow.Object)}
    (hrow : row.length = names.length) (hother : other.length = names.length) :
    (rowDict names row).map Prod.fst = (rowDict names other).map Prod.fst := by
  refine keys_setAll ?_ rfl
  rw [List.map_fst_zip (Nat.le_of_eq hrow.symm), List.map_fst_zip (Nat.le_of_eq hother.symm)]

/-- A cell as it stands in a row's line. -/
def sortedJson (cell : Cell arrow.Object) : Json := (encode arrow cell).sortKeys

theorem sortKeysEntries_encodeEntries_eq_map (entries : List (String × Cell arrow.Object)) :
    Json.sortKeysEntries (encodeEntries arrow entries) =
      entries.map fun entry => (entry.1, sortedJson entry.2) := by
  induction entries with
  | nil => rfl
  | cons entry entries ih =>
      obtain ⟨key, item⟩ := entry
      rw [encodeEntries, Json.sortKeysEntries, ih, List.map_cons, sortedJson]

theorem map_eq_map_iff_rel (first second : Option (Cell arrow.Object)) :
    first.map sortedJson = second.map sortedJson ↔ Option.Rel AlikeCell first second := by
  cases first with
  | none =>
      cases second with
      | none => exact ⟨fun _ => .none, fun _ => rfl⟩
      | some second => exact ⟨nofun, nofun⟩
  | some first =>
      cases second with
      | none => exact ⟨nofun, nofun⟩
      | some second =>
          rw [Option.map_some, Option.map_some, Option.some.injEq, sortedJson, sortedJson,
            sortKeys_encode_eq_iff]
          constructor
          · exact fun h => .some h
          · rintro ⟨h⟩
            exact h

/-- Rows of the same names are written alike if and only if the cells of the last column
of each name are alike. -/
theorem rowJson_eq_iff {names : List String} {row other : List (Cell arrow.Object)}
    (hrow : row.length = names.length) (hother : other.length = names.length) :
    (Json.object (encodeEntries arrow (rowDict names row))).sortKeys =
        (Json.object (encodeEntries arrow (rowDict names other))).sortKeys ↔
      ∀ name, Option.Rel AlikeCell (lastCell names row name) (lastCell names other name) := by
  have hkeys : ∀ row : List (Cell arrow.Object),
      ((rowDict names row).map fun entry => (entry.1, sortedJson entry.2)).map Prod.fst =
        (rowDict names row).map Prod.fst := fun row => by
    rw [List.map_map]
    rfl
  have hnodup : ∀ row : List (Cell arrow.Object),
      (((rowDict names row).map fun entry => (entry.1, sortedJson entry.2)).map
        Prod.fst).Nodup := fun row => by
    rw [hkeys]
    exact nodup_keys_rowDict names row
  simp only [Json.sortKeys, Json.object.injEq, sortKeysEntries_encodeEntries_eq_map]
  constructor
  · intro hsorted name
    have hlookup := congrArg (List.lookup name) hsorted
    rw [lookup_sortEntries (hnodup row), lookup_sortEntries (hnodup other), lookup_map_value,
      lookup_map_value, lookup_rowDict, lookup_rowDict] at hlookup
    exact (map_eq_map_iff_rel _ _).mp hlookup
  · intro halike
    refine congrArg sortEntries (eq_of_lookup ?_ (hnodup row) fun name => ?_)
    · rw [hkeys, hkeys]
      exact keys_rowDict hrow hother
    · rw [lookup_map_value, lookup_map_value, lookup_rowDict, lookup_rowDict]
      exact (map_eq_map_iff_rel _ _).mpr (halike name)

/-- The line of a row in front of further text determines the row's JSON. -/
theorem rowText_append_inj {names others : List String} {row other : List (Cell arrow.Object)}
    {after later : List Char}
    (happend : rowText names row ++ after = rowText others other ++ later) :
    (Json.object (encodeEntries arrow (rowDict names row))).sortKeys =
        (Json.object (encodeEntries arrow (rowDict others other))).sortKeys ∧
      after = later := by
  have hstops : ∀ text, Stops ('\n' :: text) := by
    rintro text _ ⟨⟩
    rfl
  rw [rowText, rowText, List.append_assoc, List.append_assoc] at happend
  obtain ⟨hjson, hend⟩ := Json.render_append_inj [] _ _ (hstops after) (hstops later) happend
  exact ⟨hjson, (List.cons.inj hend).2⟩

theorem rowText_ne_nil (names : List String) (row : List (Cell arrow.Object))
    (after : List Char) : rowText names row ++ after ≠ [] := by
  simp [rowText]

/-- The lines of two row sequences agree if and only if the sequences have the same
length and rows that are written alike. -/
theorem flatMap_rowText_eq_iff {names : List String} {rows others : List (List (Cell arrow.Object))}
    (hrows : ∀ row ∈ rows, row.length = names.length)
    (hothers : ∀ row ∈ others, row.length = names.length) :
    rows.flatMap (rowText names) = others.flatMap (rowText names) ↔
      List.Forall₂ (fun row other => ∀ name,
        Option.Rel AlikeCell (lastCell names row name) (lastCell names other name))
          rows others := by
  induction rows generalizing others with
  | nil =>
      cases others with
      | nil => exact ⟨fun _ => .nil, fun _ => rfl⟩
      | cons other others =>
          refine ⟨fun htext => ?_, nofun⟩
          exact absurd htext.symm (rowText_ne_nil names other _)
  | cons row rows ih =>
      cases others with
      | nil =>
          refine ⟨fun htext => ?_, nofun⟩
          exact absurd htext (rowText_ne_nil names row _)
      | cons other others =>
          have hrow := hrows row List.mem_cons_self
          have hother := hothers other List.mem_cons_self
          have hrest := ih (fun row hmem => hrows row (List.mem_cons_of_mem _ hmem))
            (fun row hmem => hothers row (List.mem_cons_of_mem _ hmem))
          rw [List.flatMap_cons, List.flatMap_cons, List.forall₂_cons, ← hrest,
            ← rowJson_eq_iff hrow hother]
          constructor
          · exact rowText_append_inj
          · rintro ⟨hjson, htext⟩
            rw [rowText, rowText, hjson, htext]

/-! ## Whole tables -/

theorem fieldJson_eq_iff (first second : Field arrow) :
    fieldJson first = fieldJson second ↔
      first.name = second.name ∧ arrow.typeStr first.type = arrow.typeStr second.type ∧
        first.nullable = second.nullable := by
  simp [fieldJson]

theorem map_fieldJson_eq_iff (fields others : List (Field arrow)) :
    fields.map fieldJson = others.map fieldJson ↔
      fields.map Field.name = others.map Field.name ∧
        (fields.map fun field => arrow.typeStr field.type) =
          (others.map fun field => arrow.typeStr field.type) ∧
        fields.map Field.nullable = others.map Field.nullable := by
  induction fields generalizing others with
  | nil =>
      cases others with
      | nil => simp
      | cons other others => simp
  | cons field fields ih =>
      cases others with
      | nil => simp
      | cons other others =>
          simp only [List.map_cons, List.cons.injEq, ih, fieldJson_eq_iff]
          constructor
          · rintro ⟨⟨hname, htype, hnullable⟩, hnames, htypes, hnullables⟩
            exact ⟨⟨hname, hnames⟩, ⟨htype, htypes⟩, hnullable, hnullables⟩
          · rintro ⟨⟨hname, hnames⟩, ⟨htype, htypes⟩, hnullable, hnullables⟩
            exact ⟨⟨hname, htype, hnullable⟩, hnames, htypes, hnullables⟩

/-- The lines of rows start with a brace, if there are any. -/
theorem stops_rows (names : List String) (rows : List (List (Cell arrow.Object))) :
    Stops (rows.flatMap (rowText names)) := by
  cases rows with
  | nil => exact nofun
  | cons row rows =>
      rw [List.flatMap_cons, rowText, Json.sortKeys]
      match sortEntries (Json.sortKeysEntries (encodeEntries arrow (rowDict names row))) with
      | [] | (_, _) :: _ =>
          rw [Json.render]
          rintro _ ⟨⟩
          rfl

/-- The fingerprint in front of the rows' lines determines its fields' text. -/
theorem schemaFingerprint_append_inj {fields others : List (Field arrow)}
    {after later : List Char} (hafter : Stops after) (hlater : Stops later)
    (happend : schemaFingerprint fields ++ after = schemaFingerprint others ++ later) :
    fields.map fieldJson = others.map fieldJson ∧ after = later := by
  obtain ⟨hjson, hend⟩ := Json.render_append_inj [' '] _ _ hafter hlater happend
  exact ⟨Json.array.inj hjson, hend⟩

/-- The hashed texts of two tables agree if and only if the tables are alike. -/
theorem logicalText_eq_iff (first second : Table arrow) :
    logicalText first = logicalText second ↔ AlikeTable first second := by
  rw [logicalText_eq_rows, logicalText_eq_rows]
  constructor
  · intro htext
    obtain ⟨hfields, hrows⟩ := schemaFingerprint_append_inj (stops_rows _ _) (stops_rows _ _) htext
    obtain ⟨hnames, htypes, hnullable⟩ := (map_fieldJson_eq_iff _ _).mp hfields
    have hnames : first.names = second.names := hnames
    refine ⟨hnames, htypes, hnullable, ?_⟩
    rw [← hnames] at hrows
    refine (flatMap_rowText_eq_iff (fun _ => Table.length_of_mem_rows) ?_).mp hrows
    rw [hnames]
    exact fun _ => Table.length_of_mem_rows
  · rintro ⟨hnames, htypes, hnullable, halike⟩
    have hfields := (map_fieldJson_eq_iff first.fields second.fields).mpr
      ⟨hnames, htypes, hnullable⟩
    have hrows := (flatMap_rowText_eq_iff (fun _ => Table.length_of_mem_rows) (by
      rw [hnames]
      exact fun _ => Table.length_of_mem_rows)).mpr halike
    rw [schemaFingerprint, hfields, hrows, hnames]
    rfl

theorem rel_lookup_of_forall₂ {relation : Cell arrow.Object → Cell arrow.Object → Prop}
    {columns others : List (String × Cell arrow.Object)}
    (hcolumns : List.Forall₂ (fun column other => column.1 = other.1 ∧
      relation column.2 other.2) columns others) (name : String) :
    Option.Rel relation (columns.lookup name) (others.lookup name) := by
  induction hcolumns with
  | nil => exact .none
  | @cons column other columns others hcolumn _ ih =>
      obtain ⟨key, cell⟩ := column
      obtain ⟨otherKey, otherCell⟩ := other
      obtain ⟨rfl, hrelation⟩ := hcolumn
      by_cases hname : name = key
      · subst hname
        rw [List.lookup_cons_self, List.lookup_cons_self]
        exact .some hrelation
      · rw [lookup_cons_of_ne hname, lookup_cons_of_ne hname]
        exact ih

theorem forall₂_zip {relation : Cell arrow.Object → Cell arrow.Object → Prop}
    (names : List String) {row other : List (Cell arrow.Object)}
    (hrow : List.Forall₂ relation row other) :
    List.Forall₂ (fun column other => column.1 = other.1 ∧ relation column.2 other.2)
      (names.zip row) (names.zip other) := by
  induction hrow generalizing names with
  | nil =>
      rw [List.zip_nil_right]
      exact .nil
  | cons hcell _ ih =>
      cases names with
      | nil => exact .nil
      | cons name names => exact .cons ⟨rfl, hcell⟩ (ih names)

/-- Tables with equal cells are alike. -/
theorem SameTable.alike {first second : Table arrow} (hsame : SameTable first second) :
    AlikeTable first second := by
  have hfields := hsame.fields
  refine ⟨?_, ?_, ?_, ?_⟩
  · rw [Table.names, Table.names, hfields]
  · rw [hfields]
  · rw [hfields]
  · refine hsame.rows.imp fun row other hrow name => ?_
    refine rel_lookup_of_forall₂ (List.forall₂_reverse_iff.mpr (forall₂_zip first.names ?_)) name
    exact hrow.imp fun cell otherCell hcell => congrArg tagged hcell

/-- The two tables are alike without being the same: they differ only in columns behind a
later one of their name, in objects and the structs they are written like, or in types
of the same text. -/
def Collide (first second : Table arrow) : Prop :=
  AlikeTable first second ∧ ¬ SameTable first second

/-- The hashed text tells two tables apart, and only if they differ, unless they
collide. -/
theorem logicalText_separates_iff (first second : Table arrow) :
    (logicalText first = logicalText second ↔ SameTable first second) ↔
      ¬ Collide first second := by
  rw [logicalText_eq_iff, Collide, not_and_not_right]
  constructor
  · exact fun hiff => hiff.mp
  · exact fun halike => ⟨halike, SameTable.alike⟩

/-- Types and objects that are their own text. -/
def textArrow : ArrowText where
  DataType := String
  Object := String
  typeStr := fun name => name
  str := fun text => text

/-- One row of two integer columns of the same name. -/
def shadowedTable (hidden shown : Int) : Table textArrow where
  fields := [⟨"a", "int64", true⟩, ⟨"a", "int64", true⟩]
  batches := [[[.scalar (.int hidden), .scalar (.int shown)]]]
  width := by simp

/-- The first of two columns of one name does not reach the digest. -/
theorem shadowed_cell_not_separated :
    ¬ (logicalText (shadowedTable 1 2) = logicalText (shadowedTable 3 2) ↔
      SameTable (shadowedTable 1 2) (shadowedTable 3 2)) := by
  intro hseparates
  have htext : logicalText (shadowedTable 1 2) = logicalText (shadowedTable 3 2) := by
    decide +kernel
  have hrows := (hseparates.mp htext).rows
  rcases hrows with _ | ⟨hrow, _⟩
  rcases hrow with _ | ⟨hcell, _⟩
  cases hcell

end DataSluice.Sync.Hashing
