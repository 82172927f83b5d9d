/-
# Tables that the logical digest tells apart

What makes two different tables share a text is a column behind a later one of its
name, a struct that looks like a written object, or types and objects of one text.
Without these the cells can be read back from the text.
-/

import DataSluice.Sync.Hashing

namespace DataSluice.Sync.Hashing

open DataSluice.Lib

variable {arrow : ArrowText}

/-- The fields are those of a struct that an object is written like. -/
def IsTag {Object : Type} (entries : List (String × Cell Object)) : Prop :=
  ∃ key ∈ ["__t", "__b", "__s"], ∃ text, entries = [(key, .str text)]

mutual

/-- No struct in the cell looks like a written object. -/
def Cell.Plain {Object : Type} : Cell Object → Prop
  | .list items => PlainItems items
  | .dict entries => ¬ IsTag entries ∧ PlainEntries entries
  | .scalar _ | .str _ | .temporal _ | .bytes _ | .other _ => True

def Cell.PlainItems {Object : Type} : List (Cell Object) → Prop
  | [] => True
  | item :: items => item.Plain ∧ PlainItems items

def Cell.PlainEntries {Object : Type} : List (String × Cell Object) → Prop
  | [] => True
  | (_, item) :: entries => item.Plain ∧ PlainEntries entries

end

theorem digitChar_injective {first second : Nat} (hfirst : first < 16) (hsecond : second < 16)
    (hdigit : Nat.digitChar first = Nat.digitChar second) : first = second := by
  rw [← hexValue_digitChar hfirst, hdigit, hexValue_digitChar hsecond]

theorem hexText_injective {data other : List UInt8} (htext : hexText data = hexText other) :
    data = other := by
  have hchars := congrArg String.toList htext
  simp only [hexText, String.toList_ofList] at hchars
  induction data generalizing other with
  | nil =>
      cases other with
      | nil => rfl
      | cons byte other => cases hchars
  | cons byte data ih =>
      cases other with
      | nil => cases hchars
      | cons next other =>
          simp only [List.flatMap_cons, List.cons_append, List.nil_append, List.cons.injEq] at hchars
          obtain ⟨hhigh, hlow, hrest⟩ := hchars
          have hbyte := byte.toNat_lt
          have hnext := next.toNat_lt
          have hhigh := digitChar_injective (by omega) (by omega) hhigh
          have hlow := digitChar_injective (Nat.mod_lt _ (by decide)) (Nat.mod_lt _ (by decide)) hlow
          have heq : byte = next := UInt8.toNat_inj.mp (by omega)
          rw [heq, ih (congrArg String.ofList hrest) hrest]

theorem tagged_eq_str_iff {cell : Cell arrow.Object} {text : String} :
    tagged cell = .str text ↔ cell = .str text := by
  cases cell with
  | str other => simp [tagged]
  | scalar _ | temporal _ | bytes _ | list _ | dict _ | other _ => simp [tagged]

/-- A struct whose fields are written like an object looks like one. -/
theorem isTag_of_taggedEntries {entries : List (String × Cell arrow.Object)} {key text : String}
    (hkey : key ∈ ["__t", "__b", "__s"]) (hentries : taggedEntries entries = [(key, .str text)]) :
    IsTag entries := by
  match entries with
  | [] => cases hentries
  | [(name, item)] =>
      simp only [taggedEntries, List.cons.injEq, Prod.mk.injEq, and_true] at hentries
      obtain ⟨rfl, hitem⟩ := hentries
      rw [tagged_eq_str_iff] at hitem
      exact ⟨name, hkey, text, by rw [hitem]⟩
  | _ :: (_, _) :: _ => simp [taggedEntries] at hentries

mutual

/-- Plain cells that are written alike are the same. -/
theorem tagged_injective (hstr : Function.Injective arrow.str) (first second : Cell arrow.Object)
    (hfirst : first.Plain) (hsecond : second.Plain) (htagged : tagged first = tagged second) :
    first = second := by
  match first, second with
  | .scalar _, .scalar _ | .str _, .str _ => simpa [tagged] using htagged
  | .temporal _, .temporal _ => simpa [tagged] using htagged
  | .bytes data, .bytes other =>
      simp only [tagged, Cell.dict.injEq, List.cons.injEq, Prod.mk.injEq, Cell.str.injEq, true_and,
        and_true] at htagged
      rw [hexText_injective htagged]
  | .other value, .other object =>
      simp only [tagged, Cell.dict.injEq, List.cons.injEq, Prod.mk.injEq, Cell.str.injEq, true_and,
        and_true] at htagged
      rw [hstr htagged]
  | .list items, .list others =>
      rw [tagged, tagged, Cell.list.injEq] at htagged
      rw [taggedItems_injective hstr items others hfirst hsecond htagged]
  | .dict entries, .dict others =>
      rw [tagged, tagged, Cell.dict.injEq] at htagged
      rw [taggedEntries_injective hstr entries others hfirst.2 hsecond.2 htagged]
  | .temporal _, .dict _ | .bytes _, .dict _ | .other _, .dict _ =>
      rw [tagged, tagged, Cell.dict.injEq] at htagged
      exact absurd (isTag_of_taggedEntries (by decide) htagged.symm) hsecond.1
  | .dict _, .temporal _ | .dict _, .bytes _ | .dict _, .other _ =>
      rw [tagged, tagged, Cell.dict.injEq] at htagged
      exact absurd (isTag_of_taggedEntries (by decide) htagged) hfirst.1
  | .temporal _, .bytes _ | .temporal _, .other _ | .bytes _, .temporal _ | .bytes _, .other _ |
    .other _, .temporal _ | .other _, .bytes _ => simp [tagged] at htagged
  | .scalar _, .str _ | .scalar _, .temporal _ | .scalar _, .bytes _ | .scalar _, .list _ |
    .scalar _, .dict _ | .scalar _, .other _ | .str _, .scalar _ | .str _, .temporal _ |
    .str _, .bytes _ | .str _, .list _ | .str _, .dict _ | .str _, .other _ |
    .temporal _, .scalar _ | .temporal _, .str _ | .temporal _, .list _ | .bytes _, .scalar _ |
    .bytes _, .str _ | .bytes _, .list _ | .list _, .scalar _ | .list _, .str _ |
    .list _, .temporal _ | .list _, .bytes _ | .list _, .dict _ | .list _, .other _ |
    .dict _, .scalar _ | .dict _, .str _ | .dict _, .list _ | .other _, .scalar _ |
    .other _, .str _ | .other _, .list _ => cases htagged

theorem taggedItems_injective (hstr : Function.Injective arrow.str)
    (items others : List (Cell arrow.Object))
    (hitems : Cell.PlainItems items) (hothers : Cell.PlainItems others)
    (htagged : taggedItems items = taggedItems others) : items = others := by
  match items, others with
  | [], [] => rfl
  | [], _ :: _ | _ :: _, [] => cases htagged
  | item :: items, other :: others =>
      rw [taggedItems, taggedItems, List.cons.injEq] at htagged
      rw [tagged_injective hstr item other hitems.1 hothers.1 htagged.1,
        taggedItems_injective hstr items others hitems.2 hothers.2 htagged.2]

theorem taggedEntries_injective (hstr : Function.Injective arrow.str)
    (entries others : List (String × Cell arrow.Object))
    (hentries : Cell.PlainEntries entries) (hothers : Cell.PlainEntries others)
    (htagged : taggedEntries entries = taggedEntries others) : entries = others := by
  match entries, others with
  | [], [] => rfl
  | [], (_, _) :: _ | (_, _) :: _, [] => simp [taggedEntries] at htagged
  | (key, item) :: entries, (name, other) :: others =>
      rw [taggedEntries, taggedEntries, List.cons.injEq, Prod.mk.injEq] at htagged
      rw [htagged.1.1, tagged_injective hstr item other hentries.1 hothers.1 htagged.1.2,
        taggedEntries_injective hstr entries others hentries.2 hothers.2 htagged.2]

end

theorem plainEntries_iff {Object : Type} (entries : List (String × Cell Object)) :
    Cell.PlainEntries entries ↔ ∀ entry ∈ entries, entry.2.Plain := by
  induction entries with
  | nil => simp [Cell.PlainEntries]
  | cons entry entries ih =>
      obtain ⟨key, item⟩ := entry
      simp [Cell.PlainEntries, ih]

theorem canon_eq_str_iff {Object : Type} {cell : Cell Object} {text : String} :
    cell.canon = .str text ↔ cell = .str text := by
  cases cell with
  | str other => simp [Cell.canon]
  | scalar _ | temporal _ | bytes _ | list _ | dict _ | other _ => simp [Cell.canon]

/-- Sorting the fields of a struct does not make it look like an object. -/
theorem isTag_of_canonEntries {Object : Type} {entries : List (String × Cell Object)}
    (htag : IsTag (sortEntries (Cell.canonEntries entries))) : IsTag entries := by
  obtain ⟨key, hkey, text, hsorted⟩ := htag
  have hperm := perm_sortEntries (Cell.canonEntries entries)
  rw [hsorted] at hperm
  have hentries := List.perm_singleton.mp hperm.symm
  match entries with
  | [] => cases hentries
  | [(name, item)] =>
      simp only [Cell.canonEntries, List.cons.injEq, Prod.mk.injEq, and_true] at hentries
      obtain ⟨rfl, hitem⟩ := hentries
      rw [canon_eq_str_iff] at hitem
      exact ⟨name, hkey, text, by rw [hitem]⟩
  | _ :: (_, _) :: _ => simp [Cell.canonEntries] at hentries

mutual

theorem plain_canon {Object : Type} (cell : Cell Object) (hplain : cell.Plain) :
    cell.canon.Plain := by
  match cell with
  | .scalar _ | .str _ | .temporal _ | .bytes _ | .other _ =>
      rw [Cell.canon]
      trivial
  | .list items =>
      rw [Cell.canon]
      exact plain_canonItems items hplain
  | .dict entries =>
      rw [Cell.canon]
      refine ⟨fun htag => hplain.1 (isTag_of_canonEntries htag), ?_⟩
      rw [plainEntries_iff]
      intro entry hentry
      rw [(perm_sortEntries _).mem_iff] at hentry
      exact (plainEntries_iff _).mp (plain_canonEntries entries hplain.2) entry hentry

theorem plain_canonItems {Object : Type} (items : List (Cell Object))
    (hplain : Cell.PlainItems items) : Cell.PlainItems (Cell.canonItems items) := by
  match items with
  | [] => trivial
  | item :: items => exact ⟨plain_canon item hplain.1, plain_canonItems items hplain.2⟩

theorem plain_canonEntries {Object : Type} (entries : List (String × Cell Object))
    (hplain : Cell.PlainEntries entries) : Cell.PlainEntries (Cell.canonEntries entries) := by
  match entries with
  | [] => trivial
  | (_, item) :: entries =>
      exact ⟨plain_canon item hplain.1, plain_canonEntries entries hplain.2⟩

end

/-- With distinct names every cell is the last of its name. -/
theorem forall₂_of_lastCell {relation : Cell arrow.Object → Cell arrow.Object → Prop}
    {names : List String} (hnodup : names.Nodup) {row other : List (Cell arrow.Object)}
    (hrow : row.length = names.length) (hother : other.length = names.length)
    (hlast : ∀ name, Option.Rel relation (lastCell names row name) (lastCell names other name)) :
    List.Forall₂ relation row other := by
  have hget : ∀ (cells : List (Cell arrow.Object)) (hcells : cells.length = names.length)
      (index : Nat) (hindex : index < cells.length),
      lastCell names cells (names[index]) = some cells[index] := by
    intro cells hcells index hindex
    have hkeys : ((names.zip cells).reverse.map Prod.fst).Nodup := by
      rw [List.map_reverse, List.nodup_reverse, List.map_fst_zip (Nat.le_of_eq hcells.symm)]
      exact hnodup
    rw [lastCell, lookup_eq_some_iff_mem hkeys, List.mem_reverse]
    refine List.mem_iff_getElem.mpr ⟨index, ?_, ?_⟩
    · rw [List.length_zip, hcells, Nat.min_self, ← hcells]
      exact hindex
    · rw [List.getElem_zip]
  rw [List.forall₂_iff_get]
  refine ⟨hrow.trans hother.symm, fun index hfirst hsecond => ?_⟩
  have hindex : index < names.length := hrow ▸ hfirst
  have hname := hlast names[index]
  rw [hget row hrow index hfirst, hget other hother index hsecond] at hname
  rcases hname with hcell | _
  exact hcell

/-- Tables with distinct column names and plain cells do not collide, as long as types and
objects of the same text are the same. -/
theorem not_collide_of_plain (htype : Function.Injective arrow.typeStr)
    (hstr : Function.Injective arrow.str) {first second : Table arrow}
    (hnodup : first.names.Nodup) (hfirst : ∀ row ∈ first.rows, ∀ cell ∈ row, cell.Plain)
    (hsecond : ∀ row ∈ second.rows, ∀ cell ∈ row, cell.Plain) : ¬ Collide first second := by
  rintro ⟨⟨hnames, htypes, hnullable, hrows⟩, hdifferent⟩
  refine hdifferent ⟨?_, ?_⟩
  · have hfields := (map_fieldJson_eq_iff first.fields second.fields).mpr
      ⟨hnames, htypes, hnullable⟩
    refine List.map_injective_iff.mpr (fun field other hjson => ?_) hfields
    obtain ⟨hname, htext, hnull⟩ := (fieldJson_eq_iff field other).mp hjson
    obtain ⟨name, type, nullable⟩ := field
    obtain ⟨otherName, otherType, otherNullable⟩ := other
    cases hname
    cases hnull
    have hsame : type = otherType := htype htext
    rw [hsame]
  · rw [List.forall₂_iff_get] at hrows ⊢
    refine ⟨hrows.1, fun index hindex hother => ?_⟩
    have hrow := List.get_mem first.rows ⟨index, hindex⟩
    have hrowOther := List.get_mem second.rows ⟨index, hother⟩
    have halike := forall₂_of_lastCell hnodup (Table.length_of_mem_rows hrow)
      (by rw [hnames]; exact Table.length_of_mem_rows hrowOther) (hrows.2 index hindex hother)
    rw [List.forall₂_iff_get] at halike ⊢
    refine ⟨halike.1, fun column hcolumn hotherColumn => ?_⟩
    exact tagged_injective hstr _ _
      (plain_canon _ (hfirst _ hrow _ (List.get_mem _ ⟨column, hcolumn⟩)))
      (plain_canon _ (hsecond _ hrowOther _ (List.get_mem _ ⟨column, hotherColumn⟩)))
      (halike.2 column hcolumn hotherColumn)

end DataSluice.Sync.Hashing
