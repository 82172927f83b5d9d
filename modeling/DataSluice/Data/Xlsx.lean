/-
# Rows of a worksheet

The XLSX reader names the columns after the first row of the worksheet and makes a dictionary
of every row behind it. A header that was seen before gets the number of its occurrence as a
suffix, so the names are distinct unless a suffixed name is itself a header of the row.
-/

import DataSluice.Lib.Dict
import DataSluice.Lib.Joined
import DataSluice.Lib.JsonText

namespace DataSluice.Data.Xlsx

open DataSluice.Lib

/-! ## Reading -/

section Reading

variable {Cell : Type}

/-- The text of a header: `str(value)`, which is a parameter, or nothing for `None`. -/
def headerText (str : Cell → String) : Option Cell → String
  | some value => str value
  | none => ""

/-- The name of a later occurrence of a header. -/
def suffixed (header : String) (occurrence : Nat) : String :=
  header ++ "_" ++ toString occurrence

/-- The loop of `_deduplicated_headers`, with the occurrences it has `seen`. -/
def dedupFrom (seen : List (String × Nat)) : List String → List String
  | [] => []
  | header :: headers =>
      let count := (seen.lookup header).getD 0
      (if count = 0 then header else suffixed header (count + 1)) ::
        dedupFrom (setItem seen header (count + 1)) headers

/-- `_deduplicated_headers` -/
def deduplicatedHeaders (str : Cell → String) (headerRow : List (Option Cell)) : List String :=
  dedupFrom [] (headerRow.map (headerText str))

/-- `dict(zip(headers, row, strict=False))` -/
def rowDict (headers : List String) (row : List (Option Cell)) : List (String × Option Cell) :=
  setAll (headers.zip row) []

/-- The loop of `_row_chunks`, with its `buffer`. -/
def rowChunksFrom (headers : List String) (batchSize : Nat)
    (buffer : List (List (String × Option Cell))) :
    List (List (Option Cell)) → List (List (List (String × Option Cell)))
  | [] => if buffer = [] then [] else [buffer]
  | row :: rows =>
      let buffer := buffer ++ [rowDict headers row]
      if batchSize ≤ buffer.length then buffer :: rowChunksFrom headers batchSize [] rows
      else rowChunksFrom headers batchSize buffer rows

/-- `_row_chunks` -/
def rowChunks (headers : List String) (batchSize : Nat) (rows : List (List (Option Cell))) :
    List (List (List (String × Option Cell))) :=
  rowChunksFrom headers batchSize [] rows

theorem flatten_rowChunksFrom (headers : List String) (batchSize : Nat)
    (buffer : List (List (String × Option Cell))) (rows : List (List (Option Cell))) :
    (rowChunksFrom headers batchSize buffer rows).flatten =
      buffer ++ rows.map (rowDict headers) := by
  induction rows generalizing buffer with
  | nil =>
      rw [rowChunksFrom]
      split
      · next hempty => rw [hempty]; rfl
      · simp
  | cons row rows ih =>
      rw [rowChunksFrom]
      split
      · rw [List.flatten_cons, ih]
        simp
      · rw [ih]
        simp

/-- The chunks hold the dictionaries of the rows, in order. -/
theorem flatten_rowChunks (headers : List String) (batchSize : Nat)
    (rows : List (List (Option Cell))) :
    (rowChunks headers batchSize rows).flatten = rows.map (rowDict headers) :=
  flatten_rowChunksFrom headers batchSize [] rows

end Reading

/-! ## Names -/

theorem suffixed_injective {header other : String} {occurrence another : Nat}
    (hname : suffixed header occurrence = suffixed other another) :
    header = other ∧ occurrence = another := by
  have htext : header.toList ++ '_' :: Nat.toDigits 10 occurrence =
      other.toList ++ '_' :: Nat.toDigits 10 another := by
    have hlist := congrArg String.toList hname
    simpa [suffixed, toString, Nat.repr] using hlist
  have hdigits : ∀ value, '_' ∉ Nat.toDigits 10 value := by
    intro value hmem
    have hdigit := Nat.isDigit_of_mem_toDigits (by decide) (by decide) hmem
    cases hdigit
  obtain ⟨hheader, hoccurrence⟩ :=
    append_cons_inj_of_notMem (hdigits occurrence) (hdigits another) htext
  exact ⟨String.toList_injective hheader, toDigits_injective hoccurrence⟩

/-- The name of a header behind others. -/
def nameBehind (before : List String) (header : String) : String :=
  if header ∈ before then suffixed header (before.count header + 1) else header

/-- The names of headers that follow others. -/
def namesBehind (before : List String) : List String → List String
  | [] => []
  | header :: headers => nameBehind before header :: namesBehind (before ++ [header]) headers

theorem dedupFrom_eq_namesBehind {seen : List (String × Nat)} {before : List String}
    (hseen : ∀ header, (seen.lookup header).getD 0 = before.count header)
    (headers : List String) : dedupFrom seen headers = namesBehind before headers := by
  induction headers generalizing seen before with
  | nil => rfl
  | cons header headers ih =>
      have hhead : (if (seen.lookup header).getD 0 = 0 then header
          else suffixed header ((seen.lookup header).getD 0 + 1)) = nameBehind before header := by
        rw [hseen, nameBehind]
        by_cases hmem : header ∈ before
        · rw [if_neg (by rw [List.count_eq_zero]; exact not_not.mpr hmem), if_pos hmem]
        · rw [if_pos (List.count_eq_zero.mpr hmem), if_neg hmem]
      rw [dedupFrom, namesBehind, hhead]
      congr 1
      apply ih
      intro other
      rw [lookup_setItem, List.count_append, List.count_singleton]
      by_cases hother : other = header
      · subst hother
        simp [hseen]
      · rw [if_neg hother, hseen, if_neg (by simpa using Ne.symm hother), Nat.add_zero]

/-! ## Distinct names -/

/-- The numbers of the occurrences behind one more header: the one of the header itself is not
among them, where it has one. -/
theorem count_append_header_lt_iff {before : List String} {header other : String}
    {occurrence : Nat} (hoccurrence : 2 ≤ occurrence) :
    (before ++ [header]).count other < occurrence ↔
      before.count other < occurrence ∧
        ¬(other = header ∧ header ∈ before ∧ occurrence = before.count header + 1) := by
  rw [List.count_append, List.count_singleton]
  by_cases hother : other = header
  · subst hother
    by_cases hmem : other ∈ before
    · simp [hmem]
      omega
    · simp [hmem, List.count_eq_zero.mpr hmem]
      omega
  · simp [hother, Ne.symm hother]

/-- The later occurrences of a header, behind others: each of them gets a suffixed name. -/
def IsOccurrence (before headers : List String) (header : String) (occurrence : Nat) : Prop :=
  2 ≤ occurrence ∧ before.count header < occurrence ∧
    occurrence ≤ (before ++ headers).count header

/-- A later occurrence is that of the first header or one behind it. -/
theorem isOccurrence_cons_iff {before headers : List String} {header other : String}
    {occurrence : Nat} :
    IsOccurrence before (header :: headers) other occurrence ↔
      (other = header ∧ header ∈ before ∧ occurrence = before.count header + 1) ∨
        IsOccurrence (before ++ [header]) headers other occurrence := by
  unfold IsOccurrence
  rw [List.append_assoc, List.singleton_append]
  constructor
  · intro ⟨htwo, hbefore, htotal⟩
    rw [count_append_header_lt_iff htwo]
    by_cases hown : other = header ∧ header ∈ before ∧ occurrence = before.count header + 1
    · exact .inl hown
    · exact .inr ⟨htwo, ⟨hbefore, hown⟩, htotal⟩
  · intro hcases
    rcases hcases with ⟨rfl, hmem, rfl⟩ | ⟨htwo, hbefore, htotal⟩
    · have hpos : 0 < before.count other := List.count_pos_iff.mpr hmem
      have htotal : (before ++ other :: headers).count other =
          before.count other + (headers.count other + 1) := by
        rw [List.count_append, List.count_cons_self]
      omega
    · exact ⟨htwo, ((count_append_header_lt_iff htwo).mp hbefore).1, htotal⟩

/-- The names are the headers that are new and the suffixed names of the later occurrences. -/
theorem mem_namesBehind_iff (before headers : List String) (name : String) :
    name ∈ namesBehind before headers ↔
      (name ∈ headers ∧ name ∉ before) ∨
        ∃ header occurrence, name = suffixed header occurrence ∧
          IsOccurrence before headers header occurrence := by
  induction headers generalizing before with
  | nil =>
      have hnone : ∀ header occurrence, ¬ IsOccurrence before [] header occurrence := by
        intro header occurrence ⟨_, hbefore, htotal⟩
        rw [List.append_nil] at htotal
        omega
      simp [namesBehind, hnone]
  | cons header headers ih =>
      rw [namesBehind, List.mem_cons, ih]
      simp only [isOccurrence_cons_iff, nameBehind]
      by_cases hmem : header ∈ before
      · rw [if_pos hmem]
        constructor
        · intro hcases
          rcases hcases with rfl | ⟨hname, hnew⟩ | ⟨other, occurrence, rfl, hother⟩
          · exact .inr ⟨header, _, rfl, .inl ⟨rfl, hmem, rfl⟩⟩
          · exact .inl ⟨List.mem_cons_of_mem _ hname, by simp_all⟩
          · exact .inr ⟨other, occurrence, rfl, .inr hother⟩
        · intro hcases
          rcases hcases with ⟨hname, hnew⟩ | ⟨other, occurrence, rfl, ⟨rfl, -, rfl⟩ | hother⟩
          · have hne : name ≠ header := fun heq => hnew (heq ▸ hmem)
            exact .inr (.inl ⟨List.mem_of_ne_of_mem hne hname, by simp [hnew, hne]⟩)
          · exact .inl rfl
          · exact .inr (.inr ⟨other, occurrence, rfl, hother⟩)
      · rw [if_neg hmem]
        simp only [hmem, false_and, and_false, false_or, List.mem_cons, List.mem_append,
          List.not_mem_nil, or_false, not_or]
        by_cases hname : name = header
        · simp [hname, hmem]
        · simp [hname]

/-- The names of the headers are distinct when no suffixed name is a new header of the row. -/
theorem nodup_namesBehind_iff (before headers : List String) :
    (namesBehind before headers).Nodup ↔
      ∀ header occurrence, IsOccurrence before headers header occurrence →
        suffixed header occurrence ∈ headers → suffixed header occurrence ∈ before := by
  induction headers generalizing before with
  | nil => simp [namesBehind]
  | cons header headers ih =>
      rw [namesBehind, List.nodup_cons, ih, mem_namesBehind_iff]
      by_cases hmem : header ∈ before
      · have hown : IsOccurrence before (header :: headers) header (before.count header + 1) :=
          isOccurrence_cons_iff.mpr (.inl ⟨rfl, hmem, rfl⟩)
        rw [nameBehind, if_pos hmem]
        constructor
        · intro ⟨hnew, hrest⟩ other occurrence hother hname
          by_contra hbefore
          have hne : suffixed other occurrence ≠ header := fun heq => hbefore (heq ▸ hmem)
          have hin := List.mem_of_ne_of_mem hne hname
          rcases isOccurrence_cons_iff.mp hother with ⟨rfl, -, rfl⟩ | hbehind
          · exact hnew (.inl ⟨hin, by simp [hbefore, hne]⟩)
          · have hlater := hrest other occurrence hbehind hin
            simp [hbefore, hne] at hlater
        · intro hall
          constructor
          · intro hcases
            rcases hcases with ⟨hin, hnew⟩ | ⟨other, occurrence, hname, hbehind⟩
            · apply hnew
              rw [List.mem_append]
              exact .inl (hall _ _ hown (List.mem_cons_of_mem _ hin))
            · obtain ⟨rfl, rfl⟩ := suffixed_injective hname
              have hcount := hbehind.2.1
              rw [List.count_append, List.count_singleton_self] at hcount
              omega
          · intro other occurrence hbehind hin
            rw [List.mem_append]
            exact .inl (hall _ _ (isOccurrence_cons_iff.mpr (.inr hbehind))
              (List.mem_cons_of_mem _ hin))
      · rw [nameBehind, if_neg hmem]
        constructor
        · intro ⟨hnew, hrest⟩ other occurrence hother hname
          rcases isOccurrence_cons_iff.mp hother with ⟨-, hheader, -⟩ | hbehind
          · exact (hmem hheader).elim
          · have hne : suffixed other occurrence ≠ header := by
              intro heq
              exact hnew (.inr ⟨other, occurrence, heq.symm, hbehind⟩)
            have hlater := hrest other occurrence hbehind (List.mem_of_ne_of_mem hne hname)
            simpa [hne] using hlater
        · intro hall
          constructor
          · intro hcases
            rcases hcases with ⟨-, hnew⟩ | ⟨other, occurrence, hname, hbehind⟩
            · simp at hnew
            · have hbefore := hall other occurrence (isOccurrence_cons_iff.mpr (.inr hbehind))
                (by rw [← hname]; exact List.mem_cons_self)
              exact hmem (by rw [hname]; exact hbefore)
          · intro other occurrence hbehind hin
            rw [List.mem_append]
            exact .inl (hall _ _ (isOccurrence_cons_iff.mpr (.inr hbehind))
              (List.mem_cons_of_mem _ hin))

theorem length_namesBehind (before headers : List String) :
    (namesBehind before headers).length = headers.length := by
  induction headers generalizing before with
  | nil => rfl
  | cons header headers ih => rw [namesBehind, List.length_cons, ih, List.length_cons]

theorem deduplicatedHeaders_eq {Cell : Type} (str : Cell → String)
    (headerRow : List (Option Cell)) :
    deduplicatedHeaders str headerRow = namesBehind [] (headerRow.map (headerText str)) := by
  apply dedupFrom_eq_namesBehind
  intro header
  rfl

/-! ## Rows -/

section Rows

variable {Cell : Type}

/-- A dictionary has every cell of a row under the name of its column. -/
def KeepsRow (names : List String) (row : List (Option Cell))
    (entries : List (String × Option Cell)) : Prop :=
  ∀ (column : Nat) (cell : Option Cell), row[column]? = some cell →
    ∃ name, names[column]? = some name ∧ entries.lookup name = some cell

/-- Under distinct names a row keeps its cells unless it has more of them than there are names. -/
theorem keepsRow_rowDict_iff {names : List String} (hnodup : names.Nodup)
    (row : List (Option Cell)) :
    KeepsRow names row (rowDict names row) ↔ row.length ≤ names.length := by
  have hkeys : ((names.zip row).map Prod.fst).Nodup := by
    rw [List.zip_eq_zip_take_min, List.map_fst_zip (by simp)]
    exact hnodup.sublist (List.take_sublist _ _)
  have hdict : rowDict names row = names.zip row :=
    setAll_of_nodup (show ((([] : List (String × Option Cell)) ++ names.zip row).map
      Prod.fst).Nodup from hkeys)
  constructor
  · intro hkeeps
    by_contra hlong
    have hcell : row[names.length]? = some (row.get ⟨names.length, by omega⟩) :=
      List.getElem?_eq_getElem _
    obtain ⟨name, hname, -⟩ := hkeeps _ _ hcell
    rw [List.getElem?_eq_none le_rfl] at hname
    cases hname
  · intro hlength column cell hcell
    have hcolumn : column < row.length := (List.getElem?_eq_some_iff.mp hcell).1
    have hname : names[column]? = some (names.get ⟨column, by omega⟩) :=
      List.getElem?_eq_getElem _
    refine ⟨_, hname, ?_⟩
    rw [hdict, lookup_eq_some_iff_mem hkeys]
    apply List.mem_of_getElem? (i := column)
    rw [List.getElem?_zip_eq_some]
    exact ⟨hname, hcell⟩

/-- The names are distinct, there is one for each column, and the dictionaries of the chunks are
those of the rows, in order, each with every cell of its row: this holds exactly when no header
reads like a later occurrence of a header, and no row has more cells than the header row. -/
theorem xlsx_rows_keep_every_cell_iff (str : Cell → String) (headerRow : List (Option Cell))
    (batchSize : Nat) (rows : List (List (Option Cell))) :
    ((deduplicatedHeaders str headerRow).Nodup ∧
        (deduplicatedHeaders str headerRow).length = headerRow.length ∧
        List.Forall₂ (KeepsRow (deduplicatedHeaders str headerRow)) rows
          (rowChunks (deduplicatedHeaders str headerRow) batchSize rows).flatten) ↔
      (∀ header occurrence, 2 ≤ occurrence →
        occurrence ≤ (headerRow.map (headerText str)).count header →
        suffixed header occurrence ∉ headerRow.map (headerText str)) ∧
      ∀ row ∈ rows, row.length ≤ headerRow.length := by
  have hlength : (deduplicatedHeaders str headerRow).length = headerRow.length := by
    rw [deduplicatedHeaders_eq, length_namesBehind, List.length_map]
  have hnames : (deduplicatedHeaders str headerRow).Nodup ↔
      ∀ header occurrence, 2 ≤ occurrence →
        occurrence ≤ (headerRow.map (headerText str)).count header →
        suffixed header occurrence ∉ headerRow.map (headerText str) := by
    rw [deduplicatedHeaders_eq, nodup_namesBehind_iff]
    constructor
    · intro hnew header occurrence htwo htotal hmem
      have hbefore := hnew header occurrence
        ⟨htwo, by rw [List.count_nil]; omega, by rwa [List.nil_append]⟩ hmem
      cases hbefore
    · intro hnew header occurrence ⟨htwo, _, htotal⟩ hmem
      rw [List.nil_append] at htotal
      exact (hnew header occurrence htwo htotal hmem).elim
  rw [flatten_rowChunks, List.forall₂_map_right_iff, List.forall₂_same]
  constructor
  · intro ⟨hnodup, _, hkeeps⟩
    constructor
    · exact hnames.mp hnodup
    · intro row hrow
      rw [← hlength]
      exact (keepsRow_rowDict_iff hnodup row).mp (hkeeps row hrow)
  · intro ⟨hclear, hrows⟩
    have hnodup := hnames.mpr hclear
    refine ⟨hnodup, hlength, fun row hrow => ?_⟩
    rw [keepsRow_rowDict_iff hnodup, hlength]
    exact hrows row hrow

/-- Two columns `a` and one `a_2`: the second and the third column get one name. -/
theorem deduplicatedHeaders_clash :
    deduplicatedHeaders (fun value : String => value) [some "a", some "a", some "a_2"] =
        ["a", "a_2", "a_2"] ∧
      ¬ (deduplicatedHeaders (fun value : String => value)
          [some "a", some "a", some "a_2"]).Nodup ∧
      (rowChunks (deduplicatedHeaders (fun value : String => value)
          [some "a", some "a", some "a_2"]) 2 [[some "1", some "2", some "3"]]).flatten =
        [[("a", some "1"), ("a_2", some "3")]] := by
  decide

end Rows

end DataSluice.Data.Xlsx
