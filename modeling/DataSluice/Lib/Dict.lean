/-
# Dictionaries as lists of entries

A dictionary with string keys is the list of its entries in insertion order. Storing
an entry under a key that is present replaces the value and keeps the place; sorting
orders the entries by their keys.
-/

import Mathlib.Data.List.Sort
import Mathlib.Data.List.Nodup

namespace DataSluice.Lib

variable {α β : Type}

/-! ## Storing -/

/-- Store one entry in a dictionary: a key that is present keeps its place. -/
def setItem : List (String × α) → String → α → List (String × α)
  | [], key, value => [(key, value)]
  | (name, old) :: entries, key, value =>
      if name = key then (name, value) :: entries else (name, old) :: setItem entries key value

theorem lookup_cons_of_ne {name key : String} (hname : name ≠ key) (value : α)
    (entries : List (String × α)) :
    ((key, value) :: entries).lookup name = entries.lookup name := by
  rw [List.lookup_cons, beq_eq_false_iff_ne.mpr hname]

theorem lookup_setItem (entries : List (String × α)) (key name : String) (value : α) :
    (setItem entries key value).lookup name =
      if name = key then some value else entries.lookup name := by
  induction entries with
  | nil =>
      by_cases hname : name = key
      · simp [setItem, hname]
      · rw [setItem, lookup_cons_of_ne hname, if_neg hname]
  | cons entry entries ih =>
      obtain ⟨other, old⟩ := entry
      by_cases hother : other = key
      · subst hother
        by_cases hname : name = other
        · simp [setItem, hname]
        · rw [setItem, if_pos rfl, lookup_cons_of_ne hname, lookup_cons_of_ne hname, if_neg hname]
      · rw [setItem, if_neg hother]
        by_cases hname : name = other
        · subst hname
          simp [hother]
        · rw [lookup_cons_of_ne hname, lookup_cons_of_ne hname, ih]

theorem keys_setItem (entries : List (String × α)) (key : String) (value : α) :
    (setItem entries key value).map Prod.fst =
      if key ∈ entries.map Prod.fst then entries.map Prod.fst
      else entries.map Prod.fst ++ [key] := by
  induction entries with
  | nil => simp [setItem]
  | cons entry entries ih =>
      obtain ⟨other, old⟩ := entry
      by_cases hother : other = key
      · simp [setItem, hother]
      · have hne : key ≠ other := fun h => hother h.symm
        rw [setItem, if_neg hother, List.map_cons, ih, List.map_cons]
        by_cases hmem : key ∈ entries.map Prod.fst
        · rw [if_pos hmem, if_pos (List.mem_cons_of_mem _ hmem)]
        · rw [if_neg hmem, if_neg (List.not_mem_cons_of_ne_of_not_mem hne hmem)]
          rfl

theorem nodup_keys_setItem {entries : List (String × α)} (hnodup : (entries.map Prod.fst).Nodup)
    (key : String) (value : α) : ((setItem entries key value).map Prod.fst).Nodup := by
  rw [keys_setItem]
  split
  · exact hnodup
  · next hmem => exact List.nodup_append_comm.mp (List.nodup_cons.mpr ⟨hmem, hnodup⟩)

/-- The entries that the columns leave, on top of those there were. -/
def setAll (columns entries : List (String × α)) : List (String × α) :=
  columns.foldl (fun entries column => setItem entries column.1 column.2) entries

theorem lookup_setAll (columns entries : List (String × α)) (name : String) :
    (setAll columns entries).lookup name =
      (columns.reverse.lookup name).or (entries.lookup name) := by
  induction columns generalizing entries with
  | nil => rfl
  | cons column columns ih =>
      obtain ⟨key, value⟩ := column
      have hfold := ih (setItem entries key value)
      rw [setAll] at hfold ⊢
      have hone : (if name = key then some value else entries.lookup name) =
          (List.lookup name [(key, value)]).or (entries.lookup name) := by
        by_cases hname : name = key
        · simp [hname]
        · rw [if_neg hname, lookup_cons_of_ne hname]
          rfl
      calc ((key, value) :: columns).foldl
            (fun entries column => setItem entries column.1 column.2) entries |>.lookup name
        _ = (columns.reverse.lookup name).or ((setItem entries key value).lookup name) := by
          rw [List.foldl_cons, hfold]
        _ = (columns.reverse.lookup name).or
              ((List.lookup name [(key, value)]).or (entries.lookup name)) := by
          rw [lookup_setItem, hone]
        _ = (((key, value) :: columns).reverse.lookup name).or (entries.lookup name) := by
          rw [List.reverse_cons, List.lookup_append, Option.or_assoc]

theorem nodup_keys_setAll {columns entries : List (String × α)}
    (hnodup : (entries.map Prod.fst).Nodup) : ((setAll columns entries).map Prod.fst).Nodup := by
  induction columns generalizing entries with
  | nil => exact hnodup
  | cons column columns ih => exact ih (nodup_keys_setItem hnodup column.1 column.2)

/-- The keys of a dictionary are decided by the names of the columns. -/
theorem keys_setAll {columns others : List (String × α)}
    (hnames : columns.map Prod.fst = others.map Prod.fst) {entries starts : List (String × α)}
    (hkeys : entries.map Prod.fst = starts.map Prod.fst) :
    (setAll columns entries).map Prod.fst = (setAll others starts).map Prod.fst := by
  induction columns generalizing others entries starts with
  | nil =>
      cases others with
      | nil => exact hkeys
      | cons other others => cases hnames
  | cons column columns ih =>
      cases others with
      | nil => cases hnames
      | cons other others =>
          rw [List.map_cons, List.map_cons, List.cons.injEq] at hnames
          refine ih hnames.2 ?_
          rw [keys_setItem, keys_setItem, hkeys, hnames.1]

theorem setItem_of_notMem {entries : List (String × α)} {key : String}
    (hkey : key ∉ entries.map Prod.fst) (value : α) :
    setItem entries key value = entries ++ [(key, value)] := by
  induction entries with
  | nil => rfl
  | cons entry entries ih =>
      obtain ⟨other, old⟩ := entry
      rw [List.map_cons, List.mem_cons, not_or] at hkey
      rw [setItem, if_neg (Ne.symm hkey.1), ih hkey.2, List.cons_append]

/-- New columns with names of their own stand behind the entries there were. -/
theorem setAll_of_nodup {columns entries : List (String × α)}
    (hnodup : ((entries ++ columns).map Prod.fst).Nodup) :
    setAll columns entries = entries ++ columns := by
  induction columns generalizing entries with
  | nil => exact (List.append_nil entries).symm
  | cons column columns ih =>
      have hkey : column.1 ∉ entries.map Prod.fst := by
        rw [List.map_append, List.map_cons] at hnodup
        have hdisjoint := (List.nodup_append.mp hnodup).2.2
        exact fun hmem => hdisjoint _ hmem _ List.mem_cons_self rfl
      have hstep := ih (show (((entries ++ [column]) ++ columns).map Prod.fst).Nodup by
        rwa [List.append_assoc])
      rw [setAll, List.foldl_cons, setItem_of_notMem hkey]
      exact hstep.trans (List.append_assoc entries [column] columns)

theorem lookup_eq_some_iff_mem {entries : List (String × α)}
    (hnodup : (entries.map Prod.fst).Nodup) (name : String) (value : α) :
    entries.lookup name = some value ↔ (name, value) ∈ entries := by
  induction entries with
  | nil => simp
  | cons entry entries ih =>
      obtain ⟨other, old⟩ := entry
      rw [List.map_cons, List.nodup_cons] at hnodup
      by_cases hname : name = other
      · subst hname
        have hnotMem : (name, value) ∉ entries := fun hmem =>
          hnodup.1 (List.mem_map.mpr ⟨(name, value), hmem, rfl⟩)
        simp [hnotMem, eq_comm]
      · rw [lookup_cons_of_ne hname, ih hnodup.2]
        simp [hname]

/-! ## Sorting -/

/-- Entries in the order of their keys. -/
def sortEntries (entries : List (String × α)) : List (String × α) :=
  entries.insertionSort fun first second => first.1 ≤ second.1

/-- Sorting looks at the keys only. -/
theorem sortEntries_map (f : α → β) (entries : List (String × α)) :
    sortEntries (entries.map fun entry => (entry.1, f entry.2)) =
      (sortEntries entries).map fun entry => (entry.1, f entry.2) := by
  refine (List.map_insertionSort _ _ (fun entry : String × α => (entry.1, f entry.2)) entries
    fun first _ second _ => ?_).symm
  exact Iff.rfl

theorem perm_sortEntries (entries : List (String × α)) :
    (sortEntries entries).Perm entries := List.perm_insertionSort _ entries

/-- Sorting does not change what a dictionary holds. -/
theorem lookup_sortEntries {entries : List (String × α)}
    (hnodup : (entries.map Prod.fst).Nodup) (name : String) :
    (sortEntries entries).lookup name = entries.lookup name := by
  have hperm := perm_sortEntries entries
  have hsorted : ((sortEntries entries).map Prod.fst).Nodup :=
    (hperm.map Prod.fst).nodup_iff.mpr hnodup
  refine Option.ext fun value => ?_
  rw [lookup_eq_some_iff_mem hsorted, lookup_eq_some_iff_mem hnodup, hperm.mem_iff]

theorem lookup_map_value (f : α → β) (entries : List (String × α)) (name : String) :
    (entries.map fun entry => (entry.1, f entry.2)).lookup name =
      (entries.lookup name).map f := by
  induction entries with
  | nil => rfl
  | cons entry entries ih =>
      obtain ⟨key, value⟩ := entry
      by_cases hname : name = key
      · simp [hname]
      · rw [List.map_cons, lookup_cons_of_ne hname, ih, lookup_cons_of_ne hname]

/-- Dictionaries with the same keys in the same order are equal if they hold the
same. -/
theorem eq_of_lookup {entries others : List (String × α)}
    (hkeys : entries.map Prod.fst = others.map Prod.fst)
    (hnodup : (entries.map Prod.fst).Nodup)
    (hlookup : ∀ name, entries.lookup name = others.lookup name) : entries = others := by
  refine List.ext_getElem (by simpa using congrArg List.length hkeys) fun index hfirst hsecond => ?_
  have hkey : entries[index].1 = others[index].1 := by
    have hget := List.getElem_of_eq hkeys (by simpa using hfirst)
    simpa using hget
  have hmem := (lookup_eq_some_iff_mem hnodup entries[index].1 entries[index].2).mpr
    (List.getElem_mem hfirst)
  have hother := (lookup_eq_some_iff_mem (hkeys ▸ hnodup) others[index].1 others[index].2).mpr
    (List.getElem_mem hsecond)
  rw [hlookup, hkey, hother, Option.some.injEq] at hmem
  exact Prod.ext hkey hmem.symm

end DataSluice.Lib
