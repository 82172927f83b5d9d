/-
# Bounded caches with timestamps

A cache is the list of its entries in the order they were stored. Storing an entry first
drops the old one under its key; when the cache is full, entries that are not worth keeping
go, and if that is not enough the oldest one goes too. Looking an entry up drops it once it
has reached its time to live.
-/

import Mathlib.Algebra.Order.Ring.Rat
import Mathlib.Data.List.Nodup

namespace DataSluice.Lib.TimedCache

/-- A stored value and when it was stored. -/
structure Entry (Payload : Type) where
  payload : Payload
  timestamp : ℚ

variable {Key Payload : Type} [DecidableEq Key]

/-- The entries without the one under a key. -/
def erase (entries : List (Key × Entry Payload)) (key : Key) : List (Key × Entry Payload) :=
  entries.filter fun entry => decide (entry.1 ≠ key)

/-- The entry under a key. -/
def find (entries : List (Key × Entry Payload)) (key : Key) : Option (Entry Payload) :=
  (entries.find? fun entry => decide (entry.1 = key)).map Prod.snd

/-- Make room for one more entry. -/
def makeRoom (limit : Nat) (keep : Entry Payload → Bool) (entries : List (Key × Entry Payload)) :
    List (Key × Entry Payload) :=
  if entries.length < limit then entries
  else
    let kept := entries.filter fun entry => keep entry.2
    if kept.length < limit then kept else kept.tail

/-- Store an entry in a cache with at most `limit` entries. -/
def store (limit : Nat) (keep : Entry Payload → Bool) (entries : List (Key × Entry Payload))
    (key : Key) (entry : Entry Payload) : List (Key × Entry Payload) :=
  makeRoom limit keep (erase entries key) ++ [(key, entry)]

/-- The entry under a key that is younger than `ttl`, and the cache after looking it up. -/
def fresh (ttl now : ℚ) (entries : List (Key × Entry Payload)) (key : Key) :
    Option (Entry Payload) × List (Key × Entry Payload) :=
  match find entries key with
  | none => (none, entries)
  | some entry =>
      if ttl ≤ now - entry.timestamp then (none, erase entries key) else (some entry, entries)

section Lookup

variable {entries : List (Key × Entry Payload)} {key other : Key} {entry : Entry Payload}

theorem mem_erase : (other, entry) ∈ erase entries key ↔ (other, entry) ∈ entries ∧ other ≠ key := by
  simp [erase]

theorem erase_sublist (entries : List (Key × Entry Payload)) (key : Key) :
    (erase entries key).Sublist entries :=
  List.filter_sublist

theorem mem_of_find (hfind : find entries key = some entry) : (key, entry) ∈ entries := by
  simp only [find, Option.map_eq_some_iff] at hfind
  obtain ⟨⟨name, value⟩, hfirst, rfl⟩ := hfind
  have hname := List.find?_some hfirst
  have hmem := List.mem_of_find?_eq_some hfirst
  simp only [decide_eq_true_eq] at hname
  exact hname ▸ hmem

theorem find_append_of_notMem (hnotMem : ∀ value, (key, value) ∉ entries) :
    find (entries ++ [(key, entry)]) key = some entry := by
  have hnone : entries.find? (fun item => decide (item.1 = key)) = none := by
    rw [List.find?_eq_none]
    rintro ⟨name, value⟩ hmem
    simp only [decide_eq_true_eq]
    rintro rfl
    exact hnotMem value hmem
  simp [find, List.find?_append, hnone]

end Lookup

section Storing

variable {limit : Nat} {keep : Entry Payload → Bool} {entries : List (Key × Entry Payload)}
  {key other : Key} {entry value : Entry Payload}

omit [DecidableEq Key] in
theorem makeRoom_sublist (limit : Nat) (keep : Entry Payload → Bool)
    (entries : List (Key × Entry Payload)) : (makeRoom limit keep entries).Sublist entries := by
  unfold makeRoom
  split
  · exact List.Sublist.refl _
  · simp only
    split
    · exact List.filter_sublist
    · exact (List.tail_sublist _).trans List.filter_sublist

omit [DecidableEq Key] in
theorem length_makeRoom_lt (hlimit : 0 < limit) (hlength : entries.length ≤ limit) :
    (makeRoom limit keep entries).length < limit := by
  unfold makeRoom
  split
  · assumption
  · simp only
    have hkept : (entries.filter fun item => keep item.2).length ≤ limit :=
      (List.length_filter_le _ _).trans hlength
    split
    · assumption
    · rw [List.length_tail]
      omega

/-- The bound is kept. -/
theorem length_store_le (hlimit : 0 < limit) (hlength : entries.length ≤ limit) :
    (store limit keep entries key entry).length ≤ limit := by
  have herase := ((erase_sublist entries key).length_le).trans hlength
  have hroom : (makeRoom limit keep (erase entries key)).length < limit :=
    length_makeRoom_lt hlimit herase
  rw [store, List.length_append, List.length_singleton]
  exact hroom

/-- After storing, an entry is the new one or an old one under another key. -/
theorem mem_store (hmem : (other, value) ∈ store limit keep entries key entry) :
    (other = key ∧ value = entry) ∨ (other ≠ key ∧ (other, value) ∈ entries) := by
  rw [store, List.mem_append, List.mem_singleton] at hmem
  rcases hmem with hold | hnew
  · have herased := (makeRoom_sublist limit keep _).subset hold
    exact .inr (mem_erase.mp herased).symm
  · exact .inl (Prod.mk.inj hnew)

theorem find_store_self : find (store limit keep entries key entry) key = some entry := by
  apply find_append_of_notMem
  intro value hmem
  exact (mem_erase.mp ((makeRoom_sublist limit keep _).subset hmem)).2 rfl

end Storing

section Fresh

variable {ttl now : ℚ} {entries : List (Key × Entry Payload)} {key : Key}

/-- What a lookup gives is stored, and younger than its time to live. -/
theorem fresh_eq_some {entry : Entry Payload} (hfresh : (fresh ttl now entries key).1 = some entry) :
    (key, entry) ∈ entries ∧ now - entry.timestamp < ttl ∧
      (fresh ttl now entries key).2 = entries := by
  unfold fresh at hfresh ⊢
  cases hfind : find entries key with
  | none => simp [hfind] at hfresh
  | some found =>
      simp only [hfind] at hfresh ⊢
      by_cases hstale : ttl ≤ now - found.timestamp
      · simp [hstale] at hfresh
      · rw [if_neg hstale] at hfresh ⊢
        cases hfresh
        exact ⟨mem_of_find hfind, not_le.mp hstale, rfl⟩

theorem fresh_sublist (ttl now : ℚ) (entries : List (Key × Entry Payload)) (key : Key) :
    (fresh ttl now entries key).2.Sublist entries := by
  unfold fresh
  cases find entries key with
  | none => exact List.Sublist.refl _
  | some found =>
      simp only
      split
      · exact erase_sublist entries key
      · exact List.Sublist.refl _

/-- A lookup without a result finds nothing, or something that has reached its time to live. -/
theorem fresh_eq_none (hfresh : (fresh ttl now entries key).1 = none) :
    find entries key = none ∨ ∃ entry, find entries key = some entry ∧ ttl ≤ now - entry.timestamp := by
  unfold fresh at hfresh
  cases hfind : find entries key with
  | none => exact .inl rfl
  | some found =>
      simp only [hfind] at hfresh
      by_cases hstale : ttl ≤ now - found.timestamp
      · exact .inr ⟨found, rfl, hstale⟩
      · simp [hstale] at hfresh

end Fresh

end DataSluice.Lib.TimedCache
