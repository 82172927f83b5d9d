/-
# Parameters behind a query

Parameters that are appended to the query of a URL change nothing in front of it, and they are
read back behind the ones that were there.
-/

import DataSluice.Lib.UrlRoundTrip
import DataSluice.Lib.UrlHosts

namespace DataSluice.Lib.Url

/-! ## Appending -/

/-- Another query behind a query. -/
def joinQuery (query added : Text) : Text := if query = [] then added else query ++ '&' :: added

/-- A query behind the query of a URL without a fragment. -/
def appendQuery (url added : Text) : Text :=
  let parts := partition '?' url
  if parts.2.1 = false then url ++ '?' :: added
  else if parts.2.2 = [] then url ++ added
  else url ++ '&' :: added

theorem split_ne_nil (separator : Char) (text : Text) : split separator text ≠ [] := by
  cases text with
  | nil => exact List.cons_ne_nil _ _
  | cons character text =>
      rw [split]
      split
      · exact List.cons_ne_nil _ _
      · split <;> exact List.cons_ne_nil _ _

theorem split_append (separator : Char) (text rest : Text) :
    split separator (text ++ separator :: rest) = split separator text ++ split separator rest := by
  induction text with
  | nil => simp [split]
  | cons character text ih =>
      rw [List.cons_append, split, split]
      by_cases hseparator : character = separator
      · rw [if_pos hseparator, if_pos hseparator, ih, List.cons_append]
      · rw [if_neg hseparator, if_neg hseparator, ih]
        cases hparts : split separator text with
        | nil => exact absurd hparts (split_ne_nil separator text)
        | cons first others => rfl

/-- The parameters of both queries are read, one after the other. -/
theorem parseQsl_joinQuery (query added : Text) :
    parseQsl (joinQuery query added) = parseQsl query ++ parseQsl added := by
  rw [joinQuery]
  split
  · next hempty =>
      rw [hempty]
      rfl
  · calc parseQsl (query ++ '&' :: added)
      _ = ((split '&' query ++ split '&' added).filter (· ≠ [])).map _ := by
        rw [parseQsl, split_append]
      _ = parseQsl query ++ parseQsl added := by
        rw [List.filter_append, List.map_append, parseQsl, parseQsl]

/-! ## What is in front of a query -/

/-- No character that `urlsplit` takes out, or strips. -/
def IsClean (text : Text) : Prop := ∀ character ∈ text, 32 < character.val

theorem IsClean.cleaned {text : Text} (hclean : IsClean text) :
    (text.dropWhile fun character => character.val ≤ 32).filter (!isRemoved ·) = text := by
  have hdrop : (text.dropWhile fun character => decide (character.val ≤ 32)) = text := by
    cases text with
    | nil => rfl
    | cons first text =>
        have hfirst := hclean first List.mem_cons_self
        exact List.dropWhile_cons_of_neg (by simpa using hfirst)
  rw [hdrop]
  refine List.filter_eq_self.mpr fun character hmem => ?_
  have hcharacter := hclean character hmem
  rw [isRemoved, Bool.not_eq_true', ← Bool.not_eq_true, List.contains_iff_mem]
  simp only [List.mem_cons, List.not_mem_nil, or_false]
  rintro (rfl | rfl | rfl) <;> exact absurd hcharacter (by decide)

/-- A scheme is read whatever stands behind its colon. -/
theorem splitScheme_colon {scheme : Text} (hcolon : ':' ∉ scheme)
    (hhead : (scheme.head?.map isLetter).getD false = true) (hchars : scheme.all isSchemeChar = true)
    (rest : Text) : splitScheme [] (scheme ++ ':' :: rest) = (scheme.map Char.toLower, rest) := by
  rw [splitScheme, partition_append_cons hcolon]
  exact if_pos (by rw [hhead, hchars]; rfl)

/-- An authority and what stands behind it are all of a text but its slashes. -/
theorem splitAuthority_append {text : Text} (hauthority : (splitAuthority text).1 ≠ []) :
    text = '/' :: '/' :: ((splitAuthority text).1 ++ (splitAuthority text).2) := by
  unfold splitAuthority at hauthority ⊢
  split
  · next rest =>
      simp only
      rw [drop_length_takeWhile, List.takeWhile_append_dropWhile]
  · next hother =>
      split at hauthority
      · exact absurd rfl (hother _)
      · exact absurd rfl hauthority

/-- A URL with an authority, taken apart: whatever stands behind the authority instead, the
scheme and the authority are read back. -/
theorem exists_tail {url : Text} (hclean : IsClean url) (hscheme : (rawParts url).scheme ≠ [])
    (hnetloc : (rawParts url).netloc ≠ []) :
    ∃ front tail, url = front ++ tail ∧ '?' ∉ front ∧
      (∀ character ∈ tail.head?, endsNetloc character = true) ∧
      ∀ other, IsClean (front ++ other) →
        (∀ character ∈ other.head?, endsNetloc character = true) →
          rawParts (front ++ other) =
            splitTail (rawParts url).scheme (rawParts url).netloc other := by
  have hraw : ∀ {text : Text}, IsClean text → rawParts text =
      splitTail (splitScheme [] text).1 (splitAuthority (splitScheme [] text).2).1
        (splitAuthority (splitScheme [] text).2).2 := by
    intro text htext
    rw [rawParts, htext.cleaned]
  rw [hraw hclean] at hscheme hnetloc ⊢
  obtain ⟨scheme, rest, hcolon, htext, hhead, hchars, hsplit⟩ := splitScheme_spec hscheme
  rw [hsplit] at hnetloc ⊢
  obtain ⟨hends, -, hrooted⟩ := splitAuthority_spec rest
  have hauthority : (splitAuthority rest).1 ≠ [] := hnetloc
  have hrest : rest = '/' :: '/' :: ((splitAuthority rest).1 ++ (splitAuthority rest).2) :=
    splitAuthority_append hauthority
  generalize splitAuthority rest = authority at *
  refine ⟨scheme ++ ':' :: '/' :: '/' :: authority.1, authority.2, ?_, ?_, hrooted hauthority, ?_⟩
  · rw [htext, hrest, List.append_assoc]
    rfl
  · rw [List.mem_append, List.mem_cons, List.mem_cons, List.mem_cons]
    rintro (hmem | hmem | hmem | hmem | hmem)
    · exact absurd (List.all_eq_true.mp hchars _ hmem) (by decide)
    · exact absurd hmem (by decide)
    · exact absurd hmem (by decide)
    · exact absurd hmem (by decide)
    · exact absurd (hends _ hmem) (by decide)
  · intro other hother hfirst
    have hwhole : (scheme ++ ':' :: '/' :: '/' :: authority.1) ++ other =
        scheme ++ ':' :: ('/' :: '/' :: (authority.1 ++ other)) := by
      rw [List.append_assoc]
      rfl
    rw [hraw hother, hwhole, splitScheme_colon hcolon hhead hchars]
    simp only
    rw [splitAuthority_slashes authority.1 hends hfirst]
    rfl

/-- A tail without a fragment. -/
theorem splitTail_of_notMem (scheme netloc : Text) {tail : Text} (hhash : '#' ∉ tail) :
    splitTail scheme netloc tail =
      ⟨scheme, netloc, (partition '?' tail).1, (partition '?' tail).2.2, []⟩ := by
  rw [splitTail, partition_of_notMem hhash]

/-- What `appendQuery` writes behind a URL of which the tail is known. -/
theorem exists_appended {front : Text} (hfront : '?' ∉ front) (tail added : Text) :
    ∃ rest, appendQuery (front ++ tail) added = front ++ tail ++ rest ∧
      (∀ character ∈ rest, character = '?' ∨ character = '&' ∨ character ∈ added) ∧
      '?' ∉ (partition '?' tail).1 ∧
      tail ++ rest = (partition '?' tail).1 ++
        '?' :: joinQuery (partition '?' tail).2.2 added := by
  rw [appendQuery, partition_append_left hfront]
  rcases partition_cases '?' tail with ⟨hnone, hparts⟩ | ⟨path, query, hpath, rfl, hparts⟩
  · rw [hparts]
    refine ⟨'?' :: added, if_pos rfl, fun character hmem => ?_, hnone, rfl⟩
    exact (List.mem_cons.mp hmem).imp_right .inr
  · rw [hparts, joinQuery]
    simp only [Bool.true_eq_false, if_false]
    split
    · next hempty =>
        rw [hempty]
        exact ⟨added, rfl, fun _ hmem => .inr (.inr hmem), hpath, by rw [List.append_assoc]; rfl⟩
    · refine ⟨'&' :: added, rfl, fun character hmem => ?_, hpath, by rw [List.append_assoc]; rfl⟩
      exact .inr (List.mem_cons.mp hmem)

/-- What is appended changes nothing but the query. -/
theorem rawParts_appendQuery {url added : Text} (hclean : IsClean (url ++ added))
    (hhash : '#' ∉ url ++ added) (hscheme : (rawParts url).scheme ≠ [])
    (hnetloc : (rawParts url).netloc ≠ []) :
    rawParts (appendQuery url added) =
      { rawParts url with query := joinQuery (rawParts url).query added } := by
  have hurl : IsClean url := fun character hmem => hclean character (List.mem_append_left _ hmem)
  obtain ⟨front, tail, htext, hfront, hends, hread⟩ := exists_tail hurl hscheme hnetloc
  have htail : '#' ∉ tail := fun hmem =>
    hhash (List.mem_append_left _ (htext ▸ List.mem_append_right _ hmem))
  have hwhole := hread tail (htext ▸ hurl) hends
  rw [← htext, splitTail_of_notMem _ _ htail] at hwhole
  obtain ⟨rest, happended, hrest, hpath, hjoined⟩ := exists_appended hfront tail added
  have hkept : ∀ character ∈ tail ++ rest, 32 < character.val ∧ character ≠ '#' := by
    intro character hmem
    rcases List.mem_append.mp hmem with hmem | hmem
    · have hold : character ∈ url := htext ▸ List.mem_append_right _ hmem
      exact ⟨hurl character hold, fun heq => htail (heq ▸ hmem)⟩
    · rcases hrest character hmem with rfl | rfl | hadded
      · decide
      · decide
      · have hnew : character ∈ url ++ added := List.mem_append_right _ hadded
        exact ⟨hclean character hnew, fun heq => hhash (heq ▸ hnew)⟩
  have hfirst : ∀ character ∈ (tail ++ rest).head?, endsNetloc character = true := by
    cases tail with
    | nil =>
        rw [hjoined]
        intro character hhead
        cases hhead
        rfl
    | cons first tail => exact hends
  have hcleaned : IsClean (front ++ (tail ++ rest)) := by
    intro character hmem
    rcases List.mem_append.mp hmem with hmem | hmem
    · exact hurl character (htext ▸ List.mem_append_left _ hmem)
    · exact (hkept character hmem).1
  have hnohash : '#' ∉ tail ++ rest := fun hmem => (hkept _ hmem).2 rfl
  rw [htext, happended, List.append_assoc, hread _ hcleaned hfirst, ← htext,
    splitTail_of_notMem _ _ hnohash, hjoined, partition_append_cons hpath, hwhole]

end DataSluice.Lib.Url
