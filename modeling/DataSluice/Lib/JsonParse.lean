/-
# Reading JSON text back

A reader of the text that `Json.render` writes. It undoes the writing of a tree with any gap
behind commas and colons, in front of text that continues no token. On other text it answers
whatever it answers: who wants to know that a text was written so renders the answer again.
-/

import DataSluice.Lib.JsonText

namespace DataSluice.Lib

/-! ## Tokens -/

/-- The number that a decimal text stands for. -/
def intOfText : List Char → Int
  | '-' :: digits => -(Nat.ofDigitChars 10 digits 0 : Int)
  | digits => Nat.ofDigitChars 10 digits 0

theorem intOfText_intText (value : Int) : intOfText (intText value) = value := by
  have hread : ∀ value, Nat.ofDigitChars 10 (Nat.toDigits 10 value) 0 = value :=
    fun value => Nat.ofDigitChars_toDigits (by decide) (by decide)
  cases value with
  | ofNat value =>
      have hsign := toDigits_ne_sign value
      rw [intText, intOfText]
      · rw [hread]
        rfl
      · exact fun digits => hsign digits
  | negSucc value =>
      rw [intText, intOfText, hread]
      rfl

/-- The literals. -/
def Word.all : List Word := [.null, .bool true, .bool false, .nan, .infinity, .negInfinity]

/-- What a token stands for. -/
def readAtom (token : List Char) : Option Atom :=
  match Word.all.find? fun word => word.text == token with
  | some word => some (.literal word)
  | none =>
      if hfloat : token.all isFloatChar = true ∧ ('.' ∈ token ∨ 'e' ∈ token) then
        some (.float ⟨token, List.all_eq_true.mp hfloat.1, hfloat.2⟩)
      else some (.int (intOfText token))

theorem readAtom_text (atom : Atom) : readAtom atom.text = some atom := by
  have hnumber : ∀ token : List Char, (∀ character ∈ token, isFloatChar character = true) →
      Word.all.find? (fun word => word.text == token) = none := by
    intro token hchars
    apply List.find?_eq_none.mpr
    intro word _
    simpa using Word.text_ne hchars
  cases atom with
  | literal word => rcases word with _ | (_ | _) | _ | _ | _ <;> rfl
  | int value =>
      have hunmarked : ¬ ((intText value).all isFloatChar = true ∧
          ('.' ∈ intText value ∨ 'e' ∈ intText value)) := by
        intro hfloat
        exact intText_ne_float value ⟨intText value, List.all_eq_true.mp hfloat.1, hfloat.2⟩ rfl
      rw [Atom.text, readAtom, hnumber _ fun _ => isFloatChar_intText]
      simp only [dif_neg hunmarked, intOfText_intText]
  | float value =>
      rw [Atom.text, readAtom, hnumber _ value.chars]
      simp only [dif_pos (And.intro (List.all_eq_true.mpr value.chars) value.marked)]

/-- A token ends where the text behind it begins. -/
theorem span_token {token after : List Char}
    (htoken : ∀ character ∈ token, isTokenChar character = true) (hafter : Stops after) :
    (token ++ after).takeWhile isTokenChar = token ∧
      (token ++ after).dropWhile isTokenChar = after := by
  have hstop : after.takeWhile isTokenChar = [] ∧ after.dropWhile isTokenChar = after := by
    cases after with
    | nil => exact ⟨rfl, rfl⟩
    | cons character after =>
        have hhead : isTokenChar character = false := hafter character rfl
        simp [hhead]
  rw [List.takeWhile_append_of_pos htoken, List.dropWhile_append_of_pos htoken, hstop.1, hstop.2,
    List.append_nil]
  exact ⟨rfl, rfl⟩

/-! ## Strings -/

/-- The characters up to the quote, and what is behind it. -/
def readChars : Nat → List Char → Option (List Char × List Char)
  | 0, _ => none
  | _ + 1, '"' :: rest => some ([], rest)
  | fuel + 1, text =>
      match readChar text with
      | none => none
      | some (character, rest) =>
          (readChars fuel rest).map fun read => (character :: read.1, read.2)

theorem readChars_escaped {characters : List Char} {fuel : Nat} (hfuel : characters.length < fuel)
    (after : List Char) :
    readChars fuel (characters.flatMap escapeChar ++ '"' :: after) = some (characters, after) := by
  induction characters generalizing fuel with
  | nil =>
      cases fuel with
      | zero => cases hfuel
      | succ fuel => rfl
  | cons character characters ih =>
      cases fuel with
      | zero => cases hfuel
      | succ fuel =>
          rw [List.flatMap_cons, List.append_assoc, readChars]
          · rw [readChar_escapeChar]
            simp only [ih (Nat.lt_of_succ_lt_succ hfuel), Option.map_some]
          · exact fun rest => escapeChar_append_ne_quote character _ rest

/-- A string behind its opening quote. -/
def readString (text : List Char) : Option (String × List Char) :=
  (readChars (text.length + 1) text).map fun read => (String.ofList read.1, read.2)

theorem length_flatMap_escapeChar (characters : List Char) :
    characters.length ≤ (characters.flatMap escapeChar).length := by
  induction characters with
  | nil => exact Nat.le_refl _
  | cons character characters ih =>
      have hne : escapeChar character ≠ [] := by
        intro hempty
        have hread := readChar_escapeChar character []
        rw [hempty] at hread
        cases hread
      have hpos := List.length_pos_iff.mpr hne
      rw [List.flatMap_cons, List.length_append, List.length_cons]
      omega

theorem readString_quote (text : String) (after : List Char) :
    readString (text.toList.flatMap escapeChar ++ '"' :: after) = some (text, after) := by
  have hlength := length_flatMap_escapeChar text.toList
  rw [readString, readChars_escaped]
  · simp
  · rw [List.length_append]
    omega

/-! ## Trees -/

namespace Json

mutual

/-- A value at the front of a text, and what is behind it. -/
def read (gap : List Char) : Nat → List Char → Option (Json × List Char)
  | 0, _ => none
  | fuel + 1, text =>
      match text with
      | '"' :: rest => (readString rest).map fun found => (.string found.1, found.2)
      | '[' :: ']' :: rest => some (.array [], rest)
      | '[' :: rest => do
          let (item, rest) ← read gap fuel rest
          let (items, rest) ← readItems gap fuel rest
          return (.array (item :: items), rest)
      | '{' :: '}' :: rest => some (.object [], rest)
      | '{' :: rest => do
          let (entry, rest) ← readEntry gap fuel rest
          let (entries, rest) ← readEntries gap fuel rest
          return (.object (entry :: entries), rest)
      | text =>
          (readAtom (text.takeWhile isTokenChar)).map fun token =>
            (.atom token, text.dropWhile isTokenChar)

/-- The items behind the first one, up to the bracket. -/
def readItems (gap : List Char) : Nat → List Char → Option (List Json × List Char)
  | 0, _ => none
  | _ + 1, ']' :: rest => some ([], rest)
  | fuel + 1, ',' :: rest => do
      let (item, rest) ← read gap fuel (rest.drop gap.length)
      let (items, rest) ← readItems gap fuel rest
      return (item :: items, rest)
  | _ + 1, _ => none

/-- An entry, from the quote of its key on. -/
def readEntry (gap : List Char) : Nat → List Char → Option ((String × Json) × List Char)
  | 0, _ => none
  | fuel + 1, '"' :: rest => do
      let (key, rest) ← readString rest
      let (value, rest) ← read gap fuel (rest.drop (gap.length + 1))
      return ((key, value), rest)
  | _ + 1, _ => none

/-- The entries behind the first one, up to the brace. -/
def readEntries (gap : List Char) : Nat → List Char → Option (List (String × Json) × List Char)
  | 0, _ => none
  | _ + 1, '}' :: rest => some ([], rest)
  | fuel + 1, ',' :: rest => do
      let (entry, rest) ← readEntry gap fuel (rest.drop gap.length)
      let (entries, rest) ← readEntries gap fuel rest
      return (entry :: entries, rest)
  | _ + 1, _ => none

end

theorem read_atom (gap : List Char) (fuel : Nat) (token : Atom) {after : List Char}
    (hafter : Stops after) :
    read gap (fuel + 1) (token.text ++ after) = some (.atom token, after) := by
  have hspan := span_token token.isTokenChar_text hafter
  rw [read, hspan.1, hspan.2, readAtom_text, Option.map_some]
  · exact fun rest => token.append_ne_cons rfl after rest
  · exact fun rest => token.append_ne_cons rfl after _
  · exact fun rest => token.append_ne_cons rfl after rest
  · exact fun rest => token.append_ne_cons rfl after _
  · exact fun rest => token.append_ne_cons rfl after rest

theorem length_quote (key : String) : 2 ≤ (quote key).length := by
  rw [quote, List.length_cons, List.length_append, List.length_singleton]
  omega

/-- An entry is read when its value is. -/
theorem readEntry_of_read {gap rest after : List Char} {value : Json} {fuel : Nat}
    (hvalue : read gap fuel rest = some (value, after)) (key : String) :
    readEntry gap (fuel + 1) (quote key ++ ':' :: (gap ++ rest)) = some ((key, value), after) := by
  simp only [quote, List.cons_append, List.append_assoc, List.nil_append, readEntry,
    readString_quote, Option.bind_eq_bind, Option.bind_some, List.drop_succ_cons,
    List.drop_left, hvalue, Option.pure_def]

mutual

/-- What is written is read, when there is fuel for each character. -/
theorem read_render (gap : List Char) (value : Json) (fuel : Nat) (after : List Char)
    (hfuel : (render gap value).length < fuel) (hafter : Stops after) :
    read gap fuel (render gap value ++ after) = some (value, after) := by
  match fuel, value with
  | fuel + 1, .atom token =>
      rw [render]
      exact read_atom gap fuel token hafter
  | fuel + 1, .string text =>
      rw [render, quote, List.cons_append, List.append_assoc, read]
      simp only [List.singleton_append, readString_quote, Option.map_some]
  | fuel + 1, .array [] => rfl
  | fuel + 1, .array (item :: items) =>
      rw [render, List.length_cons, List.length_append] at hfuel
      have hitem := read_render gap item fuel (renderItems gap items ++ after) (by omega)
        (stops_renderItems gap items after)
      have hitems := readItems_render gap items fuel after (by omega)
      rw [render, List.cons_append, List.append_assoc, read]
      · simp only [hitem, hitems, Option.bind_eq_bind, Option.bind_some, Option.pure_def]
      · exact fun rest => render_append_ne_bracket gap item _ rest
  | fuel + 1, .object [] => rfl
  | fuel + 1, .object ((key, value) :: entries) =>
      simp only [render, List.length_cons, List.length_append] at hfuel
      have hkey := length_quote key
      cases fuel with
      | zero => omega
      | succ fuel =>
          have hvalue := read_render gap value fuel (renderEntries gap entries ++ after)
            (by omega) (stops_renderEntries gap entries after)
          have hentry := readEntry_of_read hvalue key
          have hentries := readEntries_render gap entries (fuel + 1) after (by omega)
          simp only [render, List.cons_append, List.append_assoc]
          rw [read]
          · simp only [hentry, hentries, Option.bind_eq_bind, Option.bind_some, Option.pure_def]
          · intro rest hbrace
            rw [quote, List.cons_append, List.cons.injEq] at hbrace
            exact absurd hbrace.1 (by decide)

theorem readItems_render (gap : List Char) (items : List Json) (fuel : Nat) (after : List Char)
    (hfuel : (renderItems gap items).length < fuel) :
    readItems gap fuel (renderItems gap items ++ after) = some (items, after) := by
  match fuel, items with
  | fuel + 1, [] => rfl
  | fuel + 1, item :: items =>
      simp only [renderItems, List.length_cons, List.length_append] at hfuel
      have hitem := read_render gap item fuel (renderItems gap items ++ after) (by omega)
        (stops_renderItems gap items after)
      have hitems := readItems_render gap items fuel after (by omega)
      simp only [renderItems, List.cons_append, List.append_assoc, readItems, List.drop_left,
        hitem, hitems, Option.bind_eq_bind, Option.bind_some, Option.pure_def]

theorem readEntries_render (gap : List Char) (entries : List (String × Json)) (fuel : Nat)
    (after : List Char) (hfuel : (renderEntries gap entries).length < fuel) :
    readEntries gap fuel (renderEntries gap entries ++ after) = some (entries, after) := by
  match fuel, entries with
  | fuel + 1, [] => rfl
  | fuel + 1, (key, value) :: entries =>
      simp only [renderEntries, List.length_cons, List.length_append] at hfuel
      have hkey := length_quote key
      cases fuel with
      | zero => omega
      | succ fuel =>
          have hvalue := read_render gap value fuel (renderEntries gap entries ++ after)
            (by omega) (stops_renderEntries gap entries after)
          have hentry := readEntry_of_read hvalue key
          have hentries := readEntries_render gap entries (fuel + 1) after (by omega)
          simp only [renderEntries, List.cons_append, List.append_assoc, readEntries,
            List.drop_left, hentry, hentries, Option.bind_eq_bind, Option.bind_some,
            Option.pure_def]

end

/-- The tree that a whole text was written from, if there is one. -/
def ofText (gap text : List Char) : Option Json :=
  ((read gap (text.length + 1) text).map Prod.fst).filter fun value => render gap value == text

theorem ofText_render (gap : List Char) (value : Json) :
    ofText gap (render gap value) = some value := by
  have hstop : Stops ([] : List Char) := fun _ hnone => by cases hnone
  have hread := read_render gap value _ [] (Nat.lt_succ_self _) hstop
  rw [List.append_nil] at hread
  rw [ofText, hread]
  simp [Option.filter]

end Json

end DataSluice.Lib
