/-
# JSON text

JSON trees and the text that an ASCII encoder writes for them. The text of a tree
determines the tree, also in front of further text: arrays, objects and strings
close themselves, and a number or a literal ends where a character that continues
neither begins. So texts that are written one after the other can be told apart.

A finite float is given by the decimal text it is written with, which has a point
or an exponent.
-/

import Mathlib.Tactic.IntervalCases
import DataSluice.Lib.Dict

namespace DataSluice.Lib

/-! ## Tokens -/

/-- The characters of numbers and literals. -/
def isTokenChar (character : Char) : Bool :=
  character.isAlphanum || character == '.' || character == '+' || character == '-'

/-- The characters of a finite float. -/
def isFloatChar (character : Char) : Bool :=
  character.isDigit || character == '.' || character == 'e' || character == '+' ||
    character == '-'

/-- The text does not continue a token. -/
def Stops (text : List Char) : Prop := ∀ character ∈ text.head?, isTokenChar character = false

/-- Two tokens in front of text that continues neither are the same. -/
theorem token_append_inj {first second after other : List Char}
    (hfirst : ∀ character ∈ first, isTokenChar character = true)
    (hsecond : ∀ character ∈ second, isTokenChar character = true)
    (hafter : Stops after) (hother : Stops other)
    (happend : first ++ after = second ++ other) : first = second ∧ after = other := by
  induction first generalizing second with
  | nil =>
      cases second with
      | nil => exact ⟨rfl, happend⟩
      | cons character second =>
          rw [List.nil_append] at happend
          have hstop := hafter character (by rw [happend]; rfl)
          rw [hsecond character List.mem_cons_self] at hstop
          cases hstop
  | cons character first ih =>
      cases second with
      | nil =>
          rw [List.nil_append] at happend
          have hstop := hother character (by rw [← happend]; rfl)
          rw [hfirst character List.mem_cons_self] at hstop
          cases hstop
      | cons next second =>
          rw [List.cons_append, List.cons_append, List.cons.injEq] at happend
          obtain ⟨rfl, hrest⟩ := happend
          obtain ⟨rfl, hend⟩ := ih
            (fun other hmem => hfirst other (List.mem_cons_of_mem _ hmem))
            (fun other hmem => hsecond other (List.mem_cons_of_mem _ hmem)) hrest
          exact ⟨rfl, hend⟩

/-- The literals, with the three that stand for non-finite floats. -/
inductive Word
  | null
  | bool (value : Bool)
  | nan
  | infinity
  | negInfinity
  deriving DecidableEq

def Word.text : Word → List Char
  | .null => ['n', 'u', 'l', 'l']
  | .bool true => ['t', 'r', 'u', 'e']
  | .bool false => ['f', 'a', 'l', 's', 'e']
  | .nan => ['N', 'a', 'N']
  | .infinity => ['I', 'n', 'f', 'i', 'n', 'i', 't', 'y']
  | .negInfinity => ['-', 'I', 'n', 'f', 'i', 'n', 'i', 't', 'y']

/-- The text of a finite float. -/
structure FloatText where
  text : List Char
  chars : ∀ character ∈ text, isFloatChar character = true
  marked : '.' ∈ text ∨ 'e' ∈ text
  deriving DecidableEq

/-- The decimal text of an integer. -/
def intText : Int → List Char
  | .ofNat value => Nat.toDigits 10 value
  | .negSucc value => '-' :: Nat.toDigits 10 (value + 1)

/-- What is written as one token. -/
inductive Atom
  | literal (word : Word)
  | int (value : Int)
  | float (value : FloatText)
  deriving DecidableEq

def Atom.text : Atom → List Char
  | .literal word => word.text
  | .int value => intText value
  | .float value => value.text

theorem mem_intText {value : Int} {character : Char} (hmem : character ∈ intText value) :
    character.isDigit = true ∨ character = '-' := by
  cases value with
  | ofNat value => exact .inl (Nat.isDigit_of_mem_toDigits (by decide) (by decide) hmem)
  | negSucc value =>
      rcases List.mem_cons.mp hmem with hsign | hdigit
      · exact .inr hsign
      · exact .inl (Nat.isDigit_of_mem_toDigits (by decide) (by decide) hdigit)

theorem toDigits_injective {first second : Nat}
    (hdigits : Nat.toDigits 10 first = Nat.toDigits 10 second) : first = second := by
  rw [← Nat.ofDigitChars_toDigits (b := 10) (n := first) (by decide) (by decide), hdigits,
    Nat.ofDigitChars_toDigits (by decide) (by decide)]

/-- No digit is a sign, so no number's digits start with one. -/
theorem toDigits_ne_sign (value : Nat) (rest : List Char) : Nat.toDigits 10 value ≠ '-' :: rest := by
  intro hdigits
  have hdigit : ('-' : Char).isDigit = true :=
    Nat.isDigit_of_mem_toDigits (b := 10) (n := value) (by decide) (by decide)
      (by rw [hdigits]; exact List.mem_cons_self)
  cases hdigit

theorem intText_injective {first second : Int} (htext : intText first = intText second) :
    first = second := by
  cases first with
  | ofNat first =>
      cases second with
      | ofNat second => exact congrArg Int.ofNat (toDigits_injective htext)
      | negSucc second => exact absurd htext (toDigits_ne_sign first _)
  | negSucc first =>
      cases second with
      | ofNat second => exact absurd htext.symm (toDigits_ne_sign second _)
      | negSucc second =>
          have hnat := toDigits_injective (List.cons.inj htext).2
          exact congrArg Int.negSucc (Nat.succ.inj hnat)

theorem isFloatChar_intText {value : Int} {character : Char}
    (hmem : character ∈ intText value) : isFloatChar character = true := by
  rcases mem_intText hmem with hdigit | rfl
  · simp [isFloatChar, hdigit]
  · rfl

/-- Each literal has a letter that no number has. -/
theorem Word.exists_letter (word : Word) : ∃ character ∈ word.text, isFloatChar character = false := by
  match word with
  | .null => exact ⟨'n', by decide, by decide⟩
  | .bool true => exact ⟨'t', by decide, by decide⟩
  | .bool false => exact ⟨'f', by decide, by decide⟩
  | .nan => exact ⟨'N', by decide, by decide⟩
  | .infinity => exact ⟨'I', by decide, by decide⟩
  | .negInfinity => exact ⟨'I', by decide, by decide⟩

theorem Word.text_ne {word : Word} {text : List Char}
    (hchars : ∀ character ∈ text, isFloatChar character = true) : word.text ≠ text := by
  rintro rfl
  obtain ⟨character, hmem, hletter⟩ := word.exists_letter
  rw [hchars character hmem] at hletter
  cases hletter

theorem Word.text_injective {first second : Word} (htext : first.text = second.text) :
    first = second := by
  rcases first with _ | (_ | _) | _ | _ | _ <;> rcases second with _ | (_ | _) | _ | _ | _ <;>
    first | rfl | cases htext

/-- An integer has neither a point nor an exponent. -/
theorem intText_ne_float (value : Int) (other : FloatText) : intText value ≠ other.text := by
  intro htext
  rcases other.marked with hpoint | hexponent
  · rw [← htext] at hpoint
    rcases mem_intText hpoint with hdigit | hsign
    · cases hdigit
    · cases hsign
  · rw [← htext] at hexponent
    rcases mem_intText hexponent with hdigit | hsign
    · cases hdigit
    · cases hsign

theorem Atom.text_injective {first second : Atom} (htext : first.text = second.text) :
    first = second := by
  match first, second with
  | .literal first, .literal second => exact congrArg Atom.literal (Word.text_injective htext)
  | .int first, .int second => exact congrArg Atom.int (intText_injective htext)
  | .float ⟨first, _, _⟩, .float ⟨second, _, _⟩ =>
      cases (show first = second from htext)
      rfl
  | .literal _, .int _ => exact absurd htext (Word.text_ne fun _ => isFloatChar_intText)
  | .int _, .literal _ => exact absurd htext.symm (Word.text_ne fun _ => isFloatChar_intText)
  | .literal _, .float other => exact absurd htext (Word.text_ne other.chars)
  | .float other, .literal _ => exact absurd htext.symm (Word.text_ne other.chars)
  | .int value, .float other => exact absurd htext (intText_ne_float value other)
  | .float other, .int value => exact absurd htext.symm (intText_ne_float value other)

theorem isTokenChar_of_isFloatChar {character : Char} (hchar : isFloatChar character = true) :
    isTokenChar character = true := by
  simp only [isFloatChar, Bool.or_eq_true, beq_iff_eq] at hchar
  rcases hchar with (((hdigit | rfl) | rfl) | rfl) | rfl
  · simp [isTokenChar, Char.isAlphanum, hdigit]
  all_goals rfl

theorem Atom.isTokenChar_text (atom : Atom) :
    ∀ character ∈ atom.text, isTokenChar character = true := by
  cases atom with
  | literal word =>
      rcases word with _ | (_ | _) | _ | _ | _ <;> exact List.all_eq_true.mp rfl
  | int value => exact fun _ hmem => isTokenChar_of_isFloatChar (isFloatChar_intText hmem)
  | float value => exact fun _ hmem => isTokenChar_of_isFloatChar (value.chars _ hmem)

theorem Atom.text_ne_nil (atom : Atom) : atom.text ≠ [] := by
  cases atom with
  | literal word => rcases word with _ | (_ | _) | _ | _ | _ <;> exact List.cons_ne_nil _ _
  | int value =>
      cases value with
      | ofNat value => exact Nat.toDigits_ne_nil
      | negSucc value => exact List.cons_ne_nil _ _
  | float value =>
      rcases value.marked with hmem | hmem
      · exact List.ne_nil_of_mem hmem
      · exact List.ne_nil_of_mem hmem

/-- A token starts with a token character. -/
theorem Atom.append_ne_cons (atom : Atom) {character : Char} (hchar : isTokenChar character = false)
    (after other : List Char) : atom.text ++ after ≠ character :: other := by
  intro happend
  cases htext : atom.text with
  | nil => exact atom.text_ne_nil htext
  | cons first rest =>
      rw [htext, List.cons_append, List.cons.injEq] at happend
      have hfirst := atom.isTokenChar_text first (by rw [htext]; exact List.mem_cons_self)
      rw [happend.1, hchar] at hfirst
      cases hfirst

/-! ## Strings -/

/-- Four lower-case hexadecimal digits. -/
def hex4 (value : Nat) : List Char :=
  [Nat.digitChar (value / 4096 % 16), Nat.digitChar (value / 256 % 16),
    Nat.digitChar (value / 16 % 16), Nat.digitChar (value % 16)]

/-- A UTF-16 code unit as an escape. -/
def unicodeEscape (value : Nat) : List Char := '\\' :: 'u' :: hex4 value

/-- The escapes with a letter or a sign of their own. -/
def shortEscape (character : Char) : Option Char :=
  [('"', '"'), ('\\', '\\'), ('\n', 'n'), ('\r', 'r'), ('\t', 't'), (Char.ofNat 12, 'f'),
    (Char.ofNat 8, 'b')].lookup character

/-- One character of a string as an ASCII encoder writes it: printable ASCII stands for
itself, and a character outside the basic plane is a surrogate pair. -/
def escapeChar (character : Char) : List Char :=
  match shortEscape character with
  | some letter => ['\\', letter]
  | none =>
      if 32 ≤ character.toNat ∧ character.toNat ≤ 126 then [character]
      else if character.toNat < 0x10000 then unicodeEscape character.toNat
      else
        unicodeEscape (0xD800 + (character.toNat - 0x10000) / 0x400) ++
          unicodeEscape (0xDC00 + (character.toNat - 0x10000) % 0x400)

/-- The value of a hexadecimal digit. -/
def hexValue (digit : Char) : Nat :=
  if digit.toNat < 58 then digit.toNat - 48 else digit.toNat - 87

theorem hexValue_digitChar {value : Nat} (hvalue : value < 16) :
    hexValue (Nat.digitChar value) = value := by
  interval_cases value <;> rfl

/-- The value of four hexadecimal digits. -/
def hexValue4 (first second third fourth : Char) : Nat :=
  ((hexValue first * 16 + hexValue second) * 16 + hexValue third) * 16 + hexValue fourth

theorem hexValue4_hex4 {value : Nat} (hvalue : value < 0x10000) :
    hexValue4 (Nat.digitChar (value / 4096 % 16)) (Nat.digitChar (value / 256 % 16))
      (Nat.digitChar (value / 16 % 16)) (Nat.digitChar (value % 16)) = value := by
  simp only [hexValue4, hexValue_digitChar (Nat.mod_lt _ (by decide : 0 < 16))]
  omega

/-- Read one character back from the front of a text. -/
def readChar : List Char → Option (Char × List Char)
  | '\\' :: 'u' :: a :: b :: c :: d :: rest =>
      let unit := hexValue4 a b c d
      if 0xD800 ≤ unit ∧ unit < 0xDC00 then
        match rest with
        | '\\' :: 'u' :: e :: f :: g :: h :: rest =>
            some (Char.ofNat (0x10000 + (unit - 0xD800) * 0x400 + (hexValue4 e f g h - 0xDC00)),
              rest)
        | _ => none
      else some (Char.ofNat unit, rest)
  | '\\' :: 'n' :: rest => some ('\n', rest)
  | '\\' :: 'r' :: rest => some ('\r', rest)
  | '\\' :: 't' :: rest => some ('\t', rest)
  | '\\' :: 'f' :: rest => some (Char.ofNat 12, rest)
  | '\\' :: 'b' :: rest => some (Char.ofNat 8, rest)
  | '\\' :: character :: rest => some (character, rest)
  | character :: rest => some (character, rest)
  | [] => none

theorem readChar_of_ne {character : Char} (hne : character ≠ '\\') (rest : List Char) :
    readChar (character :: rest) = some (character, rest) := by
  unfold readChar
  split <;> simp_all

theorem readChar_unicodeEscape {value : Nat} (hvalue : value < 0x10000)
    (hplain : value < 0xD800 ∨ 0xDC00 ≤ value) (rest : List Char) :
    readChar (unicodeEscape value ++ rest) = some (Char.ofNat value, rest) := by
  simp only [unicodeEscape, hex4, List.cons_append, List.nil_append, readChar,
    hexValue4_hex4 hvalue]
  rw [if_neg (by omega)]

theorem readChar_surrogates {high low : Nat} (hhigh : high < 0x400) (hlow : low < 0x400)
    (rest : List Char) :
    readChar (unicodeEscape (0xD800 + high) ++ (unicodeEscape (0xDC00 + low) ++ rest)) =
      some (Char.ofNat (0x10000 + high * 0x400 + low), rest) := by
  have hfirst : 0xD800 + high < 0x10000 := by omega
  have hsecond : 0xDC00 + low < 0x10000 := by omega
  simp only [unicodeEscape, hex4, List.cons_append, List.nil_append, readChar,
    hexValue4_hex4 hfirst, hexValue4_hex4 hsecond]
  rw [if_pos (by omega)]
  have hunits : 0x10000 + (0xD800 + high - 0xD800) * 0x400 + (0xDC00 + low - 0xDC00) =
      0x10000 + high * 0x400 + low := by omega
  rw [hunits]

/-- A character is read back from its escape, whatever follows. -/
theorem readChar_escapeChar (character : Char) (rest : List Char) :
    readChar (escapeChar character ++ rest) = some (character, rest) := by
  by_cases hshort : character ∈ ['"', '\\', '\n', '\r', '\t', Char.ofNat 12, Char.ofNat 8]
  · simp only [List.mem_cons, List.not_mem_nil, or_false] at hshort
    rcases hshort with rfl | rfl | rfl | rfl | rfl | rfl | rfl <;> rfl
  · have hnone : shortEscape character = none := by
      simpa [shortEscape, List.lookup_eq_none_iff] using hshort
    have hslash : character ≠ '\\' := by
      rintro rfl
      exact hshort (by decide)
    have hvalid := character.valid
    rw [escapeChar, hnone]
    simp only
    split
    · exact readChar_of_ne hslash rest
    · split
      · next hsmall =>
          rw [readChar_unicodeEscape hsmall, Char.ofNat_toNat]
          rcases hvalid with hlow | ⟨hlow, _⟩
          · exact .inl hlow
          · exact .inr (by
              have : 0xDFFF < character.toNat := hlow
              omega)
      · next hlarge =>
          have hbound : character.toNat < 0x110000 := by
            rcases hvalid with hlow | ⟨_, hhigh⟩
            · have : character.toNat < 0xD800 := hlow
              omega
            · exact hhigh
          rw [List.append_assoc, readChar_surrogates (by omega) (by omega)]
          have hsum : 0x10000 + (character.toNat - 0x10000) / 0x400 * 0x400 +
              (character.toNat - 0x10000) % 0x400 = character.toNat := by omega
          rw [hsum, Char.ofNat_toNat]

/-- A character's escape in front of any text determines the character. -/
theorem escapeChar_append_inj {first second : Char} {after other : List Char}
    (happend : escapeChar first ++ after = escapeChar second ++ other) :
    first = second ∧ after = other := by
  have hread := congrArg readChar happend
  rw [readChar_escapeChar, readChar_escapeChar, Option.some.injEq, Prod.mk.injEq] at hread
  exact hread

/-- No escape starts with the quote that ends a string. -/
theorem escapeChar_append_ne_quote (character : Char) (after other : List Char) :
    escapeChar character ++ after ≠ '"' :: other := by
  intro happend
  have hread := congrArg readChar happend
  rw [readChar_escapeChar, readChar_of_ne (by decide), Option.some.injEq, Prod.mk.injEq] at hread
  rw [hread.1] at happend
  cases happend

/-- A string literal. -/
def quote (text : String) : List Char := '"' :: (text.toList.flatMap escapeChar ++ ['"'])

theorem escaped_append_inj {first second after other : List Char}
    (happend : first.flatMap escapeChar ++ '"' :: after =
      second.flatMap escapeChar ++ '"' :: other) : first = second ∧ after = other := by
  induction first generalizing second with
  | nil =>
      cases second with
      | nil => exact ⟨rfl, (List.cons.inj happend).2⟩
      | cons character second =>
          rw [List.flatMap_cons, List.append_assoc] at happend
          exact absurd happend.symm (escapeChar_append_ne_quote character _ _)
  | cons character first ih =>
      cases second with
      | nil =>
          rw [List.flatMap_cons, List.append_assoc] at happend
          exact absurd happend (escapeChar_append_ne_quote character _ _)
      | cons next second =>
          rw [List.flatMap_cons, List.flatMap_cons, List.append_assoc, List.append_assoc] at happend
          obtain ⟨rfl, hrest⟩ := escapeChar_append_inj happend
          obtain ⟨rfl, hend⟩ := ih hrest
          exact ⟨rfl, hend⟩

/-- A string literal ends itself. -/
theorem quote_append_inj {first second : String} {after other : List Char}
    (happend : quote first ++ after = quote second ++ other) :
    first = second ∧ after = other := by
  simp only [quote, List.cons_append, List.append_assoc, List.nil_append, List.cons.injEq,
    true_and] at happend
  obtain ⟨htext, hend⟩ := escaped_append_inj happend
  exact ⟨String.toList_injective htext, hend⟩

/-! ## Trees -/

/-- A JSON value. The entries of an object are in the order they are written in. -/
inductive Json
  | atom (atom : Atom)
  | string (text : String)
  | array (items : List Json)
  | object (entries : List (String × Json))

namespace Json

mutual

/-- The text of a value, with `gap` after each comma and colon. -/
def render (gap : List Char) : Json → List Char
  | .atom token => token.text
  | .string text => quote text
  | .array [] => ['[', ']']
  | .array (item :: items) => '[' :: (render gap item ++ renderItems gap items)
  | .object [] => ['{', '}']
  | .object ((key, value) :: entries) =>
      '{' :: (quote key ++ ':' :: (gap ++ (render gap value ++ renderEntries gap entries)))

/-- The items after the first, and the bracket. -/
def renderItems (gap : List Char) : List Json → List Char
  | [] => [']']
  | item :: items => ',' :: (gap ++ (render gap item ++ renderItems gap items))

/-- The entries after the first, and the brace. -/
def renderEntries (gap : List Char) : List (String × Json) → List Char
  | [] => ['}']
  | (key, value) :: entries =>
      ',' :: (gap ++ (quote key ++ ':' :: (gap ++ (render gap value ++ renderEntries gap entries))))

end

theorem stops_renderItems (gap : List Char) (items : List Json) (after : List Char) :
    Stops (renderItems gap items ++ after) := by
  cases items with
  | nil =>
      rintro _ ⟨⟩
      rfl
  | cons item items =>
      rw [renderItems]
      rintro _ ⟨⟩
      rfl

theorem stops_renderEntries (gap : List Char) (entries : List (String × Json))
    (after : List Char) : Stops (renderEntries gap entries ++ after) := by
  cases entries with
  | nil =>
      rintro _ ⟨⟩
      rfl
  | cons entry entries =>
      obtain ⟨key, value⟩ := entry
      rw [renderEntries]
      rintro _ ⟨⟩
      rfl

/-- The first character of a value is not the bracket that closes an array. -/
theorem render_append_ne_bracket (gap : List Char) (value : Json) (after other : List Char) :
    render gap value ++ after ≠ ']' :: other := by
  match value with
  | .atom token => exact token.append_ne_cons rfl after other
  | .string text =>
      rw [render, quote]
      intro happend
      cases happend
  | .array [] | .array (_ :: _) | .object [] | .object ((_, _) :: _) =>
      rw [render]
      intro happend
      cases happend

mutual

/-- The text of a value, in front of text that continues no token, determines it. -/
theorem render_append_inj (gap : List Char) (first second : Json) {after other : List Char}
    (hafter : Stops after) (hother : Stops other)
    (happend : render gap first ++ after = render gap second ++ other) :
    first = second ∧ after = other := by
  match first, second with
  | .atom first, .atom second =>
      rw [render, render] at happend
      obtain ⟨htext, hend⟩ := token_append_inj first.isTokenChar_text second.isTokenChar_text
        hafter hother happend
      exact ⟨congrArg Json.atom (Atom.text_injective htext), hend⟩
  | .string first, .string second =>
      rw [render, render] at happend
      obtain ⟨rfl, hend⟩ := quote_append_inj happend
      exact ⟨rfl, hend⟩
  | .array [], .array [] =>
      rw [render] at happend
      exact ⟨rfl, List.append_cancel_left happend⟩
  | .array [], .array (item :: items) =>
      simp only [render, List.cons_append, List.nil_append, List.cons.injEq, true_and,
        List.append_assoc] at happend
      exact absurd happend.symm (render_append_ne_bracket gap item _ _)
  | .array (item :: items), .array [] =>
      simp only [render, List.cons_append, List.nil_append, List.cons.injEq, true_and,
        List.append_assoc] at happend
      exact absurd happend (render_append_ne_bracket gap item _ _)
  | .array (item :: items), .array (next :: others) =>
      simp only [render, List.cons_append, List.cons.injEq, true_and, List.append_assoc] at happend
      obtain ⟨rfl, hrest⟩ := render_append_inj gap item next (stops_renderItems gap items after)
        (stops_renderItems gap others other) happend
      obtain ⟨rfl, hend⟩ := renderItems_append_inj gap items others hrest
      exact ⟨rfl, hend⟩
  | .object [], .object [] =>
      rw [render] at happend
      exact ⟨rfl, List.append_cancel_left happend⟩
  | .object [], .object ((key, value) :: entries) | .object ((key, value) :: entries), .object [] =>
      simp only [render, quote, List.cons_append, List.nil_append, List.cons.injEq, true_and] at happend
      exact absurd happend.1 (by decide)
  | .object ((key, value) :: entries), .object ((name, field) :: others) =>
      simp only [render, List.cons_append, List.cons.injEq, true_and, List.append_assoc] at happend
      obtain ⟨rfl, hrest⟩ := quote_append_inj happend
      rw [List.cons.injEq, List.append_cancel_left_eq] at hrest
      obtain ⟨rfl, hentries⟩ := render_append_inj gap value field
        (stops_renderEntries gap entries after) (stops_renderEntries gap others other) hrest.2
      obtain ⟨rfl, hend⟩ := renderEntries_append_inj gap entries others hentries
      exact ⟨rfl, hend⟩
  | .atom token, .string _ | .atom token, .array [] | .atom token, .array (_ :: _) |
    .atom token, .object [] | .atom token, .object ((_, _) :: _) =>
      simp only [render, quote, List.cons_append] at happend
      exact absurd happend (token.append_ne_cons rfl _ _)
  | .string _, .atom token | .array [], .atom token | .array (_ :: _), .atom token |
    .object [], .atom token | .object ((_, _) :: _), .atom token =>
      simp only [render, quote, List.cons_append] at happend
      exact absurd happend.symm (token.append_ne_cons rfl _ _)
  | .string _, .array [] | .string _, .array (_ :: _) | .string _, .object [] |
    .string _, .object ((_, _) :: _) | .array [], .string _ | .array (_ :: _), .string _ |
    .object [], .string _ | .object ((_, _) :: _), .string _ | .array [], .object [] |
    .array [], .object ((_, _) :: _) | .array (_ :: _), .object [] |
    .array (_ :: _), .object ((_, _) :: _) | .object [], .array [] | .object [], .array (_ :: _) |
    .object ((_, _) :: _), .array [] | .object ((_, _) :: _), .array (_ :: _) =>
      simp only [render, quote, List.cons_append, List.cons.injEq] at happend
      exact absurd happend.1 (by decide)

theorem renderItems_append_inj (gap : List Char) (first second : List Json)
    {after other : List Char}
    (happend : renderItems gap first ++ after = renderItems gap second ++ other) :
    first = second ∧ after = other := by
  match first, second with
  | [], [] =>
      rw [renderItems] at happend
      exact ⟨rfl, List.append_cancel_left happend⟩
  | [], item :: items | item :: items, [] =>
      simp only [renderItems, List.cons_append, List.cons.injEq] at happend
      exact absurd happend.1 (by decide)
  | item :: items, next :: others =>
      simp only [renderItems, List.cons_append, List.cons.injEq, true_and, List.append_assoc,
        List.append_cancel_left_eq] at happend
      obtain ⟨rfl, hrest⟩ := render_append_inj gap item next (stops_renderItems gap items after)
        (stops_renderItems gap others other) happend
      obtain ⟨rfl, hend⟩ := renderItems_append_inj gap items others hrest
      exact ⟨rfl, hend⟩

theorem renderEntries_append_inj (gap : List Char) (first second : List (String × Json))
    {after other : List Char}
    (happend : renderEntries gap first ++ after = renderEntries gap second ++ other) :
    first = second ∧ after = other := by
  match first, second with
  | [], [] =>
      rw [renderEntries] at happend
      exact ⟨rfl, List.append_cancel_left happend⟩
  | [], (key, value) :: entries | (key, value) :: entries, [] =>
      simp only [renderEntries, List.cons_append, List.cons.injEq] at happend
      exact absurd happend.1 (by decide)
  | (key, value) :: entries, (name, field) :: others =>
      simp only [renderEntries, List.cons_append, List.cons.injEq, true_and, List.append_assoc,
        List.append_cancel_left_eq] at happend
      obtain ⟨rfl, hrest⟩ := quote_append_inj happend
      rw [List.cons.injEq, List.append_cancel_left_eq] at hrest
      obtain ⟨rfl, hentries⟩ := render_append_inj gap value field
        (stops_renderEntries gap entries after) (stops_renderEntries gap others other) hrest.2
      obtain ⟨rfl, hend⟩ := renderEntries_append_inj gap entries others hentries
      exact ⟨rfl, hend⟩

end

/-! ## Sorted keys -/

mutual

/-- The value with the entries of its objects sorted, at every depth. -/
def sortKeys : Json → Json
  | .atom token => .atom token
  | .string text => .string text
  | .array items => .array (sortKeysItems items)
  | .object entries => .object (sortEntries (sortKeysEntries entries))

def sortKeysItems : List Json → List Json
  | [] => []
  | item :: items => sortKeys item :: sortKeysItems items

def sortKeysEntries : List (String × Json) → List (String × Json)
  | [] => []
  | (key, value) :: entries => (key, sortKeys value) :: sortKeysEntries entries

end

end Json

end DataSluice.Lib
