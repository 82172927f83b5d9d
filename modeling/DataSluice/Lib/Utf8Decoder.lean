/-
# Decoding UTF-8 piece by piece

A strict incremental decoder refuses a byte as soon as no text can go on with it, and keeps what
there is of a character until the rest of it comes. It is given here by what it still waits for:
how many bytes of the character, and between which bounds the next one lies.

Decoding a sequence of pieces is decoding what they are together, and what is decoded to its end is
the bytes of a text.
-/

import DataSluice.Lib.Utf8

namespace DataSluice.Lib.Utf8

/-- What an incremental decoder waits for. -/
structure Decoder where
  /-- The bytes of the character that are still to come. -/
  remaining : Nat := 0
  low : UInt8 := 0x80
  high : UInt8 := 0xBF
  deriving DecidableEq

namespace Decoder

/-! ## Steps -/

/-- A byte that a character starts with. -/
def first (byte : UInt8) : Option Decoder :=
  if byte < 0x80 then some {}
  else if byte < 0xC2 then none
  else if byte < 0xE0 then some { remaining := 1 }
  else if byte = 0xE0 then some { remaining := 2, low := 0xA0 }
  else if byte = 0xED then some { remaining := 2, high := 0x9F }
  else if byte < 0xF0 then some { remaining := 2 }
  else if byte = 0xF0 then some { remaining := 3, low := 0x90 }
  else if byte < 0xF4 then some { remaining := 3 }
  else if byte = 0xF4 then some { remaining := 3, high := 0x8F }
  else none

/-- One byte. -/
def step (decoder : Decoder) (byte : UInt8) : Option Decoder :=
  match decoder.remaining with
  | 0 => first byte
  | remaining + 1 =>
      if decoder.low ≤ byte ∧ byte ≤ decoder.high then some { remaining } else none

/-- `decoder.decode(piece)` -/
def decode (decoder : Decoder) (piece : List UInt8) : Option Decoder := piece.foldlM step decoder

/-- `decoder.decode(b"", final=True)` returns. -/
def isDone (decoder : Decoder) : Bool := decoder.remaining == 0

/-- Decode pieces, one after the other. -/
def decodeAll (decoder : Decoder) (pieces : List (List UInt8)) : Option Decoder :=
  pieces.foldlM decode decoder

@[simp] theorem decode_nil (decoder : Decoder) : decoder.decode [] = some decoder := rfl

theorem decode_cons (decoder : Decoder) (byte : UInt8) (rest : List UInt8) :
    decoder.decode (byte :: rest) = (decoder.step byte).bind fun next => next.decode rest := rfl

theorem decode_append (decoder : Decoder) (piece other : List UInt8) :
    decoder.decode (piece ++ other) = (decoder.decode piece).bind fun next => next.decode other :=
  List.foldlM_append

/-- Pieces are decoded as what they are together. -/
theorem decodeAll_eq (decoder : Decoder) (pieces : List (List UInt8)) :
    decoder.decodeAll pieces = decoder.decode pieces.flatten := by
  induction pieces generalizing decoder with
  | nil => rfl
  | cons piece pieces ih =>
      rw [List.flatten_cons, decode_append]
      show (decoder.decode piece).bind (fun next => next.decodeAll pieces) = _
      cases decoder.decode piece with
      | none => rfl
      | some next => exact ih next

/-! ## What is decoded to its end -/

/-- A decoder that waits for a byte is done only behind one within its bounds. -/
theorem exists_of_decode {remaining : Nat} {low high : UInt8} {bytes : List UInt8} {last : Decoder}
    (hlast : decode ⟨remaining + 1, low, high⟩ bytes = some last) (hdone : last.isDone = true) :
    ∃ byte rest, bytes = byte :: rest ∧ low ≤ byte ∧ byte ≤ high ∧
      decode { remaining } rest = some last := by
  cases bytes with
  | nil =>
      cases hlast
      cases hdone
  | cons byte rest =>
      rw [decode_cons] at hlast
      simp only [step] at hlast
      split at hlast
      · next hbounds => exact ⟨byte, rest, rfl, hbounds.1, hbounds.2, hlast⟩
      · cases hlast

theorem decode_continuation {remaining : Nat} {low high byte : UInt8} {rest : List UInt8}
    (hlow : low ≤ byte) (hhigh : byte ≤ high) :
    decode ⟨remaining + 1, low, high⟩ (byte :: rest) = decode { remaining } rest := by
  rw [decode_cons]
  simp only [step, if_pos (And.intro hlow hhigh)]
  rfl

/-! ### The bytes of a character -/

theorem val_ofNat {value : Nat} (hvalid : value.isValidChar) :
    (Char.ofNat value).val.toNat = value := by
  rw [Char.ofNat, dif_pos hvalid]
  rfl

theorem ofNat_eq {byte : UInt8} {value : Nat} (hbyte : byte.toNat = value) :
    UInt8.ofNat value = byte := by
  rw [← hbyte, UInt8.ofNat_toNat]

theorem utf8EncodeChar_one {lead : UInt8} (hlead : lead.toNat < 0x80) :
    String.utf8EncodeChar (Char.ofNat lead.toNat) = [lead] := by
  have hvalid : lead.toNat.isValidChar := .inl (by omega)
  simp only [String.utf8EncodeChar, val_ofNat hvalid]
  rw [if_pos (by omega), UInt8.ofNat_toNat]

theorem utf8EncodeChar_two {lead second : UInt8} {value : Nat} (hlow : 0x80 ≤ value)
    (hhigh : value ≤ 0x7FF) (hlead : lead.toNat = value / 64 + 192)
    (hsecond : second.toNat = value % 64 + 128) :
    String.utf8EncodeChar (Char.ofNat value) = [lead, second] := by
  have hvalid : value.isValidChar := .inl (by omega)
  have hlead' : UInt8.ofNat (value / 64 % 0x20 + 0xc0) = lead := ofNat_eq (by omega)
  simp only [String.utf8EncodeChar, val_ofNat hvalid]
  rw [if_neg (by omega), if_pos (by omega), hlead', ofNat_eq hsecond]

theorem utf8EncodeChar_three {lead second third : UInt8} {value : Nat} (hlow : 0x800 ≤ value)
    (hhigh : value ≤ 0xFFFF) (hsurrogate : value < 0xD800 ∨ 0xDFFF < value)
    (hlead : lead.toNat = value / 4096 + 224) (hsecond : second.toNat = value / 64 % 64 + 128)
    (hthird : third.toNat = value % 64 + 128) :
    String.utf8EncodeChar (Char.ofNat value) = [lead, second, third] := by
  have hvalid : value.isValidChar := by
    cases hsurrogate with
    | inl hbefore => exact .inl hbefore
    | inr hbehind => exact .inr ⟨hbehind, by omega⟩
  have hlead' : UInt8.ofNat (value / 4096 % 0x10 + 0xe0) = lead := ofNat_eq (by omega)
  simp only [String.utf8EncodeChar, val_ofNat hvalid]
  rw [if_neg (by omega), if_neg (by omega), if_pos (by omega), hlead', ofNat_eq hsecond,
    ofNat_eq hthird]

theorem utf8EncodeChar_four {lead second third fourth : UInt8} {value : Nat}
    (hlow : 0x10000 ≤ value) (hhigh : value < 0x110000) (hlead : lead.toNat = value / 262144 + 240)
    (hsecond : second.toNat = value / 4096 % 64 + 128)
    (hthird : third.toNat = value / 64 % 64 + 128) (hfourth : fourth.toNat = value % 64 + 128) :
    String.utf8EncodeChar (Char.ofNat value) = [lead, second, third, fourth] := by
  have hvalid : value.isValidChar := .inr ⟨by omega, hhigh⟩
  have hlead' : UInt8.ofNat (value / 262144 % 0x08 + 0xf0) = lead := ofNat_eq (by omega)
  simp only [String.utf8EncodeChar, val_ofNat hvalid]
  rw [if_neg (by omega), if_neg (by omega), if_neg (by omega), hlead', ofNat_eq hsecond,
    ofNat_eq hthird, ofNat_eq hfourth]

/-! ### Texts -/

/-- How many bytes follow a first byte, and how the next one is bounded. -/
theorem first_cases {byte : UInt8} {decoder : Decoder} (hfirst : first byte = some decoder) :
    (byte.toNat < 0x80 ∧ decoder = {}) ∨
      (0xC2 ≤ byte.toNat ∧ byte.toNat < 0xE0 ∧ decoder = { remaining := 1 }) ∨
      (0xE0 ≤ byte.toNat ∧ byte.toNat < 0xF0 ∧ ∃ low high, decoder = ⟨2, low, high⟩ ∧
        0x80 ≤ low.toNat ∧ high.toNat ≤ 0xBF ∧ (byte.toNat = 0xE0 → 0xA0 ≤ low.toNat) ∧
          (byte.toNat = 0xED → high.toNat ≤ 0x9F)) ∨
      (0xF0 ≤ byte.toNat ∧ byte.toNat ≤ 0xF4 ∧ ∃ low high, decoder = ⟨3, low, high⟩ ∧
        0x80 ≤ low.toNat ∧ high.toNat ≤ 0xBF ∧ (byte.toNat = 0xF0 → 0x90 ≤ low.toNat) ∧
          (byte.toNat = 0xF4 → high.toNat ≤ 0x8F)) := by
  unfold first at hfirst
  simp only [UInt8.lt_iff_toNat_lt, ← UInt8.toNat_inj] at hfirst
  split_ifs at hfirst with h80 hC2 hE0 heqE0 heqED hF0 heqF0 hF4 heqF4 <;> cases hfirst
  all_goals simp only [UInt8.reduceToNat] at *
  · exact .inl ⟨h80, trivial⟩
  · exact .inr (.inl ⟨by omega, hE0, trivial⟩)
  · exact .inr (.inr (.inl ⟨by omega, by omega, _, _, rfl, by decide, by decide,
      fun _ => by decide, fun h => by omega⟩))
  · exact .inr (.inr (.inl ⟨by omega, by omega, _, _, rfl, by decide, by decide,
      fun h => by omega, fun _ => by decide⟩))
  · exact .inr (.inr (.inl ⟨by omega, by omega, _, _, rfl, by decide, by decide,
      fun h => by omega, fun h => by omega⟩))
  · exact .inr (.inr (.inr ⟨by omega, by omega, _, _, rfl, by decide, by decide,
      fun _ => by decide, fun h => by omega⟩))
  · exact .inr (.inr (.inr ⟨by omega, by omega, _, _, rfl, by decide, by decide,
      fun h => by omega, fun h => by omega⟩))
  · exact .inr (.inr (.inr ⟨by omega, by omega, _, _, rfl, by decide, by decide,
      fun h => by omega, fun _ => by decide⟩))

theorem exists_text_append {character : Char} {front rest : List UInt8}
    (hcharacter : String.utf8EncodeChar character = front)
    (hrest : ∃ text : List Char, text.flatMap String.utf8EncodeChar = rest) :
    ∃ text : List Char, text.flatMap String.utf8EncodeChar = front ++ rest := by
  obtain ⟨text, htext⟩ := hrest
  exact ⟨character :: text, by rw [List.flatMap_cons, hcharacter, htext]⟩

/-- What is decoded to its end is the bytes of a text. -/
theorem exists_text {bytes : List UInt8} {last : Decoder} (hlast : decode {} bytes = some last)
    (hdone : last.isDone = true) :
    ∃ text : List Char, text.flatMap String.utf8EncodeChar = bytes := by
  -- The induction is over what the bytes of one character leave.
  cases bytes with
  | nil => exact ⟨[], rfl⟩
  | cons lead rest =>
      rw [decode_cons] at hlast
      obtain ⟨next, hfirst, hrest⟩ := Option.bind_eq_some_iff.mp hlast
      obtain ⟨hlead, rfl⟩ | ⟨hlow, hhigh, rfl⟩ | ⟨hlow, hhigh, low, high, rfl, hbounds⟩ |
        ⟨hlow, hhigh, low, high, rfl, hbounds⟩ := first_cases hfirst
      · exact exists_text_append (utf8EncodeChar_one hlead) (exists_text hrest hdone)
      · obtain ⟨second, tail, rfl, hsecond, hsecond', htail⟩ := exists_of_decode hrest hdone
        simp only [UInt8.le_iff_toNat_le, UInt8.reduceToNat] at hsecond hsecond'
        have hcharacter : String.utf8EncodeChar
            (Char.ofNat (lead.toNat % 32 * 64 + second.toNat % 64)) = [lead, second] :=
          utf8EncodeChar_two (by omega) (by omega) (by omega) (by omega)
        exact exists_text_append hcharacter (exists_text htail hdone)
      · obtain ⟨second, tail, rfl, hsecond, hsecond', htail⟩ := exists_of_decode hrest hdone
        obtain ⟨third, tail, rfl, hthird, hthird', htail⟩ := exists_of_decode htail hdone
        simp only [UInt8.le_iff_toNat_le, UInt8.reduceToNat] at hsecond hsecond' hthird hthird'
        have hcharacter : String.utf8EncodeChar (Char.ofNat (lead.toNat % 16 * 4096 +
            second.toNat % 64 * 64 + third.toNat % 64)) = [lead, second, third] :=
          utf8EncodeChar_three (by omega) (by omega) (by omega) (by omega) (by omega) (by omega)
        exact exists_text_append hcharacter (exists_text htail hdone)
      · obtain ⟨second, tail, rfl, hsecond, hsecond', htail⟩ := exists_of_decode hrest hdone
        obtain ⟨third, tail, rfl, hthird, hthird', htail⟩ := exists_of_decode htail hdone
        obtain ⟨fourth, tail, rfl, hfourth, hfourth', htail⟩ := exists_of_decode htail hdone
        simp only [UInt8.le_iff_toNat_le, UInt8.reduceToNat] at hsecond hsecond' hthird hthird'
        simp only [UInt8.le_iff_toNat_le, UInt8.reduceToNat] at hfourth hfourth'
        have hcharacter : String.utf8EncodeChar (Char.ofNat (lead.toNat % 8 * 262144 +
            second.toNat % 64 * 4096 + third.toNat % 64 * 64 + fourth.toNat % 64)) =
              [lead, second, third, fourth] :=
          utf8EncodeChar_four (by omega) (by omega) (by omega) (by omega) (by omega) (by omega)
        exact exists_text_append hcharacter (exists_text htail hdone)
termination_by bytes.length

theorem first_one {lead : UInt8} (hlead : lead.toNat < 0x80) : first lead = some {} := by
  rw [first, if_pos (UInt8.lt_iff_toNat_lt.mpr hlead)]

theorem first_two {lead : UInt8} (hlow : 0xC2 ≤ lead.toNat) (hhigh : lead.toNat < 0xE0) :
    first lead = some { remaining := 1 } := by
  simp only [first, UInt8.lt_iff_toNat_lt, UInt8.reduceToNat]
  rw [if_neg (by omega), if_neg (by omega), if_pos hhigh]

theorem first_three (lead : UInt8) (hlow : 0xE0 ≤ lead.toNat) (hhigh : lead.toNat < 0xF0) :
    ∃ low high, first lead = some ⟨2, low, high⟩ ∧
      (lead.toNat = 0xE0 ∧ low.toNat = 0xA0 ∨ lead.toNat ≠ 0xE0 ∧ low.toNat = 0x80) ∧
      (lead.toNat = 0xED ∧ high.toNat = 0x9F ∨ lead.toNat ≠ 0xED ∧ high.toNat = 0xBF) := by
  simp only [first, UInt8.lt_iff_toNat_lt, ← UInt8.toNat_inj, UInt8.reduceToNat]
  rw [if_neg (by omega), if_neg (by omega), if_neg (by omega)]
  split
  · next heq => exact ⟨_, _, rfl, .inl ⟨heq, rfl⟩, .inr ⟨by omega, rfl⟩⟩
  · next hne =>
      split
      · next heq => exact ⟨_, _, rfl, .inr ⟨hne, rfl⟩, .inl ⟨heq, rfl⟩⟩
      · next hne' =>
          exact ⟨_, _, rfl, .inr ⟨hne, rfl⟩, .inr ⟨hne', rfl⟩⟩

theorem first_four (lead : UInt8) (hlow : 0xF0 ≤ lead.toNat) (hhigh : lead.toNat ≤ 0xF4) :
    ∃ low high, first lead = some ⟨3, low, high⟩ ∧
      (lead.toNat = 0xF0 ∧ low.toNat = 0x90 ∨ lead.toNat ≠ 0xF0 ∧ low.toNat = 0x80) ∧
      (lead.toNat = 0xF4 ∧ high.toNat = 0x8F ∨ lead.toNat ≠ 0xF4 ∧ high.toNat = 0xBF) := by
  simp only [first, UInt8.lt_iff_toNat_lt, ← UInt8.toNat_inj, UInt8.reduceToNat]
  rw [if_neg (by omega), if_neg (by omega), if_neg (by omega), if_neg (by omega),
    if_neg (by omega), if_neg (by omega)]
  split
  · next heq => exact ⟨_, _, rfl, .inl ⟨heq, rfl⟩, .inr ⟨by omega, rfl⟩⟩
  · next hne =>
      split
      · next hlt => exact ⟨_, _, rfl, .inr ⟨hne, rfl⟩, .inr ⟨by omega, rfl⟩⟩
      · next hge =>
          have heq : lead.toNat = 0xF4 := by omega
          rw [if_pos heq]
          exact ⟨_, _, rfl, .inr ⟨hne, rfl⟩, .inl ⟨heq, rfl⟩⟩

theorem decode_first {lead : UInt8} {next : Decoder} (hfirst : first lead = some next)
    (rest : List UInt8) : decode {} (lead :: rest) = next.decode rest := by
  have hstep : step {} lead = first lead := rfl
  rw [decode_cons, hstep, hfirst]
  rfl

/-- A byte that goes on a character carries six bits. -/
theorem decode_next {remaining value : Nat} {byte : UInt8} {rest : List UInt8}
    (hbyte : byte.toNat = value % 64 + 128) :
    decode { remaining := remaining + 1 } (byte :: rest) = decode { remaining } rest :=
  decode_continuation (UInt8.le_iff_toNat_le.mpr (by simp only [UInt8.reduceToNat]; omega))
    (UInt8.le_iff_toNat_le.mpr (by simp only [UInt8.reduceToNat]; omega))

/-- The bytes of a character are decoded to their end. -/
theorem decode_utf8EncodeChar (character : Char) :
    decode {} (String.utf8EncodeChar character) = some {} := by
  have hvalid := character.valid
  simp only [UInt32.isValidChar, Nat.isValidChar] at hvalid
  rw [String.utf8EncodeChar]
  generalize character.val.toNat = value at *
  split
  · next hone =>
      have hlead := toNat_ofNat_of_lt value (by omega)
      rw [decode_first (first_one (by omega)), decode_nil]
  · split
    · next htwo =>
        have hlead := toNat_ofNat_of_lt (value / 64 % 0x20 + 0xc0) (by omega)
        have hsecond := toNat_ofNat_of_lt (value % 0x40 + 0x80) (by omega)
        rw [decode_first (first_two (by omega) (by omega)), decode_next hsecond, decode_nil]
    · split
      · next hthree =>
          have hlead := toNat_ofNat_of_lt (value / 4096 % 0x10 + 0xe0) (by omega)
          have hsecond := toNat_ofNat_of_lt (value / 64 % 0x40 + 0x80) (by omega)
          have hthird := toNat_ofNat_of_lt (value % 0x40 + 0x80) (by omega)
          generalize UInt8.ofNat (value / 4096 % 0x10 + 0xe0) = lead at *
          obtain ⟨low, high, hfirst, hlow, hhigh⟩ := first_three lead (by omega) (by omega)
          rw [decode_first hfirst, decode_continuation, decode_next hthird, decode_nil]
          · rw [UInt8.le_iff_toNat_le]
            obtain ⟨heq, hbound⟩ | ⟨hne, hbound⟩ := hlow <;> omega
          · rw [UInt8.le_iff_toNat_le]
            obtain ⟨heq, hbound⟩ | ⟨hne, hbound⟩ := hhigh <;> omega
      · have hlead := toNat_ofNat_of_lt (value / 262144 % 0x08 + 0xf0) (by omega)
        have hsecond := toNat_ofNat_of_lt (value / 4096 % 0x40 + 0x80) (by omega)
        have hthird := toNat_ofNat_of_lt (value / 64 % 0x40 + 0x80) (by omega)
        have hfourth := toNat_ofNat_of_lt (value % 0x40 + 0x80) (by omega)
        generalize UInt8.ofNat (value / 262144 % 0x08 + 0xf0) = lead at *
        obtain ⟨low, high, hfirst, hlow, hhigh⟩ := first_four lead (by omega) (by omega)
        rw [decode_first hfirst, decode_continuation, decode_next hthird, decode_next hfourth,
          decode_nil]
        · rw [UInt8.le_iff_toNat_le]
          obtain ⟨heq, hbound⟩ | ⟨hne, hbound⟩ := hlow <;> omega
        · rw [UInt8.le_iff_toNat_le]
          obtain ⟨heq, hbound⟩ | ⟨hne, hbound⟩ := hhigh <;> omega

theorem decode_text (text : List Char) :
    decode {} (text.flatMap String.utf8EncodeChar) = some {} := by
  induction text with
  | nil => rfl
  | cons character text ih =>
      rw [List.flatMap_cons, decode_append, decode_utf8EncodeChar]
      exact ih

/-- Exactly the bytes of the texts are decoded to their end. -/
theorem decodes_iff (bytes : List UInt8) :
    (∃ last, decode {} bytes = some last ∧ last.isDone = true) ↔
      ∃ text : List Char, text.flatMap String.utf8EncodeChar = bytes := by
  constructor
  · rintro ⟨last, hlast, hdone⟩
    exact exists_text hlast hdone
  · rintro ⟨text, rfl⟩
    exact ⟨{}, decode_text text, rfl⟩

end Decoder

end DataSluice.Lib.Utf8
