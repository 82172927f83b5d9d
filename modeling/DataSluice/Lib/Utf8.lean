/-
# UTF-8

The bytes of a text, and with replacement the decoding of bytes that need not be UTF-8: where
a sequence breaks off, what is there of it is one U+FFFD, and the next byte starts a new
sequence.
-/

import Mathlib.Data.List.Basic

namespace DataSluice.Lib.Utf8

/-! ## Encoding -/

theorem toList_loop_eq (bytes : ByteArray) (index : Nat) (before : List UInt8) :
    ByteArray.toList.loop bytes index before =
      before.reverse ++ bytes.data.toList.drop index := by
  rw [ByteArray.toList.loop]
  split
  · next hindex =>
      have hget : bytes.get! index = bytes.data.toList.get ⟨index, hindex⟩ :=
        getElem!_pos bytes.data index hindex
      have hdrop : bytes.data.toList.drop index =
          bytes.get! index :: bytes.data.toList.drop (index + 1) := by
        rw [hget]
        exact List.drop_eq_getElem_cons hindex
      rw [toList_loop_eq bytes (index + 1), hdrop, List.reverse_cons, List.append_assoc,
        List.singleton_append]
  · next hindex =>
      have hnone : bytes.data.toList.drop index = [] := by
        rw [List.drop_eq_nil_iff]
        exact Nat.le_of_not_lt hindex
      rw [hnone, List.append_nil]
termination_by bytes.size - index

theorem byteArray_toList_eq (bytes : ByteArray) : bytes.toList = bytes.data.toList :=
  toList_loop_eq bytes 0 []

/-- Different texts have different bytes. -/
theorem toUTF8_toList_injective {text other : String}
    (hbytes : text.toUTF8.toList = other.toUTF8.toList) : text = other := by
  rw [byteArray_toList_eq, byteArray_toList_eq] at hbytes
  rw [← String.toByteArray_inj]
  apply ByteArray.ext
  exact Array.toList_inj.mp hbytes

theorem toUTF8_toList_append (text other : String) :
    (text ++ other).toUTF8.toList = text.toUTF8.toList ++ other.toUTF8.toList := by
  rw [byteArray_toList_eq, byteArray_toList_eq, byteArray_toList_eq]
  exact ByteArray.toList_data_append

/-- The bytes of a text are those of its characters. -/
theorem toUTF8_ofList_toList (text : List Char) :
    (String.ofList text).toUTF8.toList = text.flatMap String.utf8EncodeChar := by
  rw [byteArray_toList_eq]
  show (String.ofList text).toByteArray.data.toList = _
  rw [String.toByteArray_ofList, List.utf8Encode]
  exact List.toList_data_toByteArray

/-- Different texts have different bytes. -/
theorem flatMap_utf8EncodeChar_injective {text other : List Char}
    (hbytes : text.flatMap String.utf8EncodeChar = other.flatMap String.utf8EncodeChar) :
    text = other := by
  rw [← toUTF8_ofList_toList, ← toUTF8_ofList_toList] at hbytes
  exact String.ofList_inj.mp (toUTF8_toList_injective hbytes)

/-! ## Decoding with replacement -/

/-- U+FFFD. -/
def replacement : Char := Char.ofNat 0xFFFD

/-- A byte that continues a sequence. -/
def isContinuation (byte : UInt8) : Bool := 0x80 ≤ byte && byte ≤ 0xBF

/-- The second bytes that may follow a lead byte of three or four bytes. -/
def isSecond (lead second : UInt8) : Bool :=
  isContinuation second &&
    !(lead == 0xE0 && second < 0xA0) && !(lead == 0xED && 0x9F < second) &&
    !(lead == 0xF0 && second < 0x90) && !(lead == 0xF4 && 0x8F < second)

/-- The payload of a continuation byte. -/
def payload (byte : UInt8) : Nat := byte.toNat % 64

/-- `bytes.decode("utf-8", errors="replace")` -/
def decodeReplace : List UInt8 → List Char
  | [] => []
  | lead :: rest =>
      if lead < 0x80 then Char.ofNat lead.toNat :: decodeReplace rest
      else if 0xC2 ≤ lead && lead ≤ 0xDF then
        match rest with
        | second :: rest' =>
            if isContinuation second then
              Char.ofNat (lead.toNat % 32 * 64 + payload second) :: decodeReplace rest'
            else replacement :: decodeReplace (second :: rest')
        | [] => [replacement]
      else if 0xE0 ≤ lead && lead ≤ 0xEF then
        match rest with
        | second :: third :: rest' =>
            if !isSecond lead second then replacement :: decodeReplace (second :: third :: rest')
            else if isContinuation third then
              Char.ofNat (lead.toNat % 16 * 4096 + payload second * 64 + payload third) ::
                decodeReplace rest'
            else replacement :: decodeReplace (third :: rest')
        | [second] =>
            if isSecond lead second then [replacement]
            else replacement :: decodeReplace [second]
        | [] => [replacement]
      else if 0xF0 ≤ lead && lead ≤ 0xF4 then
        match rest with
        | second :: third :: fourth :: rest' =>
            if !isSecond lead second then
              replacement :: decodeReplace (second :: third :: fourth :: rest')
            else if !isContinuation third then replacement :: decodeReplace (third :: fourth :: rest')
            else if isContinuation fourth then
              Char.ofNat (lead.toNat % 8 * 262144 + payload second * 4096 + payload third * 64 +
                payload fourth) :: decodeReplace rest'
            else replacement :: decodeReplace (fourth :: rest')
        | [second, third] =>
            if !isSecond lead second then replacement :: decodeReplace [second, third]
            else if isContinuation third then [replacement]
            else replacement :: decodeReplace [third]
        | [second] =>
            if isSecond lead second then [replacement]
            else replacement :: decodeReplace [second]
        | [] => [replacement]
      else replacement :: decodeReplace rest

/-! ## Decoded bytes of a text -/

theorem toNat_ofNat_of_lt (value : Nat) (hvalue : value < 256) : (UInt8.ofNat value).toNat = value :=
  UInt8.toNat_ofNat_of_lt' hvalue

/-- A continuation byte, and the six bits that it carries. -/
theorem continuation_spec {value : Nat} {byte : UInt8} (hbyte : byte.toNat = value % 64 + 128) :
    isContinuation byte = true ∧ payload byte = value % 64 := by
  constructor
  · simp only [isContinuation, Bool.and_eq_true, decide_eq_true_eq, UInt8.le_iff_toNat_le, hbyte]
    exact ⟨Nat.le_add_left _ _, (by omega : value % 64 + 128 ≤ 191)⟩
  · rw [payload, hbyte]
    omega

theorem decodeReplace_one {lead : UInt8} (hlead : lead.toNat < 128) (rest : List UInt8) :
    decodeReplace (lead :: rest) = Char.ofNat lead.toNat :: decodeReplace rest := by
  rw [decodeReplace.eq_def]
  exact if_pos (UInt8.lt_iff_toNat_lt.mpr hlead)

theorem decodeReplace_two {lead second : UInt8} (value : Nat) (hlow : 0x80 ≤ value)
    (hhigh : value ≤ 0x7FF) (hlead : lead.toNat = value / 64 + 192)
    (hsecond : second.toNat = value % 64 + 128) (rest : List UInt8) :
    decodeReplace (lead :: second :: rest) = Char.ofNat value :: decodeReplace rest := by
  obtain ⟨hcontinuation, hpayload⟩ := continuation_spec hsecond
  have hascii : ¬lead < 0x80 := by
    rw [UInt8.lt_iff_toNat_lt, hlead]
    show ¬value / 64 + 192 < 128
    omega
  have htwo : (0xC2 ≤ lead && lead ≤ 0xDF) = true := by
    simp only [Bool.and_eq_true, decide_eq_true_eq, UInt8.le_iff_toNat_le, hlead]
    show 194 ≤ value / 64 + 192 ∧ value / 64 + 192 ≤ 223
    omega
  have hvalue : lead.toNat % 32 * 64 + payload second = value := by
    rw [hlead, hpayload]
    omega
  rw [decodeReplace.eq_def]
  simp only [if_neg hascii, if_pos htwo, if_pos hcontinuation, hvalue]

theorem decodeReplace_three {lead second third : UInt8} (value : Nat) (hlow : 0x800 ≤ value)
    (hhigh : value ≤ 0xFFFF) (hsurrogate : value < 0xD800 ∨ 0xDFFF < value)
    (hlead : lead.toNat = value / 4096 + 224) (hsecond : second.toNat = value / 64 % 64 + 128)
    (hthird : third.toNat = value % 64 + 128) (rest : List UInt8) :
    decodeReplace (lead :: second :: third :: rest) = Char.ofNat value :: decodeReplace rest := by
  obtain ⟨hcontinuation, hpayload⟩ := continuation_spec hsecond
  obtain ⟨hcontinuation', hpayload'⟩ := continuation_spec hthird
  have hascii : ¬lead < 0x80 := by
    rw [UInt8.lt_iff_toNat_lt, hlead]
    show ¬value / 4096 + 224 < 128
    omega
  have htwo : ¬(0xC2 ≤ lead && lead ≤ 0xDF) = true := by
    simp only [Bool.and_eq_true, decide_eq_true_eq, UInt8.le_iff_toNat_le, hlead]
    show ¬(194 ≤ value / 4096 + 224 ∧ value / 4096 + 224 ≤ 223)
    omega
  have hthree : (0xE0 ≤ lead && lead ≤ 0xEF) = true := by
    simp only [Bool.and_eq_true, decide_eq_true_eq, UInt8.le_iff_toNat_le, hlead]
    show 224 ≤ value / 4096 + 224 ∧ value / 4096 + 224 ≤ 239
    omega
  have hpair : isSecond lead second = true := by
    simp only [isSecond, hcontinuation, Bool.true_and, Bool.and_eq_true, Bool.not_eq_true',
      Bool.and_eq_false_iff, beq_eq_false_iff_ne, decide_eq_false_iff_not, ne_eq, ← UInt8.toNat_inj,
      UInt8.lt_iff_toNat_lt, hlead, hsecond]
    show (((¬value / 4096 + 224 = 224 ∨ ¬value / 64 % 64 + 128 < 160) ∧
      (¬value / 4096 + 224 = 237 ∨ ¬159 < value / 64 % 64 + 128)) ∧
      (¬value / 4096 + 224 = 240 ∨ ¬value / 64 % 64 + 128 < 144)) ∧
      (¬value / 4096 + 224 = 244 ∨ ¬143 < value / 64 % 64 + 128)
    omega
  have hvalue : lead.toNat % 16 * 4096 + payload second * 64 + payload third = value := by
    rw [hlead, hpayload, hpayload']
    omega
  rw [decodeReplace.eq_def]
  simp only [if_neg hascii, if_neg htwo, if_pos hthree, hpair, Bool.not_true, Bool.false_eq_true,
    if_false, if_pos hcontinuation', hvalue]

theorem decodeReplace_four {lead second third fourth : UInt8} (value : Nat) (hlow : 0x10000 ≤ value)
    (hhigh : value < 0x110000) (hlead : lead.toNat = value / 262144 + 240)
    (hsecond : second.toNat = value / 4096 % 64 + 128)
    (hthird : third.toNat = value / 64 % 64 + 128) (hfourth : fourth.toNat = value % 64 + 128)
    (rest : List UInt8) :
    decodeReplace (lead :: second :: third :: fourth :: rest) =
      Char.ofNat value :: decodeReplace rest := by
  obtain ⟨hcontinuation, hpayload⟩ := continuation_spec hsecond
  obtain ⟨hcontinuation', hpayload'⟩ := continuation_spec hthird
  obtain ⟨hcontinuation'', hpayload''⟩ := continuation_spec hfourth
  have hascii : ¬lead < 0x80 := by
    rw [UInt8.lt_iff_toNat_lt, hlead]
    show ¬value / 262144 + 240 < 128
    omega
  have htwo : ¬(0xC2 ≤ lead && lead ≤ 0xDF) = true := by
    simp only [Bool.and_eq_true, decide_eq_true_eq, UInt8.le_iff_toNat_le, hlead]
    show ¬(194 ≤ value / 262144 + 240 ∧ value / 262144 + 240 ≤ 223)
    omega
  have hthree : ¬(0xE0 ≤ lead && lead ≤ 0xEF) = true := by
    simp only [Bool.and_eq_true, decide_eq_true_eq, UInt8.le_iff_toNat_le, hlead]
    show ¬(224 ≤ value / 262144 + 240 ∧ value / 262144 + 240 ≤ 239)
    omega
  have hfour : (0xF0 ≤ lead && lead ≤ 0xF4) = true := by
    simp only [Bool.and_eq_true, decide_eq_true_eq, UInt8.le_iff_toNat_le, hlead]
    show 240 ≤ value / 262144 + 240 ∧ value / 262144 + 240 ≤ 244
    omega
  have hpair : isSecond lead second = true := by
    simp only [isSecond, hcontinuation, Bool.true_and, Bool.and_eq_true, Bool.not_eq_true',
      Bool.and_eq_false_iff, beq_eq_false_iff_ne, decide_eq_false_iff_not, ne_eq, ← UInt8.toNat_inj,
      UInt8.lt_iff_toNat_lt, hlead, hsecond]
    show (((¬value / 262144 + 240 = 224 ∨ ¬value / 4096 % 64 + 128 < 160) ∧
      (¬value / 262144 + 240 = 237 ∨ ¬159 < value / 4096 % 64 + 128)) ∧
      (¬value / 262144 + 240 = 240 ∨ ¬value / 4096 % 64 + 128 < 144)) ∧
      (¬value / 262144 + 240 = 244 ∨ ¬143 < value / 4096 % 64 + 128)
    omega
  have hvalue : lead.toNat % 8 * 262144 + payload second * 4096 + payload third * 64 +
      payload fourth = value := by
    rw [hlead, hpayload, hpayload', hpayload'']
    omega
  rw [decodeReplace.eq_def]
  simp only [if_neg hascii, if_neg htwo, if_neg hthree, if_pos hfour, hpair, hcontinuation',
    Bool.not_true, Bool.false_eq_true, if_false, if_pos hcontinuation'', hvalue]

/-- A character is decoded from its bytes. -/
theorem decodeReplace_utf8EncodeChar (character : Char) (rest : List UInt8) :
    decodeReplace (String.utf8EncodeChar character ++ rest) = character :: decodeReplace rest := by
  have hvalid := character.valid
  have hchar : Char.ofNat character.val.toNat = character := Char.ofNat_toNat character
  simp only [UInt32.isValidChar, Nat.isValidChar] at hvalid
  rw [String.utf8EncodeChar]
  generalize character.val.toNat = value at *
  split
  · next hone =>
      have hsize : (UInt8.ofNat value).toNat = value := toNat_ofNat_of_lt value (by omega)
      rw [List.singleton_append, decodeReplace_one (by omega), hsize, hchar]
  · split
    · next htwo =>
        have hlead := toNat_ofNat_of_lt (value / 64 % 0x20 + 0xc0) (by omega)
        have hsecond := toNat_ofNat_of_lt (value % 0x40 + 0x80) (by omega)
        refine (decodeReplace_two value (by omega) htwo (by omega) hsecond rest).trans ?_
        rw [hchar]
    · split
      · next hthree =>
          have hlead := toNat_ofNat_of_lt (value / 4096 % 0x10 + 0xe0) (by omega)
          have hsecond := toNat_ofNat_of_lt (value / 64 % 0x40 + 0x80) (by omega)
          have hthird := toNat_ofNat_of_lt (value % 0x40 + 0x80) (by omega)
          refine (decodeReplace_three value (by omega) hthree (by omega) (by omega)
            hsecond hthird rest).trans ?_
          rw [hchar]
      · have hlead := toNat_ofNat_of_lt (value / 262144 % 0x08 + 0xf0) (by omega)
        have hsecond := toNat_ofNat_of_lt (value / 4096 % 0x40 + 0x80) (by omega)
        have hthird := toNat_ofNat_of_lt (value / 64 % 0x40 + 0x80) (by omega)
        have hfourth := toNat_ofNat_of_lt (value % 0x40 + 0x80) (by omega)
        refine (decodeReplace_four value (by omega) (by omega) (by omega) hsecond hthird
          hfourth rest).trans ?_
        rw [hchar]

/-- A text is decoded from its bytes. -/
theorem decodeReplace_flatMap (text : List Char) :
    decodeReplace (text.flatMap String.utf8EncodeChar) = text := by
  induction text with
  | nil => rfl
  | cons character text ih => rw [List.flatMap_cons, decodeReplace_utf8EncodeChar, ih]

end DataSluice.Lib.Utf8
