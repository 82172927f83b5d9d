/-
# Dates and times

A `datetime` is a civil date with a time of day and, when it is aware, its offset from UTC.
`isoformat` writes it, and `parseIsoformat` reads what `isoformat` writes. The reader of the
standard library takes more forms of ISO 8601; a caller that needs them brings them along.

Civil dates are counted in days from the first of March of the year 0, so that the leap day
is the last of its year.
-/

import Mathlib.Data.List.Basic
import Mathlib.Tactic.IntervalCases

namespace DataSluice.Lib

/-- The microseconds of a day. -/
def dayMicros : Int := 86400000000

/-- `calendar.isleap` -/
def isLeap (year : Nat) : Bool := year % 4 == 0 && (year % 100 != 0 || year % 400 == 0)

def daysInMonth (year month : Nat) : Nat :=
  if month = 2 then (if isLeap year then 29 else 28)
  else if month = 4 ∨ month = 6 ∨ month = 9 ∨ month = 11 then 30
  else 31

/-- `datetime`: its fields are in range. An offset is given in microseconds. -/
structure DateTime where
  year : Nat
  month : Nat
  day : Nat
  hour : Nat
  minute : Nat
  second : Nat
  micro : Nat
  offset : Option Int
  year_le : 1 ≤ year ∧ year ≤ 9999
  month_le : 1 ≤ month ∧ month ≤ 12
  day_le : 1 ≤ day ∧ day ≤ daysInMonth year month
  hour_lt : hour < 24
  minute_lt : minute < 60
  second_lt : second < 60
  micro_lt : micro < 1000000
  offset_lt : ∀ micros ∈ offset, -dayMicros < micros ∧ micros < dayMicros
  deriving DecidableEq

namespace DateTime

/-- The constructor. -/
def new (year month day hour minute second micro : Nat) (offset : Option Int) :
    Option DateTime :=
  if h : (1 ≤ year ∧ year ≤ 9999) ∧ (1 ≤ month ∧ month ≤ 12) ∧
      (1 ≤ day ∧ day ≤ daysInMonth year month) ∧ hour < 24 ∧ minute < 60 ∧ second < 60 ∧
      micro < 1000000 ∧ ∀ micros ∈ offset, -dayMicros < micros ∧ micros < dayMicros then
    some ⟨year, month, day, hour, minute, second, micro, offset, h.1, h.2.1, h.2.2.1, h.2.2.2.1,
      h.2.2.2.2.1, h.2.2.2.2.2.1, h.2.2.2.2.2.2.1, h.2.2.2.2.2.2.2⟩
  else none

theorem new_fields (time : DateTime) :
    new time.year time.month time.day time.hour time.minute time.second time.micro time.offset =
      some time :=
  dif_pos ⟨time.year_le, time.month_le, time.day_le, time.hour_lt, time.minute_lt,
    time.second_lt, time.micro_lt, time.offset_lt⟩

/-! ## Coordinated universal time -/

/-- The days from the first of March of the year 0. -/
def daysFromCivil (year month day : Nat) : Nat :=
  let shifted := if month ≤ 2 then year - 1 else year
  let monthIndex := if month ≤ 2 then month + 9 else month - 3
  365 * shifted + shifted / 4 - shifted / 100 + shifted / 400 + (153 * monthIndex + 2) / 5 +
    (day - 1)

/-- The civil date of a number of days from there. -/
def civilFromDays (days : Nat) : Nat × Nat × Nat :=
  let era := days / 146097
  let dayOfEra := days % 146097
  let yearOfEra := (dayOfEra - dayOfEra / 1460 + dayOfEra / 36524 - dayOfEra / 146096) / 365
  let dayOfYear := dayOfEra - (365 * yearOfEra + yearOfEra / 4 - yearOfEra / 100)
  let monthIndex := (5 * dayOfYear + 2) / 153
  let year := yearOfEra + era * 400
  (if monthIndex < 10 then year else year + 1,
    if monthIndex < 10 then monthIndex + 3 else monthIndex - 9,
    dayOfYear - (153 * monthIndex + 2) / 5 + 1)

/-- `astimezone(UTC)` of an aware datetime; nothing where it would leave the calendar. -/
def astimezoneUtc (time : DateTime) : Option DateTime :=
  match time.offset with
  | none => none
  | some offset =>
      let seconds := (time.hour * 60 + time.minute) * 60 + time.second
      let micros : Int :=
        daysFromCivil time.year time.month time.day * dayMicros +
          ((seconds * 1000000 + time.micro : Nat) : Int) - offset
      if micros < 0 then none
      else
        let date := civilFromDays (micros / dayMicros).toNat
        let ofDay := (micros % dayMicros).toNat
        new date.1 date.2.1 date.2.2 (ofDay / 3600000000) (ofDay / 60000000 % 60)
          (ofDay / 1000000 % 60) (ofDay % 1000000) (some 0)

/-- What `astimezone(UTC)` returns is in UTC. -/
theorem offset_astimezoneUtc {time utc : DateTime} (h : time.astimezoneUtc = some utc) :
    utc.offset = some 0 := by
  unfold astimezoneUtc at h
  split at h
  · cases h
  · simp only [new] at h
    split_ifs at h
    cases h
    rfl

/-! ## Text -/

/-- A decimal digit. -/
def digit (value : Nat) : Char := Char.ofNat ('0'.toNat + value % 10)

def pad2 (value : Nat) : List Char := [digit (value / 10), digit value]

def pad4 (value : Nat) : List Char := pad2 (value / 100) ++ pad2 value

def pad6 (value : Nat) : List Char := pad2 (value / 10000) ++ pad4 value

/-- A fraction of a second, which is left out when it is zero. -/
def microText (micro : Nat) : List Char := if micro = 0 then [] else '.' :: pad6 micro

/-- The seconds of an offset, which are left out when they are zero. -/
def offsetSeconds (micros : Nat) : List Char :=
  if micros % 60000000 = 0 then []
  else ':' :: pad2 (micros / 1000000 % 60) ++ microText (micros % 1000000)

/-- An offset without its sign. -/
def offsetBody (micros : Nat) : List Char :=
  pad2 (micros / 3600000000) ++ ':' :: pad2 (micros / 60000000 % 60) ++ offsetSeconds micros

/-- `isoformat` of the offset. -/
def offsetText : Option Int → List Char
  | none => []
  | some micros => (if micros < 0 then '-' else '+') :: offsetBody micros.natAbs

/-- `isoformat` without the offset. -/
def clockText (time : DateTime) : List Char :=
  pad4 time.year ++ '-' :: pad2 time.month ++ '-' :: pad2 time.day ++ 'T' :: pad2 time.hour ++
    ':' :: pad2 time.minute ++ ':' :: pad2 time.second ++ microText time.micro

/-- `isoformat` -/
def isoformat (time : DateTime) : List Char := time.clockText ++ offsetText time.offset

/-- The value of a decimal digit. -/
def digitValue (character : Char) : Option Nat :=
  if '0' ≤ character ∧ character ≤ '9' then some (character.toNat - '0'.toNat) else none

/-- A number of so many digits, and what is behind it. -/
def readNumber : Nat → Nat → List Char → Option (Nat × List Char)
  | 0, value, text => some (value, text)
  | _ + 1, _, [] => none
  | count + 1, value, character :: text => do
      readNumber count (10 * value + (← digitValue character)) text

/-- One given character, and what is behind it. -/
def readChar (expected : Char) : List Char → Option (List Char)
  | [] => none
  | character :: text => if character = expected then some text else none

/-- The fraction of a second, when there is one. -/
def readMicro : List Char → Option (Nat × List Char)
  | '.' :: text => readNumber 6 0 text
  | text => some (0, text)

/-- The seconds of an offset, when there are any, at the end of a text. -/
def readOffsetSeconds : List Char → Option Nat
  | [] => some 0
  | character :: text => do
      let (seconds, text) ← readNumber 2 0 (← readChar ':' (character :: text))
      let (micro, text) ← readMicro text
      if text = [] then some (1000000 * seconds + micro) else none

/-- The offset at the end of a text. -/
def readOffset : List Char → Option (Option Int)
  | [] => some none
  | sign :: text => do
      let (hours, text) ← readNumber 2 0 text
      let (minutes, text) ← readNumber 2 0 (← readChar ':' text)
      let micros := 3600000000 * hours + 60000000 * minutes + (← readOffsetSeconds text)
      if sign = '+' then some (some (micros : Int))
      else if sign = '-' then some (some (-(micros : Int)))
      else none

/-- `fromisoformat` on what `isoformat` writes. -/
def parseIsoformat (text : List Char) : Option DateTime := do
  let (year, text) ← readNumber 4 0 text
  let (month, text) ← readNumber 2 0 (← readChar '-' text)
  let (day, text) ← readNumber 2 0 (← readChar '-' text)
  let (hour, text) ← readNumber 2 0 (← readChar 'T' text)
  let (minute, text) ← readNumber 2 0 (← readChar ':' text)
  let (second, text) ← readNumber 2 0 (← readChar ':' text)
  let (micro, text) ← readMicro text
  new year month day hour minute second micro (← readOffset text)

/-! ## The text reads back -/

section RoundTrip

theorem digitValue_digit (value : Nat) : digitValue (digit value) = some (value % 10) := by
  have hlt : value % 10 < 10 := Nat.mod_lt value (by decide)
  rw [digit]
  generalize value % 10 = last at hlt
  interval_cases last <;> rfl

/-- Reading a digit that was written. -/
theorem readNumber_digit (count accumulated value : Nat) (text : List Char) :
    readNumber (count + 1) accumulated (digit value :: text) =
      readNumber count (10 * accumulated + value % 10) text := by
  rw [readNumber, digitValue_digit]
  rfl

/-- Two digits are read as they were written, behind whatever was read before. -/
theorem readNumber_pad2 (count accumulated : Nat) {value : Nat} (hvalue : value < 100)
    (text : List Char) :
    readNumber (count + 2) accumulated (pad2 value ++ text) =
      readNumber count (100 * accumulated + value) text := by
  have hsum : 10 * (10 * accumulated + value / 10 % 10) + value % 10 =
      100 * accumulated + value := by omega
  calc readNumber (count + 2) accumulated (pad2 value ++ text)
    _ = readNumber (count + 1) (10 * accumulated + value / 10 % 10)
          (digit value :: text) := by
      rw [pad2, List.cons_append, readNumber_digit]
      rfl
    _ = readNumber count (10 * (10 * accumulated + value / 10 % 10) + value % 10) text := by
      rw [readNumber_digit]
    _ = readNumber count (100 * accumulated + value) text := by rw [hsum]

/-- A number of two digits on its own. -/
theorem readNumber_two {value : Nat} (hvalue : value < 100) (text : List Char) :
    readNumber 2 0 (pad2 value ++ text) = some (value, text) := by
  rw [readNumber_pad2 0 0 hvalue, Nat.mul_zero, Nat.zero_add]
  rfl

theorem readNumber_pad4 (count accumulated : Nat) {value : Nat} (hvalue : value < 10000)
    (text : List Char) :
    readNumber (count + 4) accumulated (pad4 value ++ text) =
      readNumber count (10000 * accumulated + value) text := by
  have hlow : pad2 value = pad2 (value % 100) := by
    rw [pad2, pad2, digit, digit, digit, digit]
    have htens : value % 100 / 10 % 10 = value / 10 % 10 := by omega
    rw [htens, Nat.mod_mod_of_dvd value (by decide)]
  have hsum : 100 * (100 * accumulated + value / 100) + value % 100 =
      10000 * accumulated + value := by omega
  calc readNumber (count + 4) accumulated (pad4 value ++ text)
    _ = readNumber (count + 2) (100 * accumulated + value / 100) (pad2 value ++ text) := by
      rw [pad4, List.append_assoc, readNumber_pad2 (count + 2) accumulated (by omega)]
    _ = readNumber count (100 * (100 * accumulated + value / 100) + value % 100) text := by
      rw [hlow, readNumber_pad2 count _ (by omega)]
    _ = readNumber count (10000 * accumulated + value) text := by rw [hsum]

theorem readNumber_pad6 {value : Nat} (hvalue : value < 1000000) (text : List Char) :
    readNumber 6 0 (pad6 value ++ text) = some (value, text) := by
  have hlow : pad4 value = pad4 (value % 10000) := by
    rw [pad4, pad4, pad2, pad2, pad2, pad2]
    simp only [digit]
    have h1 : value % 10000 / 100 / 10 % 10 = value / 100 / 10 % 10 := by omega
    have h2 : value % 10000 / 100 % 10 = value / 100 % 10 := by omega
    have h3 : value % 10000 / 10 % 10 = value / 10 % 10 := by omega
    have h4 : value % 10000 % 10 = value % 10 := by omega
    rw [h1, h2, h3, h4]
  have hsum : 10000 * (100 * 0 + value / 10000) + value % 10000 = value := by omega
  calc readNumber 6 0 (pad6 value ++ text)
    _ = readNumber 4 (100 * 0 + value / 10000) (pad4 value ++ text) := by
      rw [pad6, List.append_assoc, readNumber_pad2 4 0 (by omega)]
    _ = readNumber 0 (10000 * (100 * 0 + value / 10000) + value % 10000) text := by
      rw [hlow, readNumber_pad4 0 _ (by omega)]
    _ = some (value, text) := by
      rw [hsum]
      rfl

/-- A fraction is read as it was written in front of text that does not start like one. -/
theorem readMicro_microText {micro : Nat} (hmicro : micro < 1000000) {text : List Char}
    (htext : text.head? ≠ some '.') : readMicro (microText micro ++ text) = some (micro, text) := by
  unfold microText
  split
  next hzero =>
    subst hzero
    rw [List.nil_append]
    unfold readMicro
    split
    next rest => exact absurd rfl htext
    next => rfl
  next =>
    rw [List.cons_append, readMicro, readNumber_pad6 hmicro]

theorem readOffsetSeconds_offsetSeconds (micros : Nat) :
    readOffsetSeconds (offsetSeconds micros) = some (micros % 60000000) := by
  unfold offsetSeconds
  split
  next hzero => rw [readOffsetSeconds, hzero]
  next =>
    have hmicro := readMicro_microText (Nat.mod_lt micros (show 0 < 1000000 by decide))
      (show ([] : List Char).head? ≠ some '.' by simp)
    rw [List.append_nil] at hmicro
    have hsum : 1000000 * (micros / 1000000 % 60) + micros % 1000000 = micros % 60000000 := by
      omega
    have hseconds := readNumber_two (show micros / 1000000 % 60 < 100 by omega)
      (microText (micros % 1000000))
    simp only [List.cons_append, readOffsetSeconds, readChar, if_pos, Option.bind_eq_bind,
      Option.bind_some, hseconds, hmicro, hsum]

theorem readOffset_offsetText {offset : Option Int}
    (hoffset : ∀ micros ∈ offset, -dayMicros < micros ∧ micros < dayMicros) :
    readOffset (offsetText offset) = some offset := by
  cases offset with
  | none => rfl
  | some micros =>
      have hrange := hoffset micros rfl
      unfold dayMicros at hrange
      have hhours := readNumber_two (show micros.natAbs / 3600000000 < 100 by omega)
      have hminutes := readNumber_two (show micros.natAbs / 60000000 % 60 < 100 by omega)
      have hsum : 3600000000 * (micros.natAbs / 3600000000) +
          60000000 * (micros.natAbs / 60000000 % 60) + micros.natAbs % 60000000 =
            micros.natAbs := by omega
      simp only [offsetText, offsetBody, readOffset, List.append_assoc, hhours,
        List.cons_append, readChar, if_pos, hminutes, readOffsetSeconds_offsetSeconds,
        Option.bind_eq_bind, Option.bind_some, hsum]
      by_cases hsign : micros < 0
      · have hneg : -(micros.natAbs : Int) = micros := by omega
        simp only [hsign, if_pos, hneg, Char.reduceEq, if_neg, not_false_eq_true]
      · have hpos : (micros.natAbs : Int) = micros := by omega
        simp only [hsign, if_false, if_pos, hpos]

theorem head?_offsetText (offset : Option Int) : (offsetText offset).head? ≠ some '.' := by
  cases offset with
  | none => simp [offsetText]
  | some micros =>
      rw [offsetText]
      split <;> simp

/-- What `isoformat` writes reads back. -/
theorem parseIsoformat_isoformat (time : DateTime) :
    parseIsoformat time.isoformat = some time := by
  have hdays : daysInMonth time.year time.month < 100 := by
    unfold daysInMonth
    split_ifs <;> omega
  have hyear := readNumber_pad4 0 0 (show time.year < 10000 by have := time.year_le; omega)
  have hmonth := readNumber_two (show time.month < 100 by have := time.month_le; omega)
  have hday := readNumber_two (show time.day < 100 by have := time.day_le; omega)
  have hhour := readNumber_two (show time.hour < 100 by have := time.hour_lt; omega)
  have hminute := readNumber_two (show time.minute < 100 by have := time.minute_lt; omega)
  have hsecond := readNumber_two (show time.second < 100 by have := time.second_lt; omega)
  have hmicro := readMicro_microText time.micro_lt (head?_offsetText time.offset)
  have hoffset := readOffset_offsetText time.offset_lt
  simp only [Nat.mul_zero, Nat.zero_add, readNumber] at hyear
  simp only [parseIsoformat, isoformat, clockText, List.append_assoc, List.cons_append, hyear, hmonth, hday,
    hhour, hminute, hsecond, hmicro, hoffset, readChar, if_pos, Option.bind_eq_bind,
    Option.bind_some, new_fields]

theorem digit_mem (value : Nat) : digit value ∈ "0123456789".toList := by
  have hlt : value % 10 < 10 := Nat.mod_lt value (by decide)
  rw [digit]
  generalize value % 10 = last at hlt
  interval_cases last <;> decide

theorem clockText_subset (time : DateTime) : time.clockText ⊆ "0123456789-T:.".toList := by
  have hdigit : ∀ value, digit value ∈ "0123456789-T:.".toList := by
    intro value
    exact List.mem_of_mem_take (i := 10) (digit_mem value)
  have hpad2 : ∀ value, pad2 value ⊆ "0123456789-T:.".toList := by
    intro value
    exact List.cons_subset.mpr ⟨hdigit _, List.cons_subset.mpr ⟨hdigit _, List.nil_subset _⟩⟩
  have hpad4 : ∀ value, pad4 value ⊆ "0123456789-T:.".toList := by
    intro value
    exact List.append_subset.mpr ⟨hpad2 _, hpad2 _⟩
  have hmicro : microText time.micro ⊆ "0123456789-T:.".toList := by
    unfold microText
    split
    · exact List.nil_subset _
    · exact List.cons_subset.mpr ⟨by decide, List.append_subset.mpr ⟨hpad2 _, hpad4 _⟩⟩
  simp only [clockText, List.append_subset, List.cons_subset, hpad2, hpad4, hmicro, and_true]
  decide

theorem length_clockText (time : DateTime) : time.clockText.length ≤ 26 := by
  unfold clockText microText
  split <;> simp [pad2, pad4, pad6]

end RoundTrip

end DateTime

end DataSluice.Lib
