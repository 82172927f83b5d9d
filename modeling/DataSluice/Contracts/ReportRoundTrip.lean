/-
# Reports read back

Sanitizing is idempotent: what it writes behind the name of a credential is a value of that name,
is found there again, and is replaced by itself. Nothing else is found, since no name ends inside
what was written. A report is therefore read back as itself, unless one of its texts has become too
long for the check that it passes again.
-/

import Mathlib.Data.List.TakeWhile
import DataSluice.Contracts.Report
import DataSluice.Lib.UrlRoundTrip

namespace DataSluice.Contracts

open DataSluice.Lib DataSluice.Domain

/-! ## Letters -/

/-- The code points of white space, signs and separators. -/
def markCodes : List UInt32 := [58, 61, 44, 59] ++ spaceCodes

theorem markCodes_apart : markCodes.all (fun code => (code < 65 || 122 < code) && code != 0x130 &&
    code != 0x131 && code != 0x17F && code != 0x212A) = true := by decide

/-- A character is a letter of a name: it is the same as a small letter, the case ignored. -/
def IsNameLetter (character : Char) : Prop :=
  97 ≤ (foldCase character).val ∧ (foldCase character).val ≤ 122

/-- A letter of a name is no mark. -/
theorem notMem_markCodes {character : Char} (hletter : IsNameLetter character) :
    character.val ∉ markCodes := by
  intro hmem
  have hmark := List.all_eq_true.mp markCodes_apart _ hmem
  simp only [Bool.and_eq_true, Bool.or_eq_true, decide_eq_true_eq, bne_iff_ne, ne_eq] at hmark
  obtain ⟨⟨⟨⟨houtside, hdotted⟩, hdotless⟩, hlong⟩, hkelvin⟩ := hmark
  have hlower : character.toLower = character := by
    apply Url.toLower_of_not_isCapital
    rw [Url.isCapital, Bool.and_eq_false_iff, decide_eq_false_iff_not, decide_eq_false_iff_not]
    rcases houtside with hlow | hhigh
    · exact .inl fun h => absurd (UInt32.lt_of_le_of_lt h hlow) (by decide)
    · exact .inr fun h => absurd (UInt32.lt_of_lt_of_le hhigh h) (by decide)
  have hfold : foldCase character = character := by
    rw [foldCase, if_neg (not_or.mpr ⟨hdotted, hdotless⟩), if_neg hlong, if_neg hkelvin, hlower]
  rw [IsNameLetter, hfold] at hletter
  rcases houtside with hlow | hhigh
  · exact absurd (UInt32.lt_of_le_of_lt hletter.1 hlow) (by decide)
  · exact absurd (UInt32.lt_of_lt_of_le hhigh hletter.2) (by decide)

/-- A character that is neither white space nor a sign nor a separator. -/
def IsPlain (character : Char) : Prop :=
  isSpace character = false ∧ isSign character = false ∧ isValueChar character = true

theorem isPlain_of_isNameLetter {character : Char} (hletter : IsNameLetter character) :
    IsPlain character := by
  have hmark := notMem_markCodes hletter
  rw [markCodes, List.mem_append, not_or] at hmark
  obtain ⟨hmarks, hspace⟩ := hmark
  have hnospace : isSpace character = false := by
    rw [isSpace, ← Bool.not_eq_true, List.contains_iff_mem]
    exact hspace
  have hne : ∀ mark : Char, mark.val ∈ ([58, 61, 44, 59] : List UInt32) → (character == mark) = false := by
    intro mark hmark
    rw [beq_eq_false_iff_ne]
    rintro rfl
    exact hmarks hmark
  have hsign : isSign character = false := by
    rw [isSign, hne ':' (by decide), hne '=' (by decide)]
    rfl
  have hvalue : isValueChar character = true := by
    rw [isValueChar, hnospace, bne, bne, hne ',' (by decide), hne ';' (by decide)]
    rfl
  exact ⟨hnospace, hsign, hvalue⟩

/-! ## Names of credentials -/

/-- A text as the names of credentials are: no sign is inside, and it begins and ends with
letters. -/
structure IsName (word : List Char) : Prop where
  no_sign : ∀ character ∈ word, isSign character = false
  head : ∀ character ∈ word.head?, IsPlain character
  last : ∀ character ∈ word.getLast?, IsPlain character
  ne_nil : word ≠ []

/-- The letters are small ASCII letters. -/
def AreSmall (letters : List Char) : Bool :=
  letters.all fun letter => 97 ≤ letter.val && letter.val ≤ 122

theorem isPlain_of_anyCase {letters : String} (hletters : AreSmall letters.toList = true)
    {word : List Char} (hword : (anyCase letters).Word word) :
    ∀ character ∈ word, IsPlain character := by
  intro character hmem
  have hall := Regex.word_literal.mp hword
  obtain ⟨index, hindex, rfl⟩ := List.getElem_of_mem hmem
  have hsame := List.Forall₂.get hall (by rw [hall.length_eq]; exact hindex) hindex
  have hsmall := List.all_eq_true.mp hletters _
    (List.get_mem letters.toList ⟨index, by rw [hall.length_eq]; exact hindex⟩)
  rw [Bool.and_eq_true, decide_eq_true_eq, decide_eq_true_eq] at hsmall
  apply isPlain_of_isNameLetter
  rw [beq_iff_eq] at hsame
  rw [IsNameLetter]
  change foldCase word[index] = _ at hsame
  rw [hsame]
  exact hsmall

theorem length_anyCase {letters : String} {word : List Char} (hword : (anyCase letters).Word word) :
    word.length = letters.toList.length := (Regex.word_literal.mp hword).length_eq.symm

theorem isName_of_plain {word : List Char} (hplain : ∀ character ∈ word, IsPlain character)
    (hne : word ≠ []) : IsName word where
  no_sign character hmem := (hplain character hmem).2.1
  head character hmem := hplain character (List.mem_of_head? hmem)
  last character hmem := hplain character (List.mem_of_getLast? hmem)
  ne_nil := hne

theorem isName_anyCase {letters : String} (hletters : AreSmall letters.toList = true)
    (hsome : 0 < letters.toList.length) {word : List Char} (hword : (anyCase letters).Word word) :
    IsName word := by
  apply isName_of_plain (isPlain_of_anyCase hletters hword)
  rw [← List.length_pos_iff, length_anyCase hword]
  exact hsome

/-- A gap is no sign. -/
theorem isSign_of_isGap {character : Char} (hgap : isGap character = true) :
    isSign character = false := by
  rw [isGap, Bool.or_eq_true, Bool.or_eq_true, beq_iff_eq, beq_iff_eq, beq_iff_eq] at hgap
  rcases hgap with (rfl | rfl) | rfl <;> decide

/-- Two names with at most a gap between them. -/
theorem isName_apiKey {word : List Char}
    (hword : (Regex.seq (anyCase "api")
      (.seq (Regex.optional (.test isGap)) (anyCase "key"))).Word word) : IsName word := by
  obtain ⟨front, back, rfl, hfront, middle, key, rfl, hmiddle, hkey⟩ := hword
  have hapi := isName_anyCase (by decide) (by decide) hfront
  have hkey := isName_anyCase (by decide) (by decide) hkey
  constructor
  case no_sign =>
    intro character hmem
    rw [List.mem_append, List.mem_append] at hmem
    rcases hmem with hmem | hmem | hmem
    · exact hapi.no_sign character hmem
    · rcases hmiddle with ⟨gap, hgap, rfl⟩ | hempty
      · rw [List.mem_singleton] at hmem
        rw [hmem]
        exact isSign_of_isGap hgap
      · have hnil : middle = [] := hempty
        rw [hnil] at hmem
        cases hmem
    · exact hkey.no_sign character hmem
  case head =>
    intro character hmem
    rw [List.head?_append_of_ne_nil _ hapi.ne_nil] at hmem
    exact hapi.head character hmem
  case last =>
    intro character hmem
    rw [List.getLast?_append_of_ne_nil _ (List.append_ne_nil_of_right_ne_nil _ hkey.ne_nil),
      List.getLast?_append_of_ne_nil _ hkey.ne_nil] at hmem
    exact hkey.last character hmem
  case ne_nil => exact List.append_ne_nil_of_left_ne_nil hapi.ne_nil _

theorem isName_of_keyword {word : List Char} (hword : keyword.Word word) : IsName word := by
  rw [keyword, Regex.word_oneOf] at hword
  obtain ⟨body, hbody, hword⟩ := hword
  simp only [List.mem_cons, List.not_mem_nil, or_false] at hbody
  rcases hbody with rfl | rfl | rfl | rfl | rfl | rfl
  case inr.inl => exact isName_apiKey hword
  all_goals exact isName_anyCase (by decide) (by decide) hword

/-! ## Announcements -/

/-- The text goes on with white space, a sign, white space and a value. -/
def Assigns (text : List Char) : Prop :=
  ∃ gap sign blank value behind, text = gap ++ sign :: (blank ++ value :: behind) ∧
    (∀ character ∈ gap, isSpace character = true) ∧ isSign sign = true ∧
    (∀ character ∈ blank, isSpace character = true) ∧ isValueChar value = true

/-- The text begins with the name of a credential and a value. -/
def Announces (text : List Char) : Prop :=
  ∃ name behind, text = name ++ behind ∧ keyword.Word name ∧ Assigns behind

theorem Assigns.append {text : List Char} (h : Assigns text) (rest : List Char) :
    Assigns (text ++ rest) := by
  obtain ⟨gap, sign, blank, value, behind, rfl, hgap, hsign, hblank, hvalue⟩ := h
  exact ⟨gap, sign, blank, value, behind ++ rest, by simp, hgap, hsign, hblank, hvalue⟩

/-- What the pattern reads behind a name assigns a value. -/
theorem assigns_of_word {word : List Char} (hword : secretTail.Word word) : Assigns word := by
  obtain ⟨gap, rest, rfl, hgap, signs, assigned, rfl, ⟨sign, hsign, rfl⟩, hassigned⟩ := hword
  obtain ⟨blank, rest, rfl, hblank, bearer, credential, rfl, hbearer, hcredential⟩ := hassigned
  obtain ⟨first, more, rfl, ⟨value, hvalue, rfl⟩, -⟩ := hcredential
  rcases hbearer with ⟨scheme, spaces, rfl, hscheme, -⟩ | hempty
  · have hname : IsName scheme := isName_anyCase (by decide) (by decide) hscheme
    cases scheme with
    | nil => exact absurd rfl hname.ne_nil
    | cons letter scheme =>
        exact ⟨gap, sign, blank, letter, scheme ++ spaces ++ ([value] ++ more), by simp, hgap, hsign,
          hblank, (hname.head letter rfl).2.2⟩
  · obtain rfl : bearer = [] := hempty
    exact ⟨gap, sign, blank, value, more, by simp, hgap, hsign, hblank, hvalue⟩

/-- The shortest value is one that the pattern reads. -/
theorem exists_word_of_assigns {text : List Char} (h : Assigns text) :
    ∃ word rest, text = word ++ rest ∧ secretTail.Word word := by
  obtain ⟨gap, sign, blank, value, behind, rfl, hgap, hsign, hblank, hvalue⟩ := h
  refine ⟨gap ++ sign :: (blank ++ [value]), behind, by simp, gap, _, rfl, hgap, [sign], _, rfl,
    ⟨sign, hsign, rfl⟩, blank, _, rfl, hblank, [], [value], rfl, .inr rfl, [value], [], rfl,
    ⟨value, hvalue, rfl⟩, fun character hmem => absurd hmem List.not_mem_nil⟩

theorem boundaryFree_keyword : keyword.BoundaryFree :=
  ⟨Regex.boundaryFree_literal _ _,
    ⟨Regex.boundaryFree_literal _ _, ⟨trivial, trivial⟩, Regex.boundaryFree_literal _ _⟩,
    Regex.boundaryFree_literal _ _, Regex.boundaryFree_literal _ _, Regex.boundaryFree_literal _ _,
    Regex.boundaryFree_literal _ _⟩

theorem boundaryFree_secretPattern : secretPattern.BoundaryFree :=
  ⟨boundaryFree_keyword, trivial, trivial, trivial,
    ⟨⟨Regex.boundaryFree_literal _ _, trivial, trivial⟩, trivial⟩, trivial, trivial⟩

theorem groupFree_keyword : keyword.GroupFree :=
  ⟨Regex.groupFree_literal _ _,
    ⟨Regex.groupFree_literal _ _, ⟨trivial, trivial⟩, Regex.groupFree_literal _ _⟩,
    Regex.groupFree_literal _ _, Regex.groupFree_literal _ _, Regex.groupFree_literal _ _,
    Regex.groupFree_literal _ _⟩

theorem groupFree_secretTail : secretTail.GroupFree :=
  ⟨trivial, trivial, trivial, ⟨⟨Regex.groupFree_literal _ _, trivial, trivial⟩, trivial⟩, trivial,
    trivial⟩

theorem matchAt_isSome_iff_announces (place : Regex.Place) :
    (secretPattern.matchAt place).isSome = true ↔ Announces place.rest := by
  rw [Regex.matchAt_isSome_iff boundaryFree_secretPattern]
  constructor
  · rintro ⟨word, ⟨rest, hrest⟩, name, tail, rfl, hname, htail⟩
    exact ⟨name, tail ++ rest, by rw [← hrest, List.append_assoc], hname,
      (assigns_of_word htail).append rest⟩
  · rintro ⟨name, behind, htext, hname, hassigns⟩
    obtain ⟨tail, rest, rfl, htail⟩ := exists_word_of_assigns hassigns
    exact ⟨name ++ tail, ⟨rest, by rw [htext, List.append_assoc]⟩, name, tail, rfl, hname, htail⟩

/-- The text does not go on with a character of a value. -/
def Stops (text : List Char) : Prop := ∀ character ∈ text.head?, isValueChar character = false

/-- A match reads a name and a value, as far as the value goes. -/
theorem matchAt_eq_some {place : Regex.Place} {run : Regex.Run}
    (h : secretPattern.matchAt place = some run) :
    ∃ name middle last, place.rest = name ++ middle.rest ∧ keyword.Word name ∧
      secretTail.matchAt middle = some last ∧ run = ⟨[name], last.after⟩ ∧ Stops last.after.rest := by
  obtain ⟨middle, last, hmiddle, hlast, rfl⟩ := Regex.matchAt_seq h
  obtain ⟨name, inner, hinner, hrest, hname, rfl⟩ := Regex.mem_runs_group hmiddle
  have hgroups := Regex.groups_eq_nil groupFree_secretTail (Regex.mem_of_matchAt hlast)
  refine ⟨name, inner.after, last, hrest, hname, hlast, ?_, ?_⟩
  · rw [Regex.groups_eq_nil groupFree_keyword hinner, hgroups]
    rfl
  · obtain ⟨_, signed, _, hsigned, rfl⟩ := Regex.matchAt_seq hlast
    obtain ⟨_, assigned, _, hassigned, rfl⟩ := Regex.matchAt_seq hsigned
    obtain ⟨_, credential, _, hcredential, rfl⟩ := Regex.matchAt_seq hassigned
    obtain ⟨_, value, _, hvalue, rfl⟩ := Regex.matchAt_seq hcredential
    have hstops := Regex.stops_of_oneOrMore hvalue
    exact hstops

/-! ## Sanitizing twice -/

/-- The last character is neither white space nor a sign. -/
def EndsPlain (text : List Char) : Prop := ∃ last, text.getLast? = some last ∧ IsPlain last

theorem endsPlain_of_isName {front name : List Char} (hname : IsName name) :
    EndsPlain (front ++ name) := by
  obtain ⟨last, hlast⟩ := List.getLast?_isSome.mpr hname.ne_nil |> Option.isSome_iff_exists.mp
  refine ⟨last, ?_, hname.last last hlast⟩
  rw [List.getLast?_append_of_ne_nil _ hname.ne_nil, hlast]

/-- Nothing but white space and signs does not end plainly. -/
theorem not_endsPlain {text : List Char}
    (hmarks : ∀ character ∈ text, isSpace character = true ∨ isSign character = true) :
    ¬EndsPlain text := by
  rintro ⟨last, hlast, hspace, hsign, -⟩
  rcases hmarks last (List.mem_of_getLast? hlast) with h | h
  · rw [hspace] at h
    cases h
  · rw [hsign] at h
    cases h

theorem EndsPlain.of_append {front back : List Char} (h : EndsPlain (front ++ back))
    (hback : back ≠ []) : EndsPlain back := by
  obtain ⟨last, hlast, hplain⟩ := h
  rw [List.getLast?_append_of_ne_nil _ hback] at hlast
  exact ⟨last, hlast, hplain⟩

/-- What stands between a name and a sign behind it does not end plainly; up to a value the text is
one that assigns. -/
theorem assigns_of_endsPlain {front rest : List Char} {sign : Char}
    (hassigns : Assigns (front ++ sign :: rest)) (hends : EndsPlain front) (more : List Char) :
    Assigns (front ++ more) := by
  obtain ⟨gap, first, blank, value, behind, htext, hgap, hfirst, hblank, hvalue⟩ := hassigns
  have hmarks : ∀ text : List Char, (∀ character ∈ text, isSpace character = true) →
      ∀ character ∈ text, isSpace character = true ∨ isSign character = true :=
    fun text hspaces character hmem => .inl (hspaces character hmem)
  rcases List.append_eq_append_iff.mp htext with ⟨cut, hcut, -⟩ | ⟨cut, hcut, hrest⟩
  · -- The front ends within the first white space.
    refine absurd hends (not_endsPlain (hmarks front fun character hmem => hgap character ?_))
    rw [hcut]
    exact List.mem_append_left _ hmem
  · cases cut with
    | nil =>
        rw [List.append_nil] at hcut
        rw [hcut] at hends
        exact absurd hends (not_endsPlain (hmarks gap hgap))
    | cons mark cut =>
        rw [List.cons_append, List.cons.injEq] at hrest
        obtain ⟨rfl, hrest⟩ := hrest
        have hsigned : ∀ text : List Char, (∀ character ∈ text, isSpace character = true) →
            ¬EndsPlain (gap ++ first :: text) := by
          intro text hspaces
          apply not_endsPlain
          intro character hmem
          rw [List.mem_append, List.mem_cons] at hmem
          rcases hmem with hmem | rfl | hmem
          · exact .inl (hgap character hmem)
          · exact .inr hfirst
          · exact .inl (hspaces character hmem)
        rw [hcut] at hends ⊢
        rcases List.append_eq_append_iff.mp hrest with ⟨inner, hinner, hbehind⟩ | ⟨inner, hinner, -⟩
        · cases inner with
          | nil =>
              rw [List.append_nil] at hinner
              rw [hinner] at hends
              exact absurd hends (hsigned blank hblank)
          | cons letter inner =>
              obtain ⟨rfl, -⟩ := List.cons.inj hbehind
              exact ⟨gap, first, blank, value, inner ++ more, by rw [hinner]; simp, hgap, hfirst,
                hblank, hvalue⟩
        · refine absurd hends (hsigned cut fun character hmem => hblank character ?_)
          rw [hinner]
          exact List.mem_append_left _ hmem

/-- A name at the beginning, in front of what is written for a value, is the whole of it. -/
theorem name_of_replaced {name found more behind : List Char} (hname : IsName name)
    (hfound : IsName found) (hassigns : Assigns behind)
    (htext : name ++ redactedMark ++ more = found ++ behind) :
    name = found ∧ behind = redactedMark ++ more := by
  rw [List.append_assoc] at htext
  rcases List.append_eq_append_iff.mp htext with ⟨cut, hcut, hrest⟩ | ⟨cut, hcut, hrest⟩
  · cases cut with
    | nil =>
        rw [List.append_nil] at hcut
        exact ⟨hcut.symm, hrest.symm⟩
    | cons mark cut =>
        obtain ⟨rfl, -⟩ := List.cons.inj hrest
        exact absurd (hfound.no_sign ':' (by rw [hcut]; simp)) (by decide)
  · cases cut with
    | nil =>
        rw [List.append_nil] at hcut
        exact ⟨hcut, hrest⟩
    | cons letter cut =>
        have hends : EndsPlain (letter :: cut) := by
          have hwhole := @endsPlain_of_isName [] name hname
          rw [List.nil_append, hcut] at hwhole
          exact hwhole.of_append (List.cons_ne_nil _ _)
        rw [hrest] at hassigns
        obtain ⟨gap, sign, blank, value, rest, htext, hgap, hsign, hblank, hvalue⟩ := hassigns
        rcases List.append_eq_append_iff.mp htext with ⟨inner, hinner, -⟩ | ⟨inner, hinner, hrest⟩
        · refine absurd hends (not_endsPlain fun character hmem => .inl (hgap character ?_))
          rw [hinner]
          exact List.mem_append_left _ hmem
        · cases inner with
          | nil =>
              rw [List.append_nil] at hinner
              exact absurd hends (not_endsPlain fun character hmem =>
                .inl (hgap character (hinner ▸ hmem)))
          | cons mark inner =>
              obtain ⟨rfl, -⟩ := List.cons.inj hrest
              have hsigned := hname.no_sign sign (by rw [hcut, hinner]; simp)
              rw [hsign] at hsigned
              cases hsigned

/-- What is written for a value is no better an announcement than the value was. -/
theorem announces_of_replaced {front name tail behind more : List Char} (hname : IsName name)
    (htail : secretTail.Word tail) (h : Announces (front ++ name ++ (redactedMark ++ more))) :
    Announces (front ++ name ++ (tail ++ behind)) := by
  obtain ⟨found, rest, htext, hfound, hassigns⟩ := h
  have hends : EndsPlain (front ++ name) := endsPlain_of_isName hname
  rcases List.append_eq_append_iff.mp htext with ⟨cut, hcut, hrest⟩ | ⟨cut, hcut, hrest⟩
  · cases cut with
    | nil =>
        rw [List.append_nil] at hcut
        rw [← hcut]
        exact ⟨found, _, rfl, hfound, (assigns_of_word htail).append behind⟩
    | cons mark cut =>
        obtain ⟨rfl, -⟩ := List.cons.inj hrest
        exact absurd ((isName_of_keyword hfound).no_sign ':' (by rw [hcut]; simp)) (by decide)
  · rw [hcut] at hends ⊢
    by_cases hempty : cut = []
    · rw [hempty, List.append_nil]
      exact ⟨found, _, rfl, hfound, (assigns_of_word htail).append behind⟩
    · rw [hrest] at hassigns
      refine ⟨found, cut ++ (tail ++ behind), List.append_assoc _ _ _, hfound, ?_⟩
      exact assigns_of_endsPlain hassigns (hends.of_append hempty) _

theorem not_word_nil : ¬secretPattern.Word [] := by
  rintro ⟨front, back, hnil, hfront, -⟩
  exact (isName_of_keyword hfront).ne_nil (List.append_eq_nil_iff.mp hnil.symm).1

theorem sub_of_matchAt {before : Option Char} {text name : List Char} {after : Regex.Place}
    (h : secretPattern.matchAt ⟨before, text⟩ = some ⟨[name], after⟩) :
    secretPattern.sub redaction before 0 text =
      name ++ (redactedMark ++ secretPattern.sub redaction after.before 0 after.rest) := by
  rw [Regex.sub_of_match h not_word_nil, ← List.append_assoc]
  rfl

/-- The text in front of the first replacement is kept. -/
theorem sub_cases (before : Option Char) (text : List Char) :
    secretPattern.sub redaction before 0 text = text ∨
      ∃ front name tail behind more, text = front ++ name ++ (tail ++ behind) ∧
        secretPattern.sub redaction before 0 text = front ++ name ++ (redactedMark ++ more) ∧
          IsName name ∧ secretTail.Word tail := by
  induction text generalizing before with
  | nil => exact .inl rfl
  | cons character text ih =>
      cases hmatch : secretPattern.matchAt ⟨before, character :: text⟩ with
      | none =>
          rw [Regex.sub_of_none _ _ _ _ hmatch]
          rcases ih (some character) with hsame | ⟨front, name, tail, behind, more, htext, hsub, h⟩
          · exact .inl (congrArg _ hsame)
          · exact .inr ⟨character :: front, name, tail, behind, more, congrArg _ htext,
              congrArg _ hsub, h⟩
      | some run =>
          obtain ⟨name, middle, last, hrest, hname, hlast, rfl, -⟩ := matchAt_eq_some hmatch
          obtain ⟨tail, htail, hword, -⟩ := Regex.exists_word (Regex.mem_of_matchAt hlast)
          refine .inr ⟨[], name, tail, last.after.rest,
            secretPattern.sub redaction last.after.before 0 last.after.rest, ?_,
            sub_of_matchAt hmatch, isName_of_keyword hname, hword⟩
          rw [← htail]
          exact hrest

/-- `[REDACTED]` -/
def redactedWord : List Char := ['[', 'R', 'E', 'D', 'A', 'C', 'T', 'E', 'D', ']']

theorem redactedMark_append (more : List Char) :
    redactedMark ++ more = ':' :: ' ' :: (redactedWord ++ more) := rfl

theorem redactedWord_values : redactedWord.all isValueChar = true := by decide

/-- No `bearer` begins with a bracket. -/
theorem bearer_bracket (before : Option Char) (more : List Char) :
    (Regex.seq (anyCase "bearer") (Regex.oneOrMore isSpace)).matchAt
      ⟨before, '[' :: more⟩ = none := by
  have hfree : (Regex.seq (anyCase "bearer") (Regex.oneOrMore isSpace)).BoundaryFree :=
    ⟨Regex.boundaryFree_literal _ _, trivial, trivial⟩
  rw [← Option.not_isSome_iff_eq_none, Regex.matchAt_isSome_iff hfree]
  rintro ⟨word, hbefore, scheme, spaces, rfl, hscheme, -⟩
  have hletters : "bearer".toList = ['b', 'e', 'a', 'r', 'e', 'r'] := by decide
  rw [anyCase, hletters, Regex.word_literal] at hscheme
  cases hscheme with
  | cons hletter _ =>
      obtain ⟨rfl, -⟩ := List.cons_prefix_cons.mp hbefore
      exact absurd hletter (by decide)

/-- The value that is written is read up to where it ends. -/
theorem matchAt_redactedMark (before : Option Char) {more : List Char} (hstops : Stops more) :
    ∃ last, secretTail.matchAt ⟨before, redactedMark ++ more⟩ = some last ∧
      last.after.rest = more := by
  have hspace : ∀ character rest, isSpace character = false →
      List.takeWhile isSpace (character :: rest) = [] ∧
        List.dropWhile isSpace (character :: rest) = character :: rest := by
    intro character rest h
    rw [List.takeWhile_cons, List.dropWhile_cons, h]
    exact ⟨rfl, rfl⟩
  have hgap := Regex.matchAt_repeated isSpace ⟨before, redactedMark ++ more⟩
  rw [redactedMark_append, (hspace ':' _ (by decide)).1, (hspace ':' _ (by decide)).2] at hgap
  have hsign : (Regex.test isSign).matchAt ⟨before, ':' :: ' ' :: (redactedWord ++ more)⟩ =
      some ⟨[], ⟨some ':', ' ' :: (redactedWord ++ more)⟩⟩ := Regex.matchAt_test _ _ (by decide)
  have hblank := Regex.matchAt_repeated isSpace ⟨some ':', ' ' :: (redactedWord ++ more)⟩
  have hword : List.dropWhile isSpace (' ' :: (redactedWord ++ more)) = redactedWord ++ more := by
    rw [List.dropWhile_cons, if_pos (by decide)]
    exact (hspace '[' _ (by decide)).2
  rw [hword] at hblank
  generalize hplace : Regex.Place.past ⟨some ':', ' ' :: (redactedWord ++ more)⟩
    (List.takeWhile isSpace (' ' :: (redactedWord ++ more))) (redactedWord ++ more) = place at hblank
  have hrest : place.rest = redactedWord ++ more := by rw [← hplace, Regex.Place.past_rest]
  have hbearer : (Regex.optional (.seq (anyCase "bearer") (Regex.oneOrMore isSpace))).matchAt
      place = some ⟨[], place⟩ := by
    obtain ⟨previous, text⟩ := place
    obtain rfl : text = redactedWord ++ more := hrest
    rw [Regex.optional, Regex.matchAt_alt]
    exact congrArg (Option.or · _) (bearer_bracket previous _)
  have hvalue : ∃ last, (Regex.oneOrMore isValueChar).matchAt place = some last ∧
      last.after.rest = more := by
    obtain ⟨previous, text⟩ := place
    obtain rfl : text = redactedWord ++ more := hrest
    refine ⟨_, Regex.matchAt_seq_of_matchAt (Regex.matchAt_test previous _ (by decide))
      (Regex.matchAt_repeated isValueChar _), ?_⟩
    show List.dropWhile isValueChar (redactedWord.tail ++ more) = more
    have htail : ∀ character ∈ redactedWord.tail, isValueChar character = true :=
      fun character hmem => List.all_eq_true.mp redactedWord_values _ (List.mem_of_mem_tail hmem)
    rw [List.dropWhile_append_of_pos htail]
    cases more with
    | nil => rfl
    | cons character more => rw [List.dropWhile_cons, hstops character rfl]; rfl
  obtain ⟨last, hlast, hend⟩ := hvalue
  exact ⟨_, Regex.matchAt_seq_of_matchAt hgap (Regex.matchAt_seq_of_matchAt hsign
    (Regex.matchAt_seq_of_matchAt hblank (Regex.matchAt_seq_of_matchAt hbearer hlast))), hend⟩

/-- The name in front of a replacement is found again, with the replacement as its value. -/
theorem matchAt_replaced (before : Option Char) {name more : List Char}
    (hname : keyword.Word name) (hstops : Stops more) :
    ∃ after, secretPattern.matchAt ⟨before, name ++ (redactedMark ++ more)⟩ = some ⟨[name], after⟩ ∧
      after.rest = more := by
  have hassigns : Assigns (redactedMark ++ more) :=
    ⟨[], ':', [' '], '[', redactedWord.tail ++ more, rfl, fun _ h => absurd h List.not_mem_nil,
      by decide, fun _ h => by rw [List.mem_singleton.mp h]; decide, by decide⟩
  obtain ⟨run, hrun⟩ := Option.isSome_iff_exists.mp ((matchAt_isSome_iff_announces
    ⟨before, name ++ (redactedMark ++ more)⟩).mpr ⟨name, _, rfl, hname, hassigns⟩)
  obtain ⟨found, middle, last, hrest, hfound, hlast, rfl, -⟩ := matchAt_eq_some hrun
  have hbehind : Assigns middle.rest := by
    obtain ⟨tail, htail, hword, -⟩ := Regex.exists_word (Regex.mem_of_matchAt hlast)
    rw [htail]
    exact (assigns_of_word hword).append _
  obtain ⟨rfl, hmiddle⟩ := name_of_replaced (isName_of_keyword hname) (isName_of_keyword hfound)
    hbehind ((List.append_assoc _ _ _).trans hrest)
  obtain ⟨previous, text⟩ := middle
  obtain rfl : text = redactedMark ++ more := hmiddle
  obtain ⟨other, hother, hend⟩ := matchAt_redactedMark previous hstops
  obtain rfl := Option.some.inj (hlast.symm.trans hother)
  exact ⟨last.after, hrun, hend⟩

/-- What stops a value also does so after it was sanitized. -/
theorem stops_sub {text : List Char} (hstops : Stops text) (before : Option Char) :
    Stops (secretPattern.sub redaction before 0 text) := by
  cases text with
  | nil => exact hstops
  | cons character text =>
      have hnone : secretPattern.matchAt ⟨before, character :: text⟩ = none := by
        rw [← Option.not_isSome_iff_eq_none, matchAt_isSome_iff_announces]
        rintro ⟨name, behind, htext, hname, -⟩
        have hword := isName_of_keyword hname
        cases name with
        | nil => exact hword.ne_nil rfl
        | cons letter name =>
            obtain ⟨rfl, -⟩ := List.cons.inj htext
            have hvalue := (hword.head character rfl).2.2
            rw [hstops character rfl] at hvalue
            cases hvalue
      rw [Regex.sub_of_none _ _ _ _ hnone]
      exact hstops

/-- Sanitizing is idempotent. -/
theorem sub_sub (before again : Option Char) (text : List Char) :
    secretPattern.sub redaction again 0 (secretPattern.sub redaction before 0 text) =
      secretPattern.sub redaction before 0 text := by
  -- Induction on the length: a match leaves a shorter text behind.
  induction hlength : text.length using Nat.strong_induction_on generalizing text before again with
  | _ length ih =>
      cases text with
      | nil => rfl
      | cons character text =>
          cases hmatch : secretPattern.matchAt ⟨before, character :: text⟩ with
          | none =>
              rw [Regex.sub_of_none _ _ _ _ hmatch]
              have hnone : secretPattern.matchAt ⟨again, character ::
                  secretPattern.sub redaction (some character) 0 text⟩ = none := by
                rw [← Option.not_isSome_iff_eq_none, matchAt_isSome_iff_announces] at hmatch ⊢
                rcases sub_cases (some character) text with
                  hsame | ⟨front, name, tail, behind, more, htext, hsub, hname, htail⟩
                · rw [hsame]
                  exact hmatch
                · rw [hsub]
                  rw [htext] at hmatch
                  exact fun h => hmatch (@announces_of_replaced (character :: front) name tail behind
                    more hname htail h)
              rw [Regex.sub_of_none _ _ _ _ hnone]
              exact congrArg _ (ih text.length (by rw [← hlength]; exact Nat.lt_succ_self _) _ _ text
                rfl)
          | some run =>
              obtain ⟨name, middle, last, hrest, hname, hlast, rfl, hstops⟩ := matchAt_eq_some hmatch
              obtain ⟨tail, htail, -, -⟩ := Regex.exists_word (Regex.mem_of_matchAt hlast)
              obtain ⟨after, hagain, hafter⟩ :=
                matchAt_replaced again hname (stops_sub hstops last.after.before)
              rw [sub_of_matchAt hmatch, sub_of_matchAt hagain, hafter]
              have hshorter : last.after.rest.length < length := by
                have hne := List.length_pos_iff.mpr (isName_of_keyword hname).ne_nil
                have hsum := congrArg List.length hrest
                rw [List.length_append, htail, List.length_append] at hsum
                change (character :: text).length = _ at hsum
                omega
              rw [ih _ hshorter _ _ _ rfl]

/-- A text that was sanitized holds nothing that is sanitized once more. -/
theorem sanitize_sanitize (text : String) : sanitize (sanitize text) = sanitize text := by
  rw [sanitize, sanitize, String.toList_ofList, sub_sub]

theorem sanitize_ne_empty {text : String} (hne : text ≠ "") : sanitize text ≠ "" := by
  intro hempty
  have hnil : secretPattern.sub redaction none 0 text.toList = [] := by
    rw [← String.toList_ofList (l := secretPattern.sub redaction none 0 text.toList)]
    exact congrArg String.toList hempty
  rcases sub_cases none text.toList with hsame | ⟨front, name, -, -, more, -, hsub, -, -⟩
  · rw [hsame] at hnil
    exact hne (String.toList_eq_nil_iff.mp hnil)
  · rw [hsub] at hnil
    exact absurd (List.append_eq_nil_iff.mp (List.append_eq_nil_iff.mp hnil).2).1 (by decide)

/-! ## Texts that fit -/

/-- The text passes the check of `_sanitize_text`. -/
def Fits (text : String) : Prop := text.length ≤ 256

theorem sanitizeText_eq_ok {path given stored : String}
    (h : sanitizeText path given = .ok stored) : Fits given ∧ stored = sanitize given := by
  rw [sanitizeText] at h
  split at h
  · cases h
  · next hlength => exact ⟨Nat.not_lt.mp hlength, (Except.ok.inj h).symm⟩

/-- A stored text is stored again as it is, when it fits. -/
theorem sanitizeText_stored {path given stored : String}
    (h : sanitizeText path given = .ok stored) (hfits : Fits stored) :
    sanitizeText path stored = .ok stored := by
  have hstored : stored = sanitize given := (sanitizeText_eq_ok h).2
  calc sanitizeText path stored
    _ = .ok (sanitize stored) := by rw [sanitizeText, if_neg (Nat.not_lt.mpr hfits)]
    _ = .ok stored := by rw [hstored, sanitize_sanitize]

theorem mapM_sanitizeText_stored {path : String} {given stored : List String}
    (h : given.mapM (sanitizeText path) = .ok stored) (hfits : ∀ text ∈ stored, Fits text) :
    stored.mapM (sanitizeText path) = .ok stored := by
  induction given generalizing stored with
  | nil =>
      cases h
      rfl
  | cons text given ih =>
      rw [List.mapM_cons] at h
      cases hhead : sanitizeText path text with
      | error error =>
          rw [hhead] at h
          cases h
      | ok head =>
          rw [hhead] at h
          obtain ⟨tail, htail, rfl⟩ := map_eq_ok h
          rw [List.forall_mem_cons] at hfits
          rw [List.mapM_cons, sanitizeText_stored hhead hfits.1, ih htail hfits.2]
          rfl

theorem fits_of_mapM {path : String} {texts stored : List String}
    (h : texts.mapM (sanitizeText path) = .ok stored) : ∀ text ∈ texts, Fits text := by
  induction texts generalizing stored with
  | nil => exact fun _ hmem => absurd hmem List.not_mem_nil
  | cons text texts ih =>
      rw [List.mapM_cons] at h
      cases hhead : sanitizeText path text with
      | error error =>
          rw [hhead] at h
          cases h
      | ok head =>
          rw [hhead] at h
          obtain ⟨tail, htail, -⟩ := map_eq_ok h
          exact List.forall_mem_cons.mpr ⟨(sanitizeText_eq_ok hhead).1, ih htail⟩

theorem length_of_mapM {path : String} {texts stored : List String}
    (h : texts.mapM (sanitizeText path) = .ok stored) : stored.length = texts.length := by
  induction texts generalizing stored with
  | nil =>
      cases h
      rfl
  | cons text texts ih =>
      rw [List.mapM_cons] at h
      cases hhead : sanitizeText path text with
      | error error =>
          rw [hhead] at h
          cases h
      | ok head =>
          rw [hhead] at h
          obtain ⟨tail, htail, rfl⟩ := map_eq_ok h
          exact congrArg (· + 1) (ih htail)

theorem sanitizeWarnings_stored {path : String} {given stored : List String}
    (h : sanitizeWarnings path given = .ok stored) (hfits : ∀ text ∈ stored, Fits text) :
    sanitizeWarnings path stored = .ok stored := by
  rw [sanitizeWarnings] at h ⊢
  split at h
  · cases h
  · next hlength =>
      rw [length_of_mapM h, if_neg hlength]
      exact mapM_sanitizeText_stored h hfits

theorem fits_of_sanitizeWarnings {path : String} {texts stored : List String}
    (h : sanitizeWarnings path texts = .ok stored) : ∀ text ∈ texts, Fits text := by
  rw [sanitizeWarnings] at h
  split at h
  · cases h
  · exact fits_of_mapM h

/-! ## Frozen values read back -/

mutual

/-- The strings inside a value, keys apart. -/
def texts : Value → List String
  | .str text => [text]
  | .dict entries => textsOfEntries entries
  | .proxy entries => textsOfEntries entries
  | .list items => textsOfItems items
  | .tuple items => textsOfItems items
  | .none | .bool _ | .int _ | .float _ | .other => []

def textsOfItems : List Value → List String
  | [] => []
  | nested :: items => texts nested ++ textsOfItems items

def textsOfEntries : List (Key × Value) → List String
  | [] => []
  | (_, nested) :: entries => texts nested ++ textsOfEntries entries

end

mutual

theorem texts_thawJson (value : Value) : texts (thawJson value) = texts value := by
  cases value with
  | none | bool _ | int _ | float _ | str _ | other | list _ => rfl
  | dict entries | proxy entries => exact texts_thawJsonEntries entries
  | tuple items => exact texts_thawJsonItems items

theorem texts_thawJsonItems (items : List Value) :
    textsOfItems (thawJsonItems items) = textsOfItems items := by
  cases items with
  | nil => rfl
  | cons nested items =>
      show texts (thawJson nested) ++ textsOfItems (thawJsonItems items) = _
      rw [texts_thawJson nested, texts_thawJsonItems items]
      rfl

theorem texts_thawJsonEntries (entries : List (Key × Value)) :
    textsOfEntries (thawJsonEntries entries) = textsOfEntries entries := by
  cases entries with
  | nil => rfl
  | cons entry entries =>
      show texts (thawJson entry.2) ++ textsOfEntries (thawJsonEntries entries) = _
      rw [texts_thawJson entry.2, texts_thawJsonEntries entries]
      rfl

end

theorem length_thawJsonItems (items : List Value) : (thawJsonItems items).length = items.length := by
  induction items with
  | nil => rfl
  | cons nested items ih => exact congrArg (· + 1) ih

theorem length_thawJsonEntries (entries : List (Key × Value)) :
    (thawJsonEntries entries).length = entries.length := by
  induction entries with
  | nil => rfl
  | cons entry entries ih => exact congrArg (· + 1) ih

/-- Freezing in a sequence keeps its length, when its head and its tail are frozen. -/
theorem freezeItems_cons_eq_ok {path : String} {nested : Value} {items frozen : List Value}
    (h : freezeItems path (nested :: items) = .ok frozen) :
    ∃ head tail, freezeJson path nested = .ok head ∧ freezeItems path items = .ok tail ∧
      frozen = head :: tail := by
  rw [freezeItems] at h
  split at h
  · cases h
  · next head hhead =>
      obtain ⟨tail, htail, rfl⟩ := map_eq_ok h
      exact ⟨head, tail, hhead, htail, rfl⟩

theorem freezeEntries_cons_eq_ok {path : String} {entry : Key × Value}
    {entries frozen : List (Key × Value)} (h : freezeEntries path (entry :: entries) = .ok frozen) :
    ∃ key head tail, entry.1 = .text key ∧ key.length ≤ 64 ∧
      freezeJson (path ++ "." ++ key) entry.2 = .ok head ∧ freezeEntries path entries = .ok tail ∧
        frozen = (.text key, head) :: tail := by
  obtain ⟨key | _, nested⟩ := entry
  · rw [freezeEntries] at h
    split at h
    · cases h
    · next hlength =>
        split at h
        · cases h
        · next head hhead =>
            obtain ⟨tail, htail, rfl⟩ := map_eq_ok h
            exact ⟨key, head, tail, rfl, Nat.not_lt.mp hlength, hhead, htail, rfl⟩
  · cases h

theorem length_freezeItems {path : String} {items frozen : List Value}
    (h : freezeItems path items = .ok frozen) : frozen.length = items.length := by
  induction items generalizing frozen with
  | nil =>
      cases h
      rfl
  | cons nested items ih =>
      obtain ⟨head, tail, -, htail, rfl⟩ := freezeItems_cons_eq_ok h
      exact congrArg (· + 1) (ih htail)

theorem length_freezeEntries {path : String} {entries frozen : List (Key × Value)}
    (h : freezeEntries path entries = .ok frozen) : frozen.length = entries.length := by
  induction entries generalizing frozen with
  | nil =>
      cases h
      rfl
  | cons entry entries ih =>
      obtain ⟨key, head, tail, -, -, -, htail, rfl⟩ := freezeEntries_cons_eq_ok h
      exact congrArg (· + 1) (ih htail)

/-- A bounded container is frozen item by item. -/
theorem bounded_eq_ok {α β : Type} {path : String} {length : Nat} {result : Except ReportError α}
    {f : α → β} {value : β}
    (h : (if 32 < length then reportError path else result.map f) = .ok value) :
    length ≤ 32 ∧ ∃ raw, result = .ok raw ∧ value = f raw := by
  split at h
  · cases h
  · next hlength => exact ⟨Nat.not_lt.mp hlength, map_eq_ok h⟩

mutual

/-- A frozen value thaws and freezes to itself, when its strings fit. -/
theorem freezeJson_thawed (path : String) (value : Value) {frozen : Value}
    (h : freezeJson path value = .ok frozen) (hfits : ∀ text ∈ texts frozen, Fits text) :
    freezeJson path (thawJson frozen) = .ok frozen := by
  cases value with
  | none | bool _ | int _ =>
      cases h
      rfl
  | str text =>
      obtain ⟨stored, hstored, rfl⟩ := map_eq_ok h
      have hagain := sanitizeText_stored hstored (hfits stored List.mem_cons_self)
      show (sanitizeText path stored).map Value.str = _
      rw [hagain]
      rfl
  | float _ | other => cases h
  | dict entries | proxy entries =>
      obtain ⟨hlength, copied, hcopied, rfl⟩ := bounded_eq_ok h
      show (if 32 < (thawJsonEntries copied).length then reportError path
        else (freezeEntries path (thawJsonEntries copied)).map Value.proxy) = _
      rw [length_thawJsonEntries, length_freezeEntries hcopied, if_neg (Nat.not_lt.mpr hlength),
        freezeEntries_thawed path entries hcopied hfits]
      rfl
  | list items | tuple items =>
      obtain ⟨hlength, copied, hcopied, rfl⟩ := bounded_eq_ok h
      show (if 32 < (thawJsonItems copied).length then reportError path
        else (freezeItems path (thawJsonItems copied)).map Value.tuple) = _
      rw [length_thawJsonItems, length_freezeItems hcopied, if_neg (Nat.not_lt.mpr hlength),
        freezeItems_thawed path items hcopied hfits]
      rfl

theorem freezeItems_thawed (path : String) (items : List Value) {frozen : List Value}
    (h : freezeItems path items = .ok frozen) (hfits : ∀ text ∈ textsOfItems frozen, Fits text) :
    freezeItems path (thawJsonItems frozen) = .ok frozen := by
  cases items with
  | nil =>
      cases h
      rfl
  | cons nested items =>
      obtain ⟨head, tail, hhead, htail, rfl⟩ := freezeItems_cons_eq_ok h
      have hboth := List.forall_mem_append.mp hfits
      rw [thawJsonItems, freezeItems, freezeJson_thawed path nested hhead hboth.1,
        freezeItems_thawed path items htail hboth.2]
      rfl

theorem freezeEntries_thawed (path : String) (entries : List (Key × Value))
    {frozen : List (Key × Value)} (h : freezeEntries path entries = .ok frozen)
    (hfits : ∀ text ∈ textsOfEntries frozen, Fits text) :
    freezeEntries path (thawJsonEntries frozen) = .ok frozen := by
  cases entries with
  | nil =>
      cases h
      rfl
  | cons entry entries =>
      obtain ⟨key, head, tail, -, hkey, hhead, htail, rfl⟩ := freezeEntries_cons_eq_ok h
      have hboth := List.forall_mem_append.mp hfits
      rw [thawJsonEntries, freezeEntries, if_neg (Nat.not_lt.mpr hkey),
        freezeJson_thawed _ entry.2 hhead hboth.1, freezeEntries_thawed path entries htail hboth.2]
      rfl

end

mutual

/-- Every string of a value that was frozen had passed the check. -/
theorem fits_of_freezeJson (path : String) (value : Value) {frozen : Value}
    (h : freezeJson path value = .ok frozen) : ∀ text ∈ texts value, Fits text := by
  cases value with
  | none | bool _ | int _ => exact fun _ hmem => absurd hmem List.not_mem_nil
  | str text =>
      obtain ⟨stored, hstored, -⟩ := map_eq_ok h
      exact List.forall_mem_singleton.mpr (sanitizeText_eq_ok hstored).1
  | float _ | other => cases h
  | dict entries | proxy entries =>
      obtain ⟨-, copied, hcopied, -⟩ := bounded_eq_ok h
      exact fits_of_freezeEntries path entries hcopied
  | list items | tuple items =>
      obtain ⟨-, copied, hcopied, -⟩ := bounded_eq_ok h
      exact fits_of_freezeItems path items hcopied

theorem fits_of_freezeItems (path : String) (items : List Value) {frozen : List Value}
    (h : freezeItems path items = .ok frozen) : ∀ text ∈ textsOfItems items, Fits text := by
  cases items with
  | nil => exact fun _ hmem => absurd hmem List.not_mem_nil
  | cons nested items =>
      obtain ⟨head, tail, hhead, htail, -⟩ := freezeItems_cons_eq_ok h
      exact List.forall_mem_append.mpr
        ⟨fits_of_freezeJson path nested hhead, fits_of_freezeItems path items htail⟩

theorem fits_of_freezeEntries (path : String) (entries : List (Key × Value))
    {frozen : List (Key × Value)} (h : freezeEntries path entries = .ok frozen) :
    ∀ text ∈ textsOfEntries entries, Fits text := by
  cases entries with
  | nil => exact fun _ hmem => absurd hmem List.not_mem_nil
  | cons entry entries =>
      obtain ⟨key, head, tail, -, -, hhead, htail, -⟩ := freezeEntries_cons_eq_ok h
      exact List.forall_mem_append.mpr
        ⟨fits_of_freezeJson _ entry.2 hhead, fits_of_freezeEntries path entries htail⟩

end

end DataSluice.Contracts
