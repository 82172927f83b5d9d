/-
# URLs read back

What `urlencode` and `urlunsplit` write is read back by `parse_qsl` and `urlsplit`: a query
gives the pairs it was made of, and a URL that was put together from well-formed parts gives
those parts, unless its authority is refused.
-/

import Mathlib.Data.List.TakeWhile
import DataSluice.Lib.Url

namespace DataSluice.Lib.Url

/-! ## Partitions -/

theorem partition_append_cons {separator : Char} {front : Text} (hfront : separator ∉ front)
    (rest : Text) : partition separator (front ++ separator :: rest) = (front, true, rest) := by
  induction front with
  | nil => exact if_pos rfl
  | cons character front ih =>
      have hne : character ≠ separator := fun h => hfront (h ▸ List.mem_cons_self)
      rw [List.cons_append, partition, if_neg hne, ih fun h => hfront (List.mem_cons_of_mem _ h)]

theorem partition_of_notMem {separator : Char} {text : Text} (htext : separator ∉ text) :
    partition separator text = (text, false, []) := by
  induction text with
  | nil => rfl
  | cons character text ih =>
      have hne : character ≠ separator := fun h => htext (h ▸ List.mem_cons_self)
      rw [partition, if_neg hne, ih fun h => htext (List.mem_cons_of_mem _ h)]

/-- A text is the first part of its partition alone, or the two parts around the separator. -/
theorem partition_cases (separator : Char) (text : Text) :
    separator ∉ text ∧ partition separator text = (text, false, []) ∨
      ∃ front rest, separator ∉ front ∧ text = front ++ separator :: rest ∧
        partition separator text = (front, true, rest) := by
  by_cases hmem : separator ∈ text
  · obtain ⟨front, rest, rfl, hfront⟩ := List.eq_append_cons_of_mem hmem
    exact .inr ⟨front, rest, hfront, rfl, partition_append_cons hfront rest⟩
  · exact .inl ⟨hmem, partition_of_notMem hmem⟩

theorem rpartition_of_notMem {separator : Char} {text : Text} (htext : separator ∉ text) :
    rpartition separator text = ([], false, text) := by
  have hreverse : separator ∉ text.reverse := fun h => htext (List.mem_reverse.mp h)
  rw [rpartition, partition_of_notMem hreverse]
  rfl

/-- What stands behind the last separator has none. -/
theorem notMem_rpartition (separator : Char) (text : Text) :
    separator ∉ (rpartition separator text).2.2 := by
  rw [rpartition]
  rcases partition_cases separator text.reverse with ⟨hnone, hparts⟩ | ⟨front, rest, hfront, -, hparts⟩
  · rw [hparts]
    exact fun h => hnone (List.mem_reverse.mpr h)
  · rw [hparts]
    exact fun h => hfront (List.mem_reverse.mp h)

theorem rpartition_subset (separator : Char) (text : Text) :
    (rpartition separator text).2.2 ⊆ text := by
  intro character hmem
  rw [rpartition] at hmem
  rcases partition_cases separator text.reverse with ⟨-, hparts⟩ | ⟨front, rest, -, htext, hparts⟩
  · rw [hparts] at hmem
    exact hmem
  · rw [hparts] at hmem
    rw [← List.mem_reverse, htext]
    exact List.mem_append_left _ (List.mem_reverse.mp hmem)

/-! ## Queries -/

/-- The characters that `quote_plus` writes. -/
def isQuoteChar (safe : Text) (character : Char) : Bool :=
  isLetter character || isDigit character || ['_', '.', '-', '~', '+', '%'].contains character ||
    safe.contains character

theorem hexDigit_quoteChar : ∀ value < 16,
    (isLetter (hexDigit value) || isDigit (hexDigit value)) = true ∧ hexDigit value ≠ '+' := by
  decide

/-- What is written for one character. -/
theorem quotePlusChar_spec {safe : Text} (hsafe : '%' ∉ safe ∧ '+' ∉ safe) (character : Char)
    (rest : Text) :
    (∀ written ∈ quotePlusChar safe character, isQuoteChar safe written = true) ∧
      unquoteBytes (((quotePlusChar safe character).map fun written =>
          if written = '+' then ' ' else written) ++ rest) =
        String.utf8EncodeChar character ++ unquoteBytes rest := by
  rw [quotePlusChar]
  split
  · next hkept =>
      obtain ⟨hascii, hescape⟩ := isAscii_of_kept hsafe.1 hkept
      have hplus : character ≠ '+' := by
        rintro rfl
        simp [isLetter, isDigit, hsafe.2] at hkept
      have hsize : character.utf8Size = 1 := by
        have hsmall : character.val < 128 := of_decide_eq_true hascii
        rw [UInt32.lt_iff_toNat_lt] at hsmall
        exact Char.utf8Size_eq_one_iff.mpr (UInt32.le_iff_toNat_le.mpr (Nat.le_of_lt_succ hsmall))
      constructor
      · intro written hwritten
        rw [List.mem_singleton.mp hwritten]
        simp only [isQuoteChar, Bool.or_eq_true, Bool.and_eq_true, List.contains_iff_mem,
          List.mem_cons, List.not_mem_nil, or_false] at hkept ⊢
        tauto
      · rw [List.map_singleton, if_neg hplus, List.singleton_append, unquoteBytes_cons hescape,
          String.utf8EncodeChar_eq_singleton hsize]
        rfl
  · split
    · next hspace =>
        subst hspace
        constructor
        · intro written hwritten
          rw [List.mem_singleton.mp hwritten]
          simp [isQuoteChar]
        · exact unquoteBytes_cons (by decide) rest
    · constructor
      · intro written hwritten
        obtain ⟨byte, -, hwritten⟩ := List.mem_flatMap.mp hwritten
        have hbyte := byte.toNat_lt
        have hhigh := (hexDigit_quoteChar (byte.toNat / 16) (by omega)).1
        have hlow := (hexDigit_quoteChar (byte.toNat % 16) (by omega)).1
        simp only [List.mem_cons, List.not_mem_nil, or_false] at hwritten
        rcases hwritten with rfl | rfl | rfl
        · simp [isQuoteChar]
        · rw [isQuoteChar, hhigh, Bool.true_or, Bool.true_or]
        · rw [isQuoteChar, hlow, Bool.true_or, Bool.true_or]
      · rw [List.map_flatMap]
        have hdigits : ∀ byte : UInt8,
            ['%', hexDigit (byte.toNat / 16), hexDigit (byte.toNat % 16)].map
                (fun written => if written = '+' then ' ' else written) =
              ['%', hexDigit (byte.toNat / 16), hexDigit (byte.toNat % 16)] := by
          intro byte
          have hbyte := byte.toNat_lt
          have hhigh := (hexDigit_quoteChar (byte.toNat / 16) (by omega)).2
          have hlow := (hexDigit_quoteChar (byte.toNat % 16) (by omega)).2
          simp [hhigh, hlow]
        simp only [hdigits]
        exact unquoteBytes_escapes _ _

theorem isQuoteChar_flatMap {safe : Text} (hsafe : '%' ∉ safe ∧ '+' ∉ safe) (text : Text) :
    ∀ written ∈ text.flatMap (quotePlusChar safe), isQuoteChar safe written = true := by
  intro written hwritten
  obtain ⟨character, -, hwritten⟩ := List.mem_flatMap.mp hwritten
  exact (quotePlusChar_spec hsafe character []).1 written hwritten

theorem unquoteParts_of_ascii {text : Text} (htext : text.all isAscii = true) (pending : Text) :
    unquoteParts pending text = Utf8.decodeReplace (unquoteBytes (pending.reverse ++ text)) := by
  induction text generalizing pending with
  | nil => rw [unquoteParts, List.append_nil]
  | cons character text ih =>
      rw [List.all_cons, Bool.and_eq_true] at htext
      rw [unquoteParts, if_pos htext.1, ih htext.2, List.reverse_cons, List.append_assoc]
      rfl

theorem isAscii_isQuoteChar {safe : Text} (hsafe : ∀ character ∈ safe, isAscii character = true)
    {character : Char} (hcharacter : isQuoteChar safe character = true) :
    isAscii character = true := by
  simp only [isQuoteChar, isLetter, isDigit, Bool.or_eq_true, Bool.and_eq_true, decide_eq_true_eq,
    List.contains_iff_mem] at hcharacter
  rcases hcharacter with ((((⟨-, h⟩ | ⟨-, h⟩) | ⟨-, h⟩) | h) | h)
  · exact decide_eq_true (UInt32.lt_of_le_of_lt h (by decide))
  · exact decide_eq_true (UInt32.lt_of_le_of_lt h (by decide))
  · exact decide_eq_true (UInt32.lt_of_le_of_lt h (by decide))
  · simp only [List.mem_cons, List.not_mem_nil, or_false] at h
    rcases h with rfl | rfl | rfl | rfl | rfl | rfl <;> decide
  · exact hsafe character h

/-- Text is read back from what `quote_plus` writes for it. -/
theorem unquotePlus_quotePlus {safe : Text} (hsafe : '%' ∉ safe ∧ '+' ∉ safe)
    (hascii : ∀ character ∈ safe, isAscii character = true) (text : Text) :
    unquotePlus (text.flatMap (quotePlusChar safe)) = text := by
  have hbytes : unquoteBytes ((text.flatMap (quotePlusChar safe)).map fun written =>
      if written = '+' then ' ' else written) = text.flatMap String.utf8EncodeChar := by
    induction text with
    | nil => rfl
    | cons character text ih =>
        rw [List.flatMap_cons, List.map_append, (quotePlusChar_spec hsafe character _).2, ih,
          List.flatMap_cons]
  have hall : ((text.flatMap (quotePlusChar safe)).map fun written =>
      if written = '+' then ' ' else written).all isAscii = true := by
    rw [List.all_eq_true]
    intro character hcharacter
    obtain ⟨written, hwritten, rfl⟩ := List.mem_map.mp hcharacter
    split
    · decide
    · exact isAscii_isQuoteChar hascii (isQuoteChar_flatMap hsafe text written hwritten)
  rw [unquotePlus, unquote, unquoteParts_of_ascii hall, List.reverse_nil, List.nil_append, hbytes,
    Utf8.decodeReplace_flatMap]

theorem mem_join {separator : Text} {parts : List Text} {character : Char}
    (hmem : character ∈ join separator parts) :
    character ∈ separator ∨ ∃ part ∈ parts, character ∈ part := by
  induction parts with
  | nil => cases hmem
  | cons part parts ih =>
      cases parts with
      | nil => exact .inr ⟨part, List.mem_singleton_self part, by simpa [join] using hmem⟩
      | cons next parts =>
          have hjoin : join separator (part :: next :: parts) =
              part ++ (separator ++ join separator (next :: parts)) := by
            simp [join]
          rw [hjoin, List.mem_append, List.mem_append] at hmem
          rcases hmem with hmem | hmem | hmem
          · exact .inr ⟨part, List.mem_cons_self, hmem⟩
          · exact .inl hmem
          · rcases ih hmem with hmem | ⟨other, hother, hmem⟩
            · exact .inl hmem
            · exact .inr ⟨other, List.mem_cons_of_mem _ hother, hmem⟩

/-- The characters of a query that `urlencode` writes. -/
theorem mem_urlencode {safe : Text} (hsafe : '%' ∉ safe ∧ '+' ∉ safe)
    {pairs : List (Text × Text)} {character : Char} (hmem : character ∈ urlencode safe pairs) :
    character = '&' ∨ character = '=' ∨ isQuoteChar safe character = true := by
  rw [urlencode] at hmem
  rcases mem_join hmem with hmem | ⟨part, hpart, hmem⟩
  · exact .inl (List.mem_singleton.mp hmem)
  · obtain ⟨pair, -, rfl⟩ := List.mem_map.mp hpart
    rw [List.mem_append, List.mem_cons] at hmem
    rcases hmem with hmem | hmem | hmem
    · exact .inr (.inr (isQuoteChar_flatMap hsafe _ _ hmem))
    · exact .inr (.inl hmem)
    · exact .inr (.inr (isQuoteChar_flatMap hsafe _ _ hmem))

/-- The pairs are read back from the query that they make. -/
theorem parseQsl_urlencode {safe : Text} (hsafe : '%' ∉ safe ∧ '+' ∉ safe)
    (hascii : ∀ character ∈ safe, isAscii character = true) (hparts : '&' ∉ safe ∧ '=' ∉ safe)
    (pairs : List (Text × Text)) : parseQsl (urlencode safe pairs) = pairs := by
  have hquoted : ∀ text : Text, '&' ∉ text.flatMap (quotePlusChar safe) ∧
      '=' ∉ text.flatMap (quotePlusChar safe) := by
    intro text
    constructor <;> intro hmem <;> have hquote := isQuoteChar_flatMap hsafe text _ hmem
    · simp [isQuoteChar, isLetter, isDigit, hparts.1] at hquote
    · simp [isQuoteChar, isLetter, isDigit, hparts.2] at hquote
  cases hpairs : pairs with
  | nil => rfl
  | cons first others =>
      rw [← hpairs, parseQsl, urlencode, split_join (by simp [hpairs])]
      · rw [List.filter_eq_self.mpr, List.map_map]
        · conv_rhs => rw [← List.map_id pairs]
          apply List.map_congr_left
          intro pair hpair
          have hparted := partition_append_cons (hquoted pair.1).2
            (pair.2.flatMap (quotePlusChar safe))
          simp only [Function.comp_apply, hparted, unquotePlus_quotePlus hsafe hascii, id_eq]
        · intro part hpart
          obtain ⟨pair, -, rfl⟩ := List.mem_map.mp hpart
          simp
      · intro part hpart
        obtain ⟨pair, -, rfl⟩ := List.mem_map.mp hpart
        rw [List.mem_append, List.mem_cons]
        rintro (h | h | h)
        · exact (hquoted pair.1).1 h
        · exact absurd h (by decide)
        · exact (hquoted pair.2).1 h

/-! ## Split URLs -/

/-- The characters that `urlsplit` takes out of a URL. -/
def isRemoved (character : Char) : Bool := ['\t', '\r', '\n'].contains character

/-- The characters that end an authority. -/
def endsNetloc (character : Char) : Bool := ['/', '?', '#'].contains character

/-- The authority and what stands behind it. -/
def splitAuthority : Text → Text × Text
  | '/' :: '/' :: rest =>
      let netloc := rest.takeWhile fun character => !endsNetloc character
      (netloc, rest.drop netloc.length)
  | rest => ([], rest)

/-- The path, the query and the fragment. -/
def splitTail (scheme netloc tail : Text) : SplitResult :=
  let fragment := partition '#' tail
  let query := partition '?' fragment.1
  ⟨scheme, netloc, query.1, query.2.2, fragment.2.2⟩

/-- The parts of a URL before its authority is checked. -/
def rawParts (url : Text) : SplitResult :=
  let cleaned := (url.dropWhile fun character => character.val ≤ 32).filter (!isRemoved ·)
  let scheme := splitScheme [] cleaned
  let authority := splitAuthority scheme.2
  splitTail scheme.1 authority.1 authority.2

/-- What `urlsplit` raises for an authority. -/
def netlocError (unicode : UnicodeData) (netloc : Text) : Option ValueError :=
  if netloc.contains '[' ≠ netloc.contains ']' then some ⟨"Invalid IPv6 URL"⟩
  else if netloc.contains '[' && !isBracketedNetloc netloc then some ⟨"Invalid IPv6 URL"⟩
  else if !isNormalizedNetloc unicode netloc then
    some ⟨"netloc contains invalid characters under NFKC normalization"⟩
  else none

theorem urlsplit_eq (unicode : UnicodeData) (url : Text) :
    urlsplit unicode url =
      (netlocError unicode (rawParts url).netloc).elim (.ok (rawParts url)) .error := by
  change ((if (rawParts url).netloc.contains '[' ≠ (rawParts url).netloc.contains ']' then
      .error ⟨"Invalid IPv6 URL"⟩
    else if (rawParts url).netloc.contains '[' && !isBracketedNetloc (rawParts url).netloc then
      .error ⟨"Invalid IPv6 URL"⟩
    else if !isNormalizedNetloc unicode (rawParts url).netloc then
      .error ⟨"netloc contains invalid characters under NFKC normalization"⟩
    else .ok (rawParts url)) : Except ValueError SplitResult) = _
  rw [netlocError]
  split_ifs <;> rfl

/-- The parts of a URL that has a scheme. -/
structure SplitResult.WellFormed (parts : SplitResult) : Prop where
  scheme_head : (parts.scheme.head?.map isLetter).getD false = true
  scheme_chars : parts.scheme.all isSchemeChar = true
  scheme_lower : parts.scheme.map Char.toLower = parts.scheme
  netloc_ends : ∀ character ∈ parts.netloc, endsNetloc character = false
  path_rooted : parts.netloc ≠ [] → parts.path = [] ∨ parts.path.head? = some '/'
  path_ends : '?' ∉ parts.path ∧ '#' ∉ parts.path
  query_ends : '#' ∉ parts.query
  kept : ∀ character ∈ parts.netloc ++ parts.path ++ parts.query ++ parts.fragment,
    isRemoved character = false

/-- A part behind its mark, where there is one. -/
def marked (mark : Char) (part : Text) : Text := if part = [] then [] else mark :: part

theorem partition_marked {mark : Char} {front : Text} (hfront : mark ∉ front) (part : Text) :
    (partition mark (front ++ marked mark part)).1 = front ∧
      (partition mark (front ++ marked mark part)).2.2 = part := by
  rw [marked]
  split
  · next hempty =>
      rw [List.append_nil, partition_of_notMem hfront, hempty]
      exact ⟨rfl, rfl⟩
  · rw [partition_append_cons hfront]
    exact ⟨rfl, rfl⟩

theorem mem_marked {mark character : Char} {part : Text} (hmem : character ∈ marked mark part) :
    character = mark ∨ character ∈ part := by
  rw [marked] at hmem
  split at hmem
  · cases hmem
  · exact List.mem_cons.mp hmem

/-- The tail of a URL is read back as its path, its query and its fragment. -/
theorem splitTail_marked (scheme netloc : Text) {path query : Text} (fragment : Text)
    (hpath : '?' ∉ path ∧ '#' ∉ path) (hquery : '#' ∉ query) :
    splitTail scheme netloc (path ++ marked '?' query ++ marked '#' fragment) =
      ⟨scheme, netloc, path, query, fragment⟩ := by
  have hfront : '#' ∉ path ++ marked '?' query := by
    rw [List.mem_append]
    rintro (hmem | hmem)
    · exact hpath.2 hmem
    · rcases mem_marked hmem with hmem | hmem
      · exact absurd hmem (by decide)
      · exact hquery hmem
  obtain ⟨hleft, hfragment⟩ := partition_marked hfront fragment
  obtain ⟨hpathOnly, hqueryOnly⟩ := partition_marked hpath.1 query
  simp only [splitTail, hleft, hfragment, hpathOnly, hqueryOnly]

theorem endsNetloc_head_marked (path query fragment : Text)
    (hpath : path = [] ∨ path.head? = some '/') :
    ∀ character ∈ (path ++ marked '?' query ++ marked '#' fragment).head?,
      endsNetloc character = true := by
  intro character hhead
  cases path with
  | cons first path =>
      rcases hpath with hpath | hpath
      · cases hpath
      · cases hpath
        cases hhead
        decide
  | nil =>
      rw [List.nil_append] at hhead
      cases query with
      | cons first query =>
          cases hhead
          decide
      | nil =>
          cases fragment with
          | cons first fragment =>
              cases hhead
              decide
          | nil => cases hhead

/-- An authority is read back behind its slashes. -/
theorem splitAuthority_slashes (netloc : Text) {tail : Text}
    (hnetloc : ∀ character ∈ netloc, endsNetloc character = false)
    (htail : ∀ character ∈ tail.head?, endsNetloc character = true) :
    splitAuthority ('/' :: '/' :: (netloc ++ tail)) = (netloc, tail) := by
  have htake : (netloc ++ tail).takeWhile (fun character => !endsNetloc character) = netloc := by
    rw [List.takeWhile_append_of_pos fun character hmem => by rw [hnetloc character hmem]; rfl]
    cases tail with
    | nil => rw [List.takeWhile_nil, List.append_nil]
    | cons first tail =>
        rw [List.takeWhile_cons, htail first rfl]
        exact List.append_nil netloc
  simp only [splitAuthority, htake, List.drop_left]

/-- Text that does not begin with two slashes has no authority. -/
theorem splitAuthority_of_take {text : Text} (htext : text.take 2 ≠ ['/', '/']) :
    splitAuthority text = ([], text) := by
  unfold splitAuthority
  split
  · exact absurd rfl htext
  · rfl

/-- What `urlunsplit` writes behind the scheme. -/
def authorityText (parts : SplitResult) : Text :=
  if parts.netloc ≠ [] then
    ['/', '/'] ++ parts.netloc ++
      (if parts.path ≠ [] ∧ parts.path.head? ≠ some '/' then '/' :: parts.path else parts.path)
  else if parts.path.take 2 = ['/', '/'] then ['/', '/'] ++ parts.path
  else if parts.scheme ≠ [] ∧ isOneOf usesNetloc parts.scheme ∧
      (parts.path = [] ∨ parts.path.head? = some '/') then ['/', '/'] ++ parts.path
  else parts.path

theorem urlunsplit_eq {parts : SplitResult} (hscheme : parts.scheme ≠ []) :
    urlunsplit parts = parts.scheme ++ ':' ::
      (authorityText parts ++ marked '?' parts.query ++ marked '#' parts.fragment) := by
  rw [urlunsplit]
  simp only [hscheme, if_false, List.append_assoc, List.singleton_append]
  rfl

theorem take_two_marked {path : Text} (hpath : path.take 2 ≠ ['/', '/']) (query fragment : Text) :
    (path ++ marked '?' query ++ marked '#' fragment).take 2 ≠ ['/', '/'] := by
  have htail : ∀ character ∈ (marked '?' query ++ marked '#' fragment).head?, character ≠ '/' := by
    intro character hhead hslash
    subst hslash
    cases query with
    | cons first query => exact absurd (Option.some.inj hhead) (by decide)
    | nil =>
        cases fragment with
        | cons first fragment => exact absurd (Option.some.inj hhead) (by decide)
        | nil => cases hhead
  rw [List.append_assoc]
  generalize marked '?' query ++ marked '#' fragment = tail at htail
  intro htake
  cases path with
  | nil =>
      cases tail with
      | nil => cases htake
      | cons first tail => exact htail first rfl (List.cons.inj htake).1
  | cons first path =>
      cases path with
      | nil =>
          cases tail with
          | nil => cases htake
          | cons second tail => exact htail second rfl (List.cons.inj (List.cons.inj htake).2).1
      | cons second path => exact hpath htake

/-- The authority that `urlunsplit` writes is read back. -/
theorem splitAuthority_authorityText {parts : SplitResult} (hparts : parts.WellFormed) :
    splitAuthority (authorityText parts ++ marked '?' parts.query ++ marked '#' parts.fragment) =
      (parts.netloc, parts.path ++ marked '?' parts.query ++ marked '#' parts.fragment) := by
  rw [authorityText]
  split
  · next hnetloc =>
      have hrooted := hparts.path_rooted hnetloc
      rw [if_neg fun h => hrooted.elim h.1 h.2]
      rw [List.append_assoc, List.append_assoc, List.append_assoc, ← List.append_assoc parts.path]
      exact splitAuthority_slashes parts.netloc hparts.netloc_ends
        (endsNetloc_head_marked parts.path parts.query parts.fragment hrooted)
  · next hnetloc =>
      rw [not_not] at hnetloc
      rw [hnetloc]
      split
      · next htwo =>
          have hhead : parts.path.head? = some '/' := by
            have htake : (parts.path.take 2).head? = parts.path.head? := by
              rw [List.head?_take, if_neg (by decide)]
            rw [← htake, htwo]
            rfl
          exact splitAuthority_slashes [] (fun _ h => absurd h List.not_mem_nil)
            (endsNetloc_head_marked parts.path parts.query parts.fragment (.inr hhead))
      · next htwo =>
          split
          · next huses =>
              exact splitAuthority_slashes [] (fun _ h => absurd h List.not_mem_nil)
                (endsNetloc_head_marked parts.path parts.query parts.fragment huses.2.2)
          · exact splitAuthority_of_take (take_two_marked htwo parts.query parts.fragment)

theorem mem_authorityText {parts : SplitResult} {character : Char}
    (hmem : character ∈ authorityText parts) :
    character = '/' ∨ character ∈ parts.netloc ∨ character ∈ parts.path := by
  rw [authorityText] at hmem
  grind

theorem isSchemeChar_ne_colon {scheme : Text} (hscheme : scheme.all isSchemeChar = true) :
    ':' ∉ scheme := fun hmem => absurd (List.all_eq_true.mp hscheme ':' hmem) (by decide)

theorem isRemoved_of_schemeChar {character : Char} (hcharacter : isSchemeChar character = true) :
    isRemoved character = false := by
  by_contra hremoved
  rw [Bool.not_eq_false, isRemoved, List.contains_iff_mem] at hremoved
  simp only [List.mem_cons, List.not_mem_nil, or_false] at hremoved
  rcases hremoved with rfl | rfl | rfl <;> exact absurd hcharacter (by decide)

/-- A letter is no control character and no space. -/
theorem not_le_of_isLetter {character : Char} (hletter : isLetter character = true) :
    ¬character.val ≤ 32 := by
  intro hle
  simp only [isLetter, Bool.or_eq_true, Bool.and_eq_true, decide_eq_true_eq] at hletter
  rcases hletter with ⟨hlow, -⟩ | ⟨hlow, -⟩
  · exact absurd (UInt32.le_trans hlow hle) (by decide)
  · exact absurd (UInt32.le_trans hlow hle) (by decide)

/-- Well-formed parts are read back from the URL that is put together from them. -/
theorem rawParts_urlunsplit {parts : SplitResult} (hparts : parts.WellFormed) :
    rawParts (urlunsplit parts) = parts := by
  have hscheme : parts.scheme ≠ [] := by
    intro hempty
    have := hparts.scheme_head
    rw [hempty] at this
    cases this
  obtain ⟨first, rest, hfirst⟩ := List.exists_cons_of_ne_nil hscheme
  have hletter : isLetter first = true := by
    have := hparts.scheme_head
    rwa [hfirst] at this
  have hdrop : (urlunsplit parts).dropWhile (fun character => character.val ≤ 32) =
      urlunsplit parts := by
    rw [urlunsplit_eq hscheme, hfirst, List.cons_append, List.dropWhile_cons,
      decide_eq_false (not_le_of_isLetter hletter)]
    rfl
  have hkept : (urlunsplit parts).filter (!isRemoved ·) = urlunsplit parts := by
    rw [List.filter_eq_self]
    intro character hmem
    rw [urlunsplit_eq hscheme, List.mem_append, List.mem_cons, List.mem_append,
      List.mem_append] at hmem
    have hpart : ∀ character ∈ parts.netloc ++ parts.path ++ parts.query ++ parts.fragment,
        (!isRemoved character) = true := fun character h => by rw [hparts.kept character h]; rfl
    simp only [List.mem_append] at hpart
    rcases hmem with hmem | rfl | (hmem | hmem) | hmem
    · rw [isRemoved_of_schemeChar (List.all_eq_true.mp hparts.scheme_chars character hmem)]
      rfl
    · decide
    · rcases mem_authorityText hmem with rfl | hmem | hmem
      · decide
      · exact hpart character (.inl (.inl (.inl hmem)))
      · exact hpart character (.inl (.inl (.inr hmem)))
    · rcases mem_marked hmem with rfl | hmem
      · decide
      · exact hpart character (.inl (.inr hmem))
    · rcases mem_marked hmem with rfl | hmem
      · decide
      · exact hpart character (.inr hmem)
  have hsplit : splitScheme [] (urlunsplit parts) = (parts.scheme,
      authorityText parts ++ marked '?' parts.query ++ marked '#' parts.fragment) := by
    rw [urlunsplit_eq hscheme, splitScheme,
      partition_append_cons (isSchemeChar_ne_colon hparts.scheme_chars)]
    simp only [hparts.scheme_head, hparts.scheme_chars, Bool.and_self, if_true, hparts.scheme_lower]
  simp only [rawParts, hdrop, hkept, hsplit, splitAuthority_authorityText hparts]
  exact splitTail_marked parts.scheme parts.netloc parts.fragment hparts.path_ends hparts.query_ends

/-! ## The parts of a URL -/

/-- The character is a capital ASCII letter. -/
def isCapital (character : Char) : Bool := 'A' ≤ character && character ≤ 'Z'

theorem toLower_of_not_isCapital {character : Char} (hcapital : isCapital character = false) :
    character.toLower = character := by
  simp only [isCapital, Bool.and_eq_false_iff, decide_eq_false_iff_not] at hcapital
  exact dif_neg fun h => hcapital.elim (fun hlow => hlow h.1) fun hhigh => hhigh h.2

theorem toLower_capital : ∀ index : Fin 26,
    isLetter (Char.ofNat (65 + index)).toLower = true ∧
      isCapital (Char.ofNat (65 + index)).toLower = false ∧
      isHexDigit (Char.ofNat (65 + index)).toLower = isHexDigit (Char.ofNat (65 + index)) := by
  decide

theorem exists_of_isCapital {character : Char} (hcapital : isCapital character = true) :
    ∃ index : Fin 26, character = Char.ofNat (65 + index) := by
  simp only [isCapital, Bool.and_eq_true, decide_eq_true_eq] at hcapital
  have hlow : 65 ≤ character.toNat := UInt32.le_iff_toNat_le.mp hcapital.1
  have hhigh : character.toNat ≤ 90 := UInt32.le_iff_toNat_le.mp hcapital.2
  have hsame : 65 + (character.toNat - 65) = character.toNat := by omega
  refine ⟨⟨character.toNat - 65, by omega⟩, ?_⟩
  show character = Char.ofNat (65 + (character.toNat - 65))
  rw [hsame, Char.ofNat_toNat]

theorem isLetter_of_isCapital {character : Char} (hcapital : isCapital character = true) :
    isLetter character = true := by
  simp only [isCapital, isLetter, Bool.and_eq_true, Bool.or_eq_true] at hcapital ⊢
  exact .inr hcapital

theorem isLetter_toLower (character : Char) : isLetter character.toLower = isLetter character := by
  by_cases hcapital : isCapital character = true
  · rw [isLetter_of_isCapital hcapital]
    obtain ⟨index, rfl⟩ := exists_of_isCapital hcapital
    exact (toLower_capital index).1
  · rw [toLower_of_not_isCapital (Bool.eq_false_iff.mpr hcapital)]

theorem toLower_toLower (character : Char) : character.toLower.toLower = character.toLower := by
  by_cases hcapital : isCapital character = true
  · obtain ⟨index, rfl⟩ := exists_of_isCapital hcapital
    exact toLower_of_not_isCapital (toLower_capital index).2.1
  · rw [toLower_of_not_isCapital (Bool.eq_false_iff.mpr hcapital),
      toLower_of_not_isCapital (Bool.eq_false_iff.mpr hcapital)]

theorem toLower_of_not_isLetter {character : Char} (hletter : isLetter character = false) :
    character.toLower = character := by
  apply toLower_of_not_isCapital
  by_contra hcapital
  rw [Bool.not_eq_false] at hcapital
  rw [isLetter_of_isCapital hcapital] at hletter
  cases hletter

theorem isSchemeChar_toLower {character : Char} (hcharacter : isSchemeChar character = true) :
    isSchemeChar character.toLower = true := by
  by_cases hletter : isLetter character = true
  · rw [isSchemeChar, isLetter_toLower, hletter]
    rfl
  · rwa [toLower_of_not_isLetter (Bool.eq_false_iff.mpr hletter)]

theorem partition_fst_subset (separator : Char) (text : Text) : (partition separator text).1 ⊆ text := by
  rcases partition_cases separator text with ⟨-, hparts⟩ | ⟨front, rest, -, htext, hparts⟩
  · rw [hparts]
    exact List.Subset.refl text
  · rw [hparts, htext]
    exact List.subset_append_left _ _

theorem partition_snd_subset (separator : Char) (text : Text) :
    (partition separator text).2.2 ⊆ text := by
  rcases partition_cases separator text with ⟨-, hparts⟩ | ⟨front, rest, -, htext, hparts⟩
  · rw [hparts]
    exact List.nil_subset text
  · rw [hparts, htext]
    exact fun _ hmem => List.mem_append_right _ (List.mem_cons_of_mem _ hmem)

theorem notMem_partition_fst (separator : Char) (text : Text) :
    separator ∉ (partition separator text).1 := by
  rcases partition_cases separator text with ⟨hnone, hparts⟩ | ⟨front, rest, hfront, -, hparts⟩
  · rw [hparts]
    exact hnone
  · rw [hparts]
    exact hfront

theorem partition_head (separator : Char) (text : Text) :
    (partition separator text).1 = [] ∨ (partition separator text).1.head? = text.head? := by
  rcases partition_cases separator text with ⟨-, hparts⟩ | ⟨front, rest, -, htext, hparts⟩
  · rw [hparts]
    exact .inr rfl
  · rw [hparts, htext]
    cases front with
    | nil => exact .inl rfl
    | cons first front => exact .inr rfl

/-- What the scheme of a URL is, where it has one. -/
theorem splitScheme_spec {url : Text} (hscheme : (splitScheme [] url).1 ≠ []) :
    ∃ scheme rest, ':' ∉ scheme ∧ url = scheme ++ ':' :: rest ∧
      (scheme.head?.map isLetter).getD false = true ∧ scheme.all isSchemeChar = true ∧
      splitScheme [] url = (scheme.map Char.toLower, rest) := by
  rw [splitScheme] at hscheme ⊢
  split at hscheme
  · next hvalid =>
      rw [if_pos hvalid]
      simp only [Bool.and_eq_true] at hvalid
      rcases partition_cases ':' url with ⟨-, hparts⟩ | ⟨front, rest, hfront, htext, hparts⟩
      · rw [hparts] at hvalid
        exact absurd hvalid.1.1 Bool.false_ne_true
      · rw [hparts] at hvalid ⊢
        exact ⟨front, rest, hfront, htext, hvalid.1.2, hvalid.2, rfl⟩
  · exact absurd rfl hscheme

theorem drop_length_takeWhile (keeps : Char → Bool) (text : Text) :
    text.drop (text.takeWhile keeps).length = text.dropWhile keeps := by
  conv_lhs => rw [← List.takeWhile_append_dropWhile (p := keeps) (l := text)]
  induction text with
  | nil => rfl
  | cons character text ih =>
      by_cases hkeeps : keeps character = true
      · simpa [hkeeps] using ih
      · simp [hkeeps]

theorem splitAuthority_spec (text : Text) :
    (∀ character ∈ (splitAuthority text).1, endsNetloc character = false) ∧
      (splitAuthority text).1 ++ (splitAuthority text).2 ⊆ text ∧
      ((splitAuthority text).1 ≠ [] →
        ∀ character ∈ (splitAuthority text).2.head?, endsNetloc character = true) := by
  unfold splitAuthority
  split
  · next rest =>
      simp only [drop_length_takeWhile, List.takeWhile_append_dropWhile]
      refine ⟨fun character hmem => ?_, ?_, fun _ character hhead => ?_⟩
      · have hkept := List.mem_takeWhile_imp hmem
        rwa [Bool.not_eq_true'] at hkept
      · exact fun _ hmem => List.mem_cons_of_mem _ (List.mem_cons_of_mem _ hmem)
      · have hfirst := List.head?_dropWhile_not (fun character => !endsNetloc character) rest
        rw [Option.mem_def.mp hhead] at hfirst
        simpa using hfirst
  · exact ⟨fun _ hmem => absurd hmem List.not_mem_nil, List.Subset.refl text, fun h => absurd rfl h⟩

/-- The parts of a URL that has a scheme are well formed. -/
theorem wellFormed_rawParts {url : Text} (hscheme : (rawParts url).scheme ≠ []) :
    (rawParts url).WellFormed := by
  rw [rawParts] at hscheme ⊢
  simp only [splitTail] at hscheme ⊢
  generalize hcleaned : (url.dropWhile fun character => character.val ≤ 32).filter
    (!isRemoved ·) = cleaned at hscheme ⊢
  have hkept : ∀ character ∈ cleaned, isRemoved character = false := by
    intro character hmem
    rw [← hcleaned] at hmem
    simpa using (List.mem_filter.mp hmem).2
  obtain ⟨scheme, rest, -, htext, hhead, hchars, hsplit⟩ := splitScheme_spec hscheme
  rw [hsplit]
  simp only
  obtain ⟨hnetloc, hsubset, hrooted⟩ := splitAuthority_spec rest
  generalize splitAuthority rest = authority at hnetloc hsubset hrooted
  have hrest : ∀ character ∈ rest, isRemoved character = false := fun character hmem =>
    hkept character (by rw [htext]; exact List.mem_append_right _ (List.mem_cons_of_mem _ hmem))
  have htail : ∀ character ∈ authority.2, isRemoved character = false := fun character hmem =>
    hrest character (hsubset (List.mem_append_right _ hmem))
  have hfront : ∀ character ∈ (partition '#' authority.2).1, isRemoved character = false :=
    fun character hmem => htail character (partition_fst_subset _ _ hmem)
  constructor
  case scheme_head =>
    cases scheme with
    | nil => cases hhead
    | cons first scheme => exact (isLetter_toLower first).trans hhead
  case scheme_chars =>
    rw [List.all_map, List.all_eq_true]
    exact fun character hmem => isSchemeChar_toLower (List.all_eq_true.mp hchars character hmem)
  case scheme_lower =>
    rw [List.map_map]
    exact List.map_congr_left fun character _ => toLower_toLower character
  case netloc_ends => exact hnetloc
  case path_rooted =>
    intro hne
    have hmark := notMem_partition_fst '?' (partition '#' authority.2).1
    have hhash : '#' ∉ (partition '?' (partition '#' authority.2).1).1 := fun hmem =>
      notMem_partition_fst _ _ (partition_fst_subset _ _ hmem)
    have hhead := partition_head '?' (partition '#' authority.2).1
    cases hpath : (partition '?' (partition '#' authority.2).1).1 with
    | nil => exact .inl rfl
    | cons first path =>
        rw [hpath] at hmark hhash hhead
        have hfront := hhead.resolve_left (List.cons_ne_nil _ _)
        have hwhole := (partition_head '#' authority.2).resolve_left fun hempty => by
          rw [hempty] at hfront
          cases hfront
        have hends := hrooted hne first (hwhole.symm.trans hfront.symm)
        rw [endsNetloc, List.contains_iff_mem] at hends
        simp only [List.mem_cons, List.not_mem_nil, or_false] at hends
        rcases hends with rfl | rfl | rfl
        · exact .inr rfl
        · exact absurd List.mem_cons_self hmark
        · exact absurd List.mem_cons_self hhash
  case path_ends =>
    exact ⟨notMem_partition_fst _ _, fun hmem =>
      notMem_partition_fst _ _ (partition_fst_subset _ _ hmem)⟩
  case query_ends => exact fun hmem => notMem_partition_fst _ _ (partition_snd_subset _ _ hmem)
  case kept =>
    intro character hmem
    simp only [List.mem_append] at hmem
    rcases hmem with ((hmem | hmem) | hmem) | hmem
    · exact hrest character (hsubset (List.mem_append_left _ hmem))
    · exact hfront character (partition_fst_subset _ _ hmem)
    · exact hfront character (partition_snd_subset _ _ hmem)
    · exact htail character (partition_snd_subset _ _ hmem)

end DataSluice.Lib.Url
