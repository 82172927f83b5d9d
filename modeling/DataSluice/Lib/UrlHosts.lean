/-
# Hosts in lower case

A host is written back in lower case, its zone apart. What the tables of the Unicode database
are relied on for stands in `UnicodeData.Standard`; the addresses in brackets that are accepted
are still accepted in lower case.
-/

import DataSluice.Lib.UrlRoundTrip

namespace DataSluice.Lib.Url

/-! ## Addresses in lower case -/

/-- Lower case, for ASCII text. -/
def asciiLower (text : Text) : Text := text.map Char.toLower

theorem toLower_eq_iff {mark : Char} (hmark : isLetter mark = false) (character : Char) :
    character.toLower = mark ↔ character = mark := by
  by_cases hletter : isLetter character = true
  · constructor
    · rintro rfl
      rw [isLetter_toLower, hletter] at hmark
      cases hmark
    · rintro rfl
      rw [hletter] at hmark
      cases hmark
  · rw [toLower_of_not_isLetter (Bool.eq_false_iff.mpr hletter)]

theorem isDigit_ascii {character : Char} (hdigit : isDigit character = true) :
    isLetter character = false := by
  by_contra hletter
  simp only [Bool.not_eq_false, isLetter, isDigit, Bool.or_eq_true, Bool.and_eq_true,
    decide_eq_true_eq] at hdigit hletter
  rcases hletter with ⟨hlow, -⟩ | ⟨hlow, -⟩
  · exact absurd (UInt32.le_trans hlow hdigit.2) (by decide)
  · exact absurd (UInt32.le_trans hlow hdigit.2) (by decide)

theorem isDigit_toLower (character : Char) : isDigit character.toLower = isDigit character := by
  rw [Bool.eq_iff_iff]
  constructor
  · intro hdigit
    have hsame := (toLower_eq_iff (isDigit_ascii hdigit) character).mp rfl
    rwa [← hsame] at hdigit
  · intro hdigit
    rwa [(toLower_eq_iff (isDigit_ascii hdigit) character).mpr rfl]

theorem mem_asciiLower {mark : Char} (hmark : isLetter mark = false) (text : Text) :
    mark ∈ asciiLower text ↔ mark ∈ text := by
  rw [asciiLower, List.mem_map]
  constructor
  · rintro ⟨character, hmem, hlower⟩
    rwa [← (toLower_eq_iff hmark character).mp hlower]
  · exact fun hmem => ⟨mark, hmem, (toLower_eq_iff hmark mark).mpr rfl⟩

theorem split_asciiLower (mark : Char) (hmark : isLetter mark = false) (text : Text) :
    split mark (asciiLower text) = (split mark text).map asciiLower := by
  induction text with
  | nil => rfl
  | cons character text ih =>
      have hlower : asciiLower (character :: text) = character.toLower :: asciiLower text := rfl
      rw [hlower, split, split, ih]
      simp only [toLower_eq_iff hmark]
      split
      · rfl
      · cases split mark text <;> rfl

theorem isIpv4_asciiLower (text : Text) : isIpv4 (asciiLower text) = isIpv4 text := by
  have hoctet : ∀ octet : Text,
      (!(asciiLower octet).isEmpty && (asciiLower octet).all isDigit && (asciiLower octet).length ≤ 3 &&
        !((asciiLower octet).length > 1 && (asciiLower octet).head? == some '0') &&
          decimal (asciiLower octet) ≤ 255) =
      (!octet.isEmpty && octet.all isDigit && octet.length ≤ 3 &&
        !(octet.length > 1 && octet.head? == some '0') && decimal octet ≤ 255) := by
    intro octet
    have hall : (asciiLower octet).all isDigit = octet.all isDigit := by
      rw [asciiLower, List.all_map]
      congr 1
      funext character
      exact isDigit_toLower character
    by_cases hdigits : octet.all isDigit = true
    · have hsame : asciiLower octet = octet := by
        rw [asciiLower]
        conv_rhs => rw [← List.map_id octet]
        apply List.map_congr_left
        intro character hmem
        have hdigit := List.all_eq_true.mp hdigits character hmem
        exact (toLower_eq_iff (isDigit_ascii hdigit) character).mpr rfl
      rw [hsame]
    · simp only [hall, Bool.eq_false_iff.mpr hdigits, Bool.and_false, Bool.false_and]
  rw [isIpv4, isIpv4, split_asciiLower '.' (by decide)]
  simp only [List.length_map, List.all_map]
  congr 2
  funext octet
  exact hoctet octet

theorem isHexDigit_toLower (character : Char) :
    isHexDigit character.toLower = isHexDigit character := by
  by_cases hcapital : isCapital character = true
  · obtain ⟨index, rfl⟩ := exists_of_isCapital hcapital
    exact (toLower_capital index).2.2
  · rw [toLower_of_not_isCapital (Bool.eq_false_iff.mpr hcapital)]

/-- A group of an IPv6 address. -/
def isGroup (group : Text) : Bool :=
  !group.isEmpty && group.length ≤ 4 && group.all isHexDigit

theorem isGroup_asciiLower (group : Text) : isGroup (asciiLower group) = isGroup group := by
  have hall : (asciiLower group).all isHexDigit = group.all isHexDigit := by
    rw [asciiLower, List.all_map]
    congr 1
    funext character
    exact isHexDigit_toLower character
  rw [isGroup, isGroup, hall]
  simp [asciiLower]

/-- The places of the empty groups inside an address. -/
def skippedGroups (groups : List Text) : List Nat :=
  (groups.zipIdx.filter fun group =>
    group.1.isEmpty && 0 < group.2 && group.2 + 1 < groups.length).map (·.2)

/-- The groups make an address. -/
def fitsAddress (groups : List Text) : Bool :=
  match skippedGroups groups with
  | [] => groups.length == 8 && groups.all isGroup
  | [index] =>
      let before := groups.take index
      let after := groups.drop (index + 1)
      let before' := if before.head? == some [] then before.tail else before
      let after' := if after.getLast? == some [] then after.dropLast else after
      (before'.length + after'.length < 8) && (before' == before || before'.isEmpty) &&
        (after' == after || after'.isEmpty) && (before' ++ after').all isGroup
  | _ => false

/-- The groups of an address, with two in the place of an embedded one. -/
def addressGroups (parts : List Text) : List Text :=
  if (parts.getLastD []).contains '.' then parts.dropLast ++ [['0'], ['0']] else parts

theorem isIpv6_eq (text : Text) :
    isIpv6 text =
      (let address := partition '%' text
       let parts := split ':' address.1
       (!address.2.1 || (!address.2.2.isEmpty && !address.2.2.contains '%')) && !text.contains '/' &&
         3 ≤ parts.length && (!(parts.getLastD []).contains '.' || isIpv4 (parts.getLastD [])) &&
           (addressGroups parts).length ≤ 9 && fitsAddress (addressGroups parts)) := rfl

theorem skippedGroups_map (groups : List Text) :
    skippedGroups (groups.map asciiLower) = skippedGroups groups := by
  rw [skippedGroups, skippedGroups, List.length_map, List.zipIdx_map, List.filter_map,
    List.map_map]
  congr 1
  congr 1
  funext group
  simp [asciiLower]

/-- Trimming keeps a side of the gap, or takes the empty end of it. -/
theorem trimmed_eq (condition : Bool) (groups trimmed : List Text)
    (hlength : condition = true → trimmed.length < groups.length) :
    ((if condition then trimmed else groups) == groups) = !condition := by
  cases condition with
  | false => simp
  | true =>
      have hne : trimmed ≠ groups := by
        intro hsame
        have := hlength rfl
        rw [hsame] at this
        exact lt_irrefl _ this
      simpa using hne

theorem map_asciiLower_eq_some_nil (group : Option Text) :
    (group.map asciiLower == some []) = (group == some []) := by
  cases group with
  | none => rfl
  | some group => cases group <;> rfl

theorem fitsAddress_map (groups : List Text) :
    fitsAddress (groups.map asciiLower) = fitsAddress groups := by
  have hall : ∀ others : List Text, (others.map asciiLower).all isGroup = others.all isGroup := by
    intro others
    rw [List.all_map]
    congr 1
    funext group
    exact isGroup_asciiLower group
  have hside : ∀ (condition : Bool) (others trimmed : List Text),
      (if condition = true then trimmed.map asciiLower else others.map asciiLower) =
        (if condition = true then trimmed else others).map asciiLower := by
    intro condition others trimmed
    cases condition <;> rfl
  rw [fitsAddress, fitsAddress, skippedGroups_map]
  split
  · rw [List.length_map, hall]
  · next index _ =>
      have hbefore : ((groups.take index).head? == some []) = true →
          (groups.take index).tail.length < (groups.take index).length := by
        intro hhead
        cases hgroups : groups.take index with
        | nil =>
            rw [hgroups] at hhead
            cases hhead
        | cons first others => exact Nat.lt_succ_self _
      have hafter : ((groups.drop (index + 1)).getLast? == some []) = true →
          (groups.drop (index + 1)).dropLast.length < (groups.drop (index + 1)).length := by
        intro hlast
        cases hgroups : groups.drop (index + 1) with
        | nil =>
            rw [hgroups] at hlast
            cases hlast
        | cons first others =>
            rw [List.length_dropLast]
            exact Nat.sub_lt (Nat.succ_pos _) Nat.one_pos
      have hbeforeMap := trimmed_eq ((groups.take index).head? == some [])
        ((groups.take index).map asciiLower)
        ((groups.take index).tail.map asciiLower) (by simpa using hbefore)
      have hafterMap := trimmed_eq ((groups.drop (index + 1)).getLast? == some [])
        ((groups.drop (index + 1)).map asciiLower)
        ((groups.drop (index + 1)).dropLast.map asciiLower) (by simpa using hafter)
      simp only [← List.map_take, ← List.map_drop, List.head?_map, List.getLast?_map,
        map_asciiLower_eq_some_nil, ← List.map_tail, ← List.map_dropLast, hbeforeMap, hafterMap,
        trimmed_eq _ _ _ hbefore, trimmed_eq _ _ _ hafter]
      simp only [hside, List.length_map, List.isEmpty_map, ← List.map_append, hall]
  · rfl

theorem getLastD_map (parts : List Text) :
    (parts.map asciiLower).getLastD [] = asciiLower (parts.getLastD []) := by
  rw [List.getLastD_eq_getLast?, List.getLastD_eq_getLast?, List.getLast?_map]
  cases parts.getLast? <;> rfl

theorem contains_asciiLower (mark : Char) (hmark : isLetter mark = false) (text : Text) :
    (asciiLower text).contains mark = text.contains mark := by
  rw [Bool.eq_iff_iff, List.contains_iff_mem, List.contains_iff_mem, mem_asciiLower hmark]

theorem addressGroups_map (parts : List Text) :
    addressGroups (parts.map asciiLower) = (addressGroups parts).map asciiLower := by
  rw [addressGroups, addressGroups, getLastD_map, contains_asciiLower '.' (by decide)]
  split
  · rw [List.map_append, List.map_dropLast]
    rfl
  · rfl

/-- A host in lower case, its zone apart. -/
def lowerHost (lower : Text → Text) (host : Text) : Text :=
  let zone := partition '%' host
  lower zone.1 ++ if zone.2.1 then '%' :: zone.2.2 else []

/-- What `lowerHost` writes is taken apart at the same place. -/
theorem partition_lowerHost (lower : Text → Text) (host : Text)
    (hlower : '%' ∉ lower (partition '%' host).1) :
    partition '%' (lowerHost lower host) =
      (lower (partition '%' host).1, (partition '%' host).2) := by
  rw [lowerHost]
  rcases partition_cases '%' host with ⟨-, hparts⟩ | ⟨front, rest, -, -, hparts⟩
  · rw [hparts] at hlower ⊢
    simpa using partition_of_notMem hlower
  · rw [hparts] at hlower ⊢
    exact partition_append_cons hlower rest

theorem mem_lowerHost {lower : Text → Text} {mark : Char}
    (hlower : ∀ text, mark ∈ lower text ↔ mark ∈ text) (host : Text) :
    mark ∈ lowerHost lower host ↔ mark ∈ host := by
  rw [lowerHost]
  rcases partition_cases '%' host with ⟨-, hparts⟩ | ⟨front, rest, -, htext, hparts⟩
  · rw [hparts]
    simpa using hlower host
  · rw [hparts]
    conv_rhs => rw [htext]
    simp [hlower]

/-- An IPv6 address is one in lower case. -/
theorem isIpv6_lowerHost (host : Text) : isIpv6 (lowerHost asciiLower host) = isIpv6 host := by
  have hzone := partition_lowerHost asciiLower host (by
    rw [mem_asciiLower (by decide)]
    exact notMem_partition_fst '%' host)
  have hslash : (lowerHost asciiLower host).contains '/' = host.contains '/' := by
    rw [Bool.eq_iff_iff, List.contains_iff_mem, List.contains_iff_mem,
      mem_lowerHost (mem_asciiLower (by decide))]
  rw [isIpv6_eq, isIpv6_eq]
  simp only [hzone, hslash, split_asciiLower ':' (by decide), List.length_map,
    getLastD_map, contains_asciiLower '.' (by decide), isIpv4_asciiLower,
    addressGroups_map, fitsAddress_map]

/-! ## The characters of an address -/

/-- A character of an IPv6 address. -/
def isAddressChar (character : Char) : Bool :=
  isHexDigit character || character == ':' || character == '.'

theorem mem_of_trimmed_head {groups : List Text} {group : Text} (hmem : group ∈ groups)
    (hne : group ≠ []) :
    group ∈ if groups.head? == some [] then groups.tail else groups := by
  split
  · next hhead =>
      cases groups with
      | nil => cases hmem
      | cons first groups =>
          rcases List.mem_cons.mp hmem with rfl | hmem
          · exact absurd (Option.some.inj (beq_iff_eq.mp hhead)) hne
          · exact hmem
  · exact hmem

theorem mem_of_trimmed_last {groups : List Text} {group : Text} (hmem : group ∈ groups)
    (hne : group ≠ []) :
    group ∈ if groups.getLast? == some [] then groups.dropLast else groups := by
  split
  · next hlast =>
      have hsplit := List.dropLast_append_getLast? [] (beq_iff_eq.mp hlast)
      rw [← hsplit, List.mem_append, List.mem_singleton] at hmem
      exact hmem.resolve_right hne
  · exact hmem

/-- Every group of an address is empty or has hexadecimal digits. -/
theorem isGroup_of_fitsAddress {groups : List Text} (hfits : fitsAddress groups = true) :
    ∀ group ∈ groups, group ≠ [] → isGroup group = true := by
  intro group hmem hne
  rw [fitsAddress] at hfits
  split at hfits
  · rw [Bool.and_eq_true] at hfits
    exact List.all_eq_true.mp hfits.2 group hmem
  · next index hskipped =>
      simp only [Bool.and_eq_true, List.all_eq_true] at hfits
      have hindex : index ∈ skippedGroups groups := by rw [hskipped]; exact List.mem_singleton_self _
      have hempty : groups[index]? = some [] := by
        obtain ⟨entry, hentry, rfl⟩ := List.mem_map.mp hindex
        obtain ⟨hentry, hcheck⟩ := List.mem_filter.mp hentry
        have hget := List.mk_mem_zipIdx_iff_getElem?.mp hentry
        simp only [Bool.and_eq_true, List.isEmpty_iff] at hcheck
        rw [hget, hcheck.1.1]
      obtain ⟨hbound, hgroup⟩ := List.getElem?_eq_some_iff.mp hempty
      have hsplit : groups.take index ++ [] :: groups.drop (index + 1) = groups := by
        rw [← hgroup, List.getElem_cons_drop, List.take_append_drop]
      rw [← hsplit, List.mem_append, List.mem_cons] at hmem
      apply hfits.2 group
      rw [List.mem_append]
      rcases hmem with hmem | rfl | hmem
      · exact .inl (mem_of_trimmed_head hmem hne)
      · exact absurd rfl hne
      · exact .inr (mem_of_trimmed_last hmem hne)
  · cases hfits

theorem mem_split (separator : Char) {character : Char} {text : Text} (hmem : character ∈ text) :
    character = separator ∨ ∃ part ∈ split separator text, character ∈ part := by
  induction text with
  | nil => cases hmem
  | cons first text ih =>
      rw [split]
      by_cases hfirst : first = separator
      · rw [if_pos hfirst]
        rcases List.mem_cons.mp hmem with rfl | hmem
        · exact .inl hfirst
        · exact (ih hmem).imp_right fun h => h.imp fun part hpart =>
            ⟨List.mem_cons_of_mem _ hpart.1, hpart.2⟩
      · rw [if_neg hfirst]
        cases hsplit : split separator text with
        | nil =>
            rw [hsplit] at ih
            rcases List.mem_cons.mp hmem with rfl | hmem
            · exact .inr ⟨[character], List.mem_singleton_self _, List.mem_singleton_self _⟩
            · exact (ih hmem).imp_right fun h =>
                h.elim fun _ hpart => absurd hpart.1 List.not_mem_nil
        | cons part parts =>
            rw [hsplit] at ih
            rcases List.mem_cons.mp hmem with rfl | hmem
            · exact .inr ⟨character :: part, List.mem_cons_self, List.mem_cons_self⟩
            · rcases ih hmem with hmem | ⟨other, hother, hmem⟩
              · exact .inl hmem
              · rcases List.mem_cons.mp hother with rfl | hother
                · exact .inr ⟨first :: other, List.mem_cons_self, List.mem_cons_of_mem _ hmem⟩
                · exact .inr ⟨other, List.mem_cons_of_mem _ hother, hmem⟩

theorem isAddressChar_of_isIpv4 {text : Text} (htext : isIpv4 text = true) :
    ∀ character ∈ text, isAddressChar character = true := by
  intro character hmem
  rw [isIpv4, Bool.and_eq_true, List.all_eq_true] at htext
  rcases mem_split '.' hmem with rfl | ⟨octet, hoctet, hmem⟩
  · decide
  · have hcheck := htext.2 octet hoctet
    simp only [Bool.and_eq_true, List.all_eq_true] at hcheck
    rw [isAddressChar, isHexDigit, hcheck.1.1.1.2 character hmem]
    rfl

theorem isAddressChar_of_isIpv6 {host : Text} (hhost : isIpv6 host = true) :
    ∀ character ∈ (partition '%' host).1, isAddressChar character = true := by
  intro character hmem
  rw [isIpv6_eq] at hhost
  simp only [Bool.and_eq_true] at hhost
  obtain ⟨⟨⟨⟨-, -⟩, hembedded⟩, -⟩, hfits⟩ := hhost
  rcases mem_split ':' hmem with rfl | ⟨part, hpart, hmem⟩
  · decide
  · have hgroup : part ∈ addressGroups (split ':' (partition '%' host).1) →
        isAddressChar character = true := by
      intro hpart
      have hcheck := isGroup_of_fitsAddress hfits part hpart (List.ne_nil_of_mem hmem)
      rw [isGroup, Bool.and_eq_true, List.all_eq_true] at hcheck
      rw [isAddressChar, hcheck.2 character hmem]
      rfl
    generalize split ':' (partition '%' host).1 = parts at hpart hembedded hgroup
    by_cases hdot : (parts.getLastD []).contains '.' = true
    · rw [addressGroups, if_pos hdot] at hgroup
      rw [hdot, Bool.not_true, Bool.false_or] at hembedded
      have hne : parts ≠ [] := List.ne_nil_of_mem hpart
      have hlast : parts.getLastD [] = parts.getLast hne := by
        rw [List.getLastD_eq_getLast?, List.getLast?_eq_some_getLast hne]
        rfl
      rw [← List.dropLast_append_getLast hne, List.mem_append, List.mem_singleton, ← hlast] at hpart
      rcases hpart with hpart | rfl
      · exact hgroup (List.mem_append_left _ hpart)
      · exact isAddressChar_of_isIpv4 hembedded character hmem
    · rw [addressGroups, if_neg hdot] at hgroup
      exact hgroup hpart

/-! ## The tables -/

/-- A character that may not appear when an authority is normalized. -/
def isNetlocMark (character : Char) : Bool := ['/', '?', '#', '@', ':'].contains character

/-- What the tables of the Unicode database do. Lower case is final, it takes and gives no ASCII
character but letters, and ASCII text in front of a text is lowered by itself. Whether
compatibility normalization brings forth a mark is decided character by character, and lower
case gives no character that makes one. -/
structure UnicodeData.Standard (unicode : UnicodeData) : Prop where
  lower_lower : ∀ text, unicode.lower (unicode.lower text) = unicode.lower text
  lower_mark : ∀ (mark : Char), isAscii mark = true → isLetter mark = false →
    ∀ text, mark ∈ unicode.lower text ↔ mark ∈ text
  lower_append : ∀ front rest, front.all isAscii = true →
    ∃ lowered, unicode.lower (front ++ rest) = asciiLower front ++ lowered ∧
      (lowered = [] ↔ rest = [])
  nfkc_marks : ∃ makesMark : Char → Bool,
    (∀ text, (unicode.nfkc text).any isNetlocMark = text.any makesMark) ∧
      ∀ text character, makesMark character = true → character ∈ unicode.lower text →
        character ∈ text

theorem isAscii_capital : ∀ index : Fin 26, isAscii (Char.ofNat (65 + index)) = true := by decide

theorem ascii_lower_eq (text : Text) : UnicodeData.ascii.lower text = asciiLower text := by
  apply List.map_congr_left
  intro character _
  split
  · rfl
  · next hascii =>
      rw [toLower_of_not_isCapital]
      by_contra hcapital
      rw [Bool.not_eq_false] at hcapital
      obtain ⟨index, rfl⟩ := exists_of_isCapital hcapital
      exact hascii (isAscii_capital index)

theorem asciiLower_asciiLower (text : Text) : asciiLower (asciiLower text) = asciiLower text := by
  rw [asciiLower, asciiLower, List.map_map]
  exact List.map_congr_left fun character _ => toLower_toLower character

theorem isLetter_of_isNetlocMark {character : Char} (hmark : isNetlocMark character = true) :
    isLetter character = false := by
  rw [isNetlocMark, List.contains_iff_mem] at hmark
  simp only [List.mem_cons, List.not_mem_nil, or_false] at hmark
  rcases hmark with rfl | rfl | rfl | rfl | rfl <;> decide

/-- The tables for ASCII text do this. -/
theorem ascii_standard : UnicodeData.ascii.Standard where
  lower_lower text := by rw [ascii_lower_eq, ascii_lower_eq, asciiLower_asciiLower]
  lower_mark mark _ hletter text := by rw [ascii_lower_eq, mem_asciiLower hletter]
  lower_append front rest _ := by
    refine ⟨asciiLower rest, ?_, ?_⟩
    · rw [ascii_lower_eq]
      exact List.map_append
    · exact List.map_eq_nil_iff
  nfkc_marks := by
    refine ⟨isNetlocMark, fun _ => rfl, fun text mark hmark hmem => ?_⟩
    rw [ascii_lower_eq] at hmem
    exact (mem_asciiLower (isLetter_of_isNetlocMark hmark) text).mp hmem

theorem isAscii_of_isAddressChar {character : Char} (hcharacter : isAddressChar character = true) :
    isAscii character = true := by
  simp only [isAddressChar, isHexDigit, isDigit, Bool.or_eq_true, Bool.and_eq_true,
    decide_eq_true_eq, beq_iff_eq] at hcharacter
  rcases hcharacter with (((⟨-, h⟩ | ⟨-, h⟩) | ⟨-, h⟩) | rfl) | rfl
  · exact decide_eq_true (UInt32.lt_of_le_of_lt h (by decide))
  · exact decide_eq_true (UInt32.lt_of_le_of_lt h (by decide))
  · exact decide_eq_true (UInt32.lt_of_le_of_lt h (by decide))
  · decide
  · decide

theorem UnicodeData.lower_address (unicode : UnicodeData) {text : Text}
    (htext : ∀ character ∈ text, isAddressChar character = true) :
    unicode.lower text = asciiLower text :=
  unicode.lower_ascii text
    (List.all_eq_true.mpr fun character hmem => isAscii_of_isAddressChar (htext character hmem))

theorem partition_append_left {separator : Char} {front : Text} (hfront : separator ∉ front)
    (text : Text) :
    partition separator (front ++ text) =
      (front ++ (partition separator text).1, (partition separator text).2) := by
  induction front with
  | nil => rfl
  | cons character front ih =>
      have hne : character ≠ separator := fun h => hfront (h ▸ List.mem_cons_self)
      rw [List.cons_append, partition, if_neg hne, ih fun h => hfront (List.mem_cons_of_mem _ h)]
      rfl

/-! ## Hosts in brackets -/

theorem isBracketedHost_of_head {host : Text} (hhost : host.head? ≠ some 'v') :
    isBracketedHost host = isIpv6 host := by
  unfold isBracketedHost
  split
  · exact absurd rfl hhost
  · rfl

theorem takeWhile_digits {version : Text}
    (hdigits : ∀ character ∈ version, isHexDigit character = true) (address : Text) :
    (version ++ '.' :: address).takeWhile isHexDigit = version := by
  rw [List.takeWhile_append_of_pos hdigits, List.takeWhile_cons]
  exact List.append_nil version

/-- A host of a future version is one that has an address without line ends. -/
theorem isBracketedHost_future {version : Text} (hversion : version ≠ [])
    (hdigits : ∀ character ∈ version, isHexDigit character = true) (address : Text) :
    isBracketedHost ('v' :: (version ++ '.' :: address)) =
      (!address.isEmpty && address.all (· ≠ '\n')) := by
  have hdrop : (version ++ '.' :: address).drop (version.length + 1) = address := by
    rw [← List.drop_drop, List.drop_left]
    rfl
  have hempty : version.isEmpty = false := List.isEmpty_eq_false_iff.mpr hversion
  unfold isBracketedHost
  simp only [takeWhile_digits hdigits, hempty, List.drop_left, hdrop]
  cases address <;> rfl

/-- What a host of a future version is made of. -/
theorem exists_future {host : Text} (hhead : host.head? = some 'v')
    (hhost : isBracketedHost host = true) :
    ∃ version address, host = 'v' :: (version ++ '.' :: address) ∧ version ≠ [] ∧
      ∀ character ∈ version, isHexDigit character = true := by
  cases host with
  | nil => cases hhead
  | cons first rest =>
      cases hhead
      unfold isBracketedHost at hhost
      simp only [Bool.and_eq_true, drop_length_takeWhile, Bool.not_eq_true',
        List.isEmpty_eq_false_iff] at hhost
      have hsplit := List.takeWhile_append_dropWhile (p := isHexDigit) (l := rest)
      cases htail : rest.dropWhile isHexDigit with
      | nil =>
          rw [htail] at hhost
          exact absurd hhost.1.2 (by decide)
      | cons dot address =>
          rw [htail] at hhost hsplit
          have hdot : dot = '.' := Option.some.inj (beq_iff_eq.mp hhost.1.2)
          rw [hdot] at hsplit
          exact ⟨rest.takeWhile isHexDigit, address, by rw [hsplit], hhost.1.1,
            fun character hmem => List.mem_takeWhile_imp hmem⟩

namespace UnicodeData.Standard

variable {unicode : UnicodeData} (hstandard : unicode.Standard)
include hstandard

theorem lower_eq_nil (text : Text) : unicode.lower text = [] ↔ text = [] := by
  obtain ⟨lowered, hlower, hempty⟩ := hstandard.lower_append [] text rfl
  rw [List.nil_append] at hlower
  rw [hlower]
  exact hempty

/-- A host that is written in lower case is written so already. -/
theorem lowerHost_lowerHost (host : Text) :
    lowerHost unicode.lower (lowerHost unicode.lower host) = lowerHost unicode.lower host := by
  have hzone : '%' ∉ unicode.lower (partition '%' host).1 := by
    rw [hstandard.lower_mark '%' (by decide) (by decide)]
    exact notMem_partition_fst '%' host
  conv_lhs => rw [lowerHost, partition_lowerHost unicode.lower host hzone]
  simp only [hstandard.lower_lower]
  rfl

theorem lowerHost_eq_nil (host : Text) : lowerHost unicode.lower host = [] ↔ host = [] := by
  rw [lowerHost]
  rcases partition_cases '%' host with ⟨-, hparts⟩ | ⟨front, rest, -, htext, hparts⟩
  · rw [hparts]
    simp only [Bool.false_eq_true, if_false, List.append_nil]
    exact hstandard.lower_eq_nil host
  · rw [hparts, htext]
    simp

/-- A host that may stand in brackets may do so in lower case. -/
theorem isBracketedHost_lowerHost {host : Text} (hhost : isBracketedHost host = true) :
    isBracketedHost (lowerHost unicode.lower host) = true := by
  by_cases hfuture : host.head? = some 'v'
  · obtain ⟨version, address, rfl, hversion, hdigits⟩ := exists_future hfuture hhost
    rw [isBracketedHost_future hversion hdigits, Bool.and_eq_true, Bool.not_eq_true',
      List.isEmpty_eq_false_iff] at hhost
    have hfront : '%' ∉ 'v' :: version ++ ['.'] := by
      rw [List.cons_append, List.mem_cons, List.mem_append, List.mem_singleton]
      rintro (h | h | h)
      · exact absurd h (by decide)
      · exact absurd (hdigits '%' h) (by decide)
      · exact absurd h (by decide)
    have hascii : ('v' :: version ++ ['.']).all isAscii = true := by
      rw [List.all_eq_true]
      intro character hmem
      rw [List.cons_append, List.mem_cons, List.mem_append, List.mem_singleton] at hmem
      rcases hmem with rfl | hmem | rfl
      · decide
      · exact isAscii_of_isAddressChar (by rw [isAddressChar, hdigits character hmem]; rfl)
      · decide
    have hsame : 'v' :: (version ++ '.' :: address) = 'v' :: version ++ ['.'] ++ address := by simp
    obtain ⟨lowered, hlowered, hempty⟩ :=
      hstandard.lower_append ('v' :: version ++ ['.']) (partition '%' address).1 hascii
    have hwritten : lowerHost unicode.lower ('v' :: (version ++ '.' :: address)) =
        'v' :: (asciiLower version ++ '.' ::
          (lowered ++ if (partition '%' address).2.1 then '%' :: (partition '%' address).2.2
            else [])) := by
      rw [hsame, lowerHost, partition_append_left hfront]
      simp only [hlowered]
      simp [asciiLower]
    have hnewline : '\n' ∉ lowerHost unicode.lower ('v' :: (version ++ '.' :: address)) := by
      rw [mem_lowerHost (hstandard.lower_mark '\n' (by decide) (by decide)), List.mem_cons,
        List.mem_append, List.mem_cons]
      rintro (h | h | h | h)
      · exact absurd h (by decide)
      · exact absurd (hdigits '\n' h) (by decide)
      · exact absurd h (by decide)
      · exact absurd (List.all_eq_true.mp hhost.2 '\n' h) (by decide)
    rw [hwritten] at hnewline ⊢
    have hlower : ∀ character ∈ asciiLower version, isHexDigit character = true := by
      intro character hmem
      obtain ⟨digit, hdigit, rfl⟩ := List.mem_map.mp hmem
      rw [isHexDigit_toLower]
      exact hdigits digit hdigit
    rw [isBracketedHost_future (by simpa [asciiLower] using hversion) hlower, Bool.and_eq_true,
      Bool.not_eq_true', List.isEmpty_eq_false_iff, List.all_eq_true]
    constructor
    · intro hnone
      rw [List.append_eq_nil_iff, hempty] at hnone
      rcases partition_cases '%' address with ⟨-, hparts⟩ | ⟨front, rest, -, -, hparts⟩
      · rw [hparts] at hnone
        exact hhost.1 hnone.1
      · rw [hparts] at hnone
        exact absurd hnone.2 (by simp)
    · intro character hmem
      rw [decide_eq_true_eq]
      rintro rfl
      exact hnewline (List.mem_cons_of_mem _ (List.mem_append_right _ (List.mem_cons_of_mem _ hmem)))
  · rw [isBracketedHost_of_head hfuture] at hhost
    have hchars := isAddressChar_of_isIpv6 hhost
    have hlower : lowerHost unicode.lower host = lowerHost asciiLower host := by
      rw [lowerHost, lowerHost, unicode.lower_address hchars]
    rw [hlower, isBracketedHost_of_head, isIpv6_lowerHost, hhost]
    rw [lowerHost]
    cases haddress : (partition '%' host).1 with
    | nil =>
        split
        · exact fun h => absurd (Option.some.inj h) (by decide)
        · exact fun h => nomatch h
    | cons first address =>
        intro h
        have hfirst := hchars first (haddress ▸ List.mem_cons_self)
        have hv : first.toLower = 'v' := Option.some.inj h
        simp only [isAddressChar, Bool.or_eq_true, beq_iff_eq, ← isHexDigit_toLower first, hv] at hfirst
        rcases hfirst with (hfirst | rfl) | rfl
        · exact absurd hfirst (by decide)
        · exact absurd hv (by decide)
        · exact absurd hv (by decide)

end UnicodeData.Standard

/-! ## Authorities that are normalized -/

/-- A character that `_checknetloc` leaves out. -/
def isLeftOut (character : Char) : Bool := ['@', ':', '#', '?'].contains character

section Marks

variable {unicode : UnicodeData} {makesMark : Char → Bool}
  (hnfkc : ∀ text, (unicode.nfkc text).any isNetlocMark = text.any makesMark)
include hnfkc

theorem makesMark_of_isAscii {character : Char} (hascii : isAscii character = true) :
    makesMark character = isNetlocMark character := by
  have hone := hnfkc [character]
  rw [unicode.nfkc_ascii [character] (by simp [hascii])] at hone
  simpa using hone.symm

/-- The check of an authority looks for characters that make a mark. -/
theorem isNormalizedNetloc_iff {netloc : Text}
    (hends : ∀ character ∈ netloc, endsNetloc character = false) :
    isNormalizedNetloc unicode netloc = true ↔
      ∀ character ∈ netloc, isLeftOut character = false → makesMark character = false := by
  have hkept : ∀ character ∈ netloc.filter (!isLeftOut ·), isNetlocMark character = false := by
    intro character hmem
    obtain ⟨hmem, hleft⟩ := List.mem_filter.mp hmem
    have hend := hends character hmem
    by_contra hmark
    rw [Bool.not_eq_false, isNetlocMark, List.contains_iff_mem] at hmark
    simp only [List.mem_cons, List.not_mem_nil, or_false] at hmark
    rcases hmark with rfl | rfl | rfl | rfl | rfl
    · exact absurd hend (by decide)
    · exact absurd hend (by decide)
    · exact absurd hend (by decide)
    · exact absurd hleft (by decide)
    · exact absurd hleft (by decide)
  have hnone : (netloc.filter (!isLeftOut ·)).any isNetlocMark = false := by
    rw [List.any_eq_false]
    exact fun character hmem => by rw [hkept character hmem]; exact Bool.false_ne_true
  have hmarks : (netloc.filter (!isLeftOut ·)).any makesMark = false ↔
      ∀ character ∈ netloc, isLeftOut character = false → makesMark character = false := by
    rw [List.any_eq_false]
    simp only [List.mem_filter, Bool.not_eq_true', Bool.not_eq_true, and_imp]
  rw [← hmarks, ← hnfkc]
  change (netloc.all isAscii || unicode.nfkc (netloc.filter (!isLeftOut ·)) ==
    netloc.filter (!isLeftOut ·) ||
      !(unicode.nfkc (netloc.filter (!isLeftOut ·))).any isNetlocMark) = true ↔ _
  rw [Bool.or_eq_true, Bool.or_eq_true, Bool.not_eq_true', beq_iff_eq]
  constructor
  · rintro ((hascii | hsame) | hnormal)
    · rw [unicode.nfkc_ascii]
      · exact hnone
      · rw [List.all_eq_true] at hascii ⊢
        exact fun character hmem => hascii character (List.mem_filter.mp hmem).1
    · rw [hsame]
      exact hnone
    · exact hnormal
  · exact .inr

end Marks

end DataSluice.Lib.Url
