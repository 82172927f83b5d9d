/-
# URLs

The functions of `urllib.parse` on text, as Python 3.13 has them: `urlsplit` with the
properties of its result, `urlunsplit`, `urljoin`, `parse_qsl` and `urlencode`. Text is a
list of characters here.

The tables of the Unicode database stand outside: the two cases, and the normalization of
a host name. They are fields of `UnicodeData`, together with what they do to ASCII text.
-/

import Mathlib.Data.List.Basic
import DataSluice.Lib.Utf8

namespace DataSluice.Lib.Url

/-- Text, character by character. -/
abbrev Text := List Char

/-- The code point is below 128. -/
def isAscii (character : Char) : Bool := decide (character.val < 128)

/-- The tables of the Unicode database that these functions read. -/
structure UnicodeData where
  /-- `str.lower` -/
  lower : Text → Text
  /-- `str.upper` -/
  upper : Text → Text
  /-- `unicodedata.normalize("NFKC", …)` -/
  nfkc : Text → Text
  lower_ascii : ∀ text, text.all isAscii = true → lower text = text.map Char.toLower
  upper_ascii : ∀ text, text.all isAscii = true → upper text = text.map Char.toUpper
  nfkc_ascii : ∀ text, text.all isAscii = true → nfkc text = text

/-- The tables for ASCII text, which leave other characters alone. -/
def UnicodeData.ascii : UnicodeData where
  lower text := text.map fun character =>
    if isAscii character then character.toLower else character
  upper text := text.map fun character =>
    if isAscii character then character.toUpper else character
  nfkc text := text
  lower_ascii text htext := by
    apply List.map_congr_left
    intro character hcharacter
    exact if_pos (List.all_eq_true.mp htext character hcharacter)
  upper_ascii text htext := by
    apply List.map_congr_left
    intro character hcharacter
    exact if_pos (List.all_eq_true.mp htext character hcharacter)
  nfkc_ascii _ _ := rfl

/-- What a malformed URL raises. -/
structure ValueError where
  message : String
  deriving DecidableEq

/-! ## Strings -/

/-- `str.partition`: the text before the first separator, whether there is one, and the
text behind it. -/
def partition (separator : Char) : Text → Text × Bool × Text
  | [] => ([], false, [])
  | character :: rest =>
      if character = separator then ([], true, rest)
      else
        let parts := partition separator rest
        (character :: parts.1, parts.2)

/-- `str.rpartition`: the same for the last separator; without one, all text is behind. -/
def rpartition (separator : Char) (text : Text) : Text × Bool × Text :=
  let parts := partition separator text.reverse
  if parts.2.1 then (parts.2.2.reverse, true, parts.1.reverse) else ([], false, text)

/-- `str.split` on one character. -/
def split (separator : Char) : Text → List Text
  | [] => [[]]
  | character :: rest =>
      if character = separator then [] :: split separator rest
      else
        match split separator rest with
        | [] => [[character]]
        | first :: others => (character :: first) :: others

/-- `str.join` -/
def join (separator : Text) (parts : List Text) : Text := (parts.intersperse separator).flatten

theorem split_append_cons {separator : Char} {front : Text} (hfront : separator ∉ front)
    (rest : Text) : split separator (front ++ separator :: rest) = front :: split separator rest := by
  induction front with
  | nil => exact if_pos rfl
  | cons character front ih =>
      have hne : character ≠ separator := fun h => hfront (h ▸ List.mem_cons_self)
      rw [List.cons_append, split, if_neg hne, ih fun h => hfront (List.mem_cons_of_mem _ h)]

theorem split_of_notMem {separator : Char} {text : Text} (htext : separator ∉ text) :
    split separator text = [text] := by
  induction text with
  | nil => rfl
  | cons character text ih =>
      have hne : character ≠ separator := fun h => htext (h ▸ List.mem_cons_self)
      rw [split, if_neg hne, ih fun h => htext (List.mem_cons_of_mem _ h)]

/-- Joined parts are read back where the separator is in none of them. -/
theorem split_join {separator : Char} {parts : List Text} (hparts : parts ≠ [])
    (hfree : ∀ part ∈ parts, separator ∉ part) :
    split separator (join [separator] parts) = parts := by
  induction parts with
  | nil => exact absurd rfl hparts
  | cons part parts ih =>
      have hpart := hfree part List.mem_cons_self
      cases parts with
      | nil => simpa [join] using split_of_notMem hpart
      | cons next parts =>
          have hrest := ih (List.cons_ne_nil _ _) fun other hother =>
            hfree other (List.mem_cons_of_mem _ hother)
          have hjoin : join [separator] (part :: next :: parts) =
              part ++ separator :: join [separator] (next :: parts) := by
            simp [join]
          rw [hjoin, split_append_cons hpart, hrest]

/-- `str.replace`, from left to right, with so many characters still to be skipped of the
last occurrence. -/
def replaceAll (old new : Text) : Nat → Text → Text
  | _, [] => []
  | skip + 1, _ :: rest => replaceAll old new skip rest
  | 0, character :: rest =>
      if old.isPrefixOf (character :: rest) then new ++ replaceAll old new (old.length - 1) rest
      else character :: replaceAll old new 0 rest

/-- Nothing is replaced where the first character of the old text does not occur. -/
theorem replaceAll_append_of_notMem {first : Char} {old new front back : Text}
    (hfirst : first ∉ front) :
    replaceAll (first :: old) new 0 (front ++ back) =
      front ++ replaceAll (first :: old) new 0 back := by
  induction front with
  | nil => rfl
  | cons character front ih =>
      have hhead : (first == character) = false :=
        beq_eq_false_iff_ne.mpr fun h => hfirst (h ▸ List.mem_cons_self)
      rw [List.cons_append, replaceAll, List.isPrefixOf, hhead, Bool.false_and,
        if_neg Bool.false_ne_true, ih fun h => hfirst (List.mem_cons_of_mem _ h)]
      rfl

def isDigit (character : Char) : Bool := '0' ≤ character && character ≤ '9'

def isLetter (character : Char) : Bool :=
  ('a' ≤ character && character ≤ 'z') || ('A' ≤ character && character ≤ 'Z')

def isHexDigit (character : Char) : Bool :=
  isDigit character || ('a' ≤ character && character ≤ 'f') ||
    ('A' ≤ character && character ≤ 'F')

/-- `int` on ASCII digits. -/
def decimal (digits : Text) : Nat :=
  digits.foldl (fun value digit => 10 * value + (digit.toNat - '0'.toNat)) 0

/-! ## Hosts in brackets -/

/-- `ipaddress.IPv4Address` accepts the text. -/
def isIpv4 (text : Text) : Bool :=
  let octets := split '.' text
  octets.length == 4 && octets.all fun octet =>
    !octet.isEmpty && octet.all isDigit && octet.length ≤ 3 &&
      !(octet.length > 1 && octet.head? == some '0') && decimal octet ≤ 255

/-- `ipaddress.IPv6Address` accepts the text: eight groups, or fewer with one `::`; the
last two may be an IPv4 address; a zone may follow. -/
def isIpv6 (text : Text) : Bool :=
  let address := partition '%' text
  let zone := address.2.2
  let parts := split ':' address.1
  let last := parts.getLastD []
  let embedded := last.contains '.'
  let groups := if embedded then parts.dropLast ++ [['0'], ['0']] else parts
  let skipped := (groups.zipIdx.filter fun group =>
    group.1.isEmpty && 0 < group.2 && group.2 + 1 < groups.length).map (·.2)
  let isGroup := fun group : Text => !group.isEmpty && group.length ≤ 4 && group.all isHexDigit
  (!address.2.1 || (!zone.isEmpty && !zone.contains '%')) && !text.contains '/' &&
    3 ≤ parts.length && (!embedded || isIpv4 last) && groups.length ≤ 9 &&
    match skipped with
    | [] => groups.length == 8 && groups.all isGroup
    | [index] =>
        let before := groups.take index
        let after := groups.drop (index + 1)
        let before' := if before.head? == some [] then before.tail else before
        let after' := if after.getLast? == some [] then after.dropLast else after
        (before'.length + after'.length < 8) && (before' == before || before'.isEmpty) &&
          (after' == after || after'.isEmpty) && (before' ++ after').all isGroup
    | _ => false

/-- `_check_bracketed_host` accepts the text. -/
def isBracketedHost (host : Text) : Bool :=
  match host with
  | 'v' :: rest =>
      let version := rest.takeWhile isHexDigit
      !version.isEmpty && (rest.drop version.length).head? == some '.' &&
        (match rest.drop (version.length + 1) with
          | [] => false
          | address => address.all (· ≠ '\n'))
  | _ => isIpv6 host

/-- `_check_bracketed_netloc` accepts the text. -/
def isBracketedNetloc (netloc : Text) : Bool :=
  let hostPort := (rpartition '@' netloc).2.2
  let bracket := partition '[' hostPort
  if bracket.2.1 then
    let host := partition ']' bracket.2.2
    bracket.1.isEmpty && (host.2.2.isEmpty || host.2.2.head? == some ':') &&
      isBracketedHost host.1
  else isBracketedHost (partition ':' hostPort).1

/-! ## Splitting -/

/-- `SplitResult` -/
structure SplitResult where
  scheme : Text
  netloc : Text
  path : Text
  query : Text
  fragment : Text
  deriving DecidableEq

/-- A character of a scheme. -/
def isSchemeChar (character : Char) : Bool :=
  isLetter character || isDigit character || character == '+' || character == '-' ||
    character == '.'

/-- The scheme of a URL, in lower case, and what follows its colon. -/
def splitScheme (default url : Text) : Text × Text :=
  let parts := partition ':' url
  if parts.2.1 && (parts.1.head?.map isLetter).getD false && parts.1.all isSchemeChar then
    (parts.1.map Char.toLower, parts.2.2)
  else (default, url)

/-- `_checknetloc` accepts the text: no delimiter appears when it is normalized. -/
def isNormalizedNetloc (unicode : UnicodeData) (netloc : Text) : Bool :=
  let kept := netloc.filter fun character => ! ['@', ':', '#', '?'].contains character
  netloc.all isAscii || unicode.nfkc kept == kept ||
    !(unicode.nfkc kept).any fun character => ['/', '?', '#', '@', ':'].contains character

/-- `urlsplit(url, scheme)` -/
def urlsplit (unicode : UnicodeData) (url : Text) (default : Text := []) :
    Except ValueError SplitResult :=
  -- Leading control characters and spaces go, and tabs and line ends everywhere.
  let cleaned := (url.dropWhile fun character => character.val ≤ 32).filter fun character =>
    ! ['\t', '\r', '\n'].contains character
  let scheme := splitScheme default cleaned
  let authority : Text × Text :=
    match scheme.2 with
    | '/' :: '/' :: rest =>
        let netloc := rest.takeWhile fun character => ! ['/', '?', '#'].contains character
        (netloc, rest.drop netloc.length)
    | rest => ([], rest)
  let fragment := partition '#' authority.2
  let query := partition '?' fragment.1
  if authority.1.contains '[' ≠ authority.1.contains ']' then .error ⟨"Invalid IPv6 URL"⟩
  else if authority.1.contains '[' && !isBracketedNetloc authority.1 then
    .error ⟨"Invalid IPv6 URL"⟩
  else if !isNormalizedNetloc unicode authority.1 then
    .error ⟨"netloc contains invalid characters under NFKC normalization"⟩
  else .ok ⟨scheme.1, authority.1, query.1, query.2.2, fragment.2.2⟩

namespace SplitResult

variable (parts : SplitResult)

/-- `username` -/
def username : Option Text :=
  let info := rpartition '@' parts.netloc
  if info.2.1 then some (partition ':' info.1).1 else none

/-- `password` -/
def password : Option Text :=
  let info := rpartition '@' parts.netloc
  let password := partition ':' info.1
  if info.2.1 && password.2.1 then some password.2.2 else none

/-- `_hostinfo` -/
def hostInfo : Text × Text :=
  let host := (rpartition '@' parts.netloc).2.2
  let bracket := partition '[' host
  if bracket.2.1 then
    let inside := partition ']' bracket.2.2
    (inside.1, (partition ':' inside.2.2).2.2)
  else
    let port := partition ':' host
    (port.1, port.2.2)

/-- `hostname`: lower case but for a zone, and absent when it is empty. -/
def hostname (unicode : UnicodeData) : Option Text :=
  let host := parts.hostInfo.1
  if host = [] then none
  else
    let zone := partition '%' host
    some (unicode.lower zone.1 ++ if zone.2.1 then '%' :: zone.2.2 else [])

/-- `port` -/
def port : Except ValueError (Option Nat) :=
  let digits := parts.hostInfo.2
  if digits = [] then .ok none
  else if digits.all isDigit then
    if decimal digits ≤ 65535 then .ok (some (decimal digits))
    else .error ⟨"Port out of range 0-65535"⟩
  else .error ⟨"Port could not be cast to integer value"⟩

end SplitResult

/-! ## Putting together -/

def usesNetloc : List String :=
  ["", "ftp", "http", "gopher", "nntp", "telnet", "imap", "wais", "file", "mms", "https", "shttp",
    "snews", "prospero", "rtsp", "rtsps", "rtspu", "rsync", "svn", "svn+ssh", "sftp", "nfs", "git",
    "git+ssh", "ws", "wss", "itms-services"]

def usesRelative : List String :=
  ["", "ftp", "http", "gopher", "nntp", "imap", "wais", "file", "https", "shttp", "mms",
    "prospero", "rtsp", "rtsps", "rtspu", "sftp", "svn", "svn+ssh", "ws", "wss"]

def usesParams : List String :=
  ["", "ftp", "hdl", "prospero", "http", "imap", "https", "shttp", "rtsp", "rtsps", "rtspu", "sip",
    "sips", "mms", "sftp", "tel"]

/-- A scheme is in one of these lists. -/
def isOneOf (schemes : List String) (scheme : Text) : Bool :=
  schemes.any fun name => name.toList == scheme

/-- `urlunsplit` -/
def urlunsplit (parts : SplitResult) : Text :=
  let path :=
    if parts.netloc ≠ [] then
      ['/', '/'] ++ parts.netloc ++
        (if parts.path ≠ [] ∧ parts.path.head? ≠ some '/' then '/' :: parts.path else parts.path)
    else if parts.path.take 2 = ['/', '/'] then ['/', '/'] ++ parts.path
    else if parts.scheme ≠ [] ∧ isOneOf usesNetloc parts.scheme ∧
        (parts.path = [] ∨ parts.path.head? = some '/') then ['/', '/'] ++ parts.path
    else parts.path
  (if parts.scheme = [] then [] else parts.scheme ++ [':']) ++ path ++
    (if parts.query = [] then [] else '?' :: parts.query) ++
    (if parts.fragment = [] then [] else '#' :: parts.fragment)

/-- `_splitparams`: the parameters start at a semicolon behind the last slash. -/
def splitParams (path : Text) : Text × Text :=
  let directory := rpartition '/' path
  let last := partition ';' directory.2.2
  ((if directory.2.1 then directory.1 ++ ['/'] else []) ++ last.1, last.2.2)

/-- The path and the parameters that `urlparse` makes of a split URL. -/
def pathParams (parts : SplitResult) : Text × Text :=
  if isOneOf usesParams parts.scheme && parts.path.contains ';' then splitParams parts.path
  else (parts.path, [])

/-- `urlunparse` -/
def urlunparse (parts : SplitResult) (params : Text) : Text :=
  urlunsplit { parts with path := if params = [] then parts.path else parts.path ++ ';' :: params }

/-- The loop over the segments of a path. -/
def resolveSegments : List Text → List Text → List Text
  | resolved, [] => resolved
  | resolved, segment :: segments =>
      if segment = ['.', '.'] then resolveSegments resolved.dropLast segments
      else if segment = ['.'] then resolveSegments resolved segments
      else resolveSegments (resolved ++ [segment]) segments

/-- The path of a relative reference, resolved against the one of the base. -/
def resolvePath (base path : Text) : Text :=
  let baseParts := split '/' base
  let baseDirectory := if baseParts.getLastD [] = [] then baseParts else baseParts.dropLast
  let segments :=
    if path.head? = some '/' then split '/' path
    else
      let joined := baseDirectory ++ split '/' path
      joined.take 1 ++ (joined.drop 1).dropLast.filter (· ≠ []) ++
        (joined.drop 1).getLast?.toList
  let resolved := resolveSegments [] segments
  let closed :=
    if segments.getLastD [] = ['.'] ∨ segments.getLastD [] = ['.', '.'] then resolved ++ [[]]
    else resolved
  let text := join ['/'] closed
  if text = [] then ['/'] else text

/-- `urljoin` -/
def urljoin (unicode : UnicodeData) (base url : Text) : Except ValueError Text :=
  if base = [] then .ok url
  else if url = [] then .ok base
  else do
    let baseParts ← urlsplit unicode base
    let parts ← urlsplit unicode url baseParts.scheme
    let basePath := pathParams baseParts
    let path := pathParams parts
    if parts.scheme ≠ baseParts.scheme ∨ !isOneOf usesRelative parts.scheme then return url
    if isOneOf usesNetloc parts.scheme ∧ parts.netloc ≠ [] then
      return urlunparse { parts with path := path.1 } path.2
    let netloc := if isOneOf usesNetloc parts.scheme then baseParts.netloc else parts.netloc
    if path.1 = [] ∧ path.2 = [] then
      return urlunparse
        { parts with
          netloc := netloc
          path := basePath.1
          query := if parts.query = [] then baseParts.query else parts.query } basePath.2
    return urlunparse { parts with netloc := netloc, path := resolvePath basePath.1 path.1 } path.2

/-! ## Queries -/

/-- The value of a hexadecimal digit. -/
def hexValue (digit : Char) : Nat :=
  if isDigit digit then digit.toNat - '0'.toNat
  else if 'a' ≤ digit then digit.toNat - 'a'.toNat + 10
  else digit.toNat - 'A'.toNat + 10

/-- `unquote_to_bytes` on ASCII text. -/
def unquoteBytes : Text → List UInt8
  | '%' :: high :: low :: rest =>
      if isHexDigit high && isHexDigit low then
        UInt8.ofNat (16 * hexValue high + hexValue low) :: unquoteBytes rest
      else 0x25 :: unquoteBytes (high :: low :: rest)
  | character :: rest => UInt8.ofNat character.toNat :: unquoteBytes rest
  | [] => []

/-- The bytes of ASCII text so far are decoded where other characters begin. -/
def unquoteParts (pending : Text) : Text → Text
  | [] => Utf8.decodeReplace (unquoteBytes pending.reverse)
  | character :: rest =>
      if isAscii character then unquoteParts (character :: pending) rest
      else Utf8.decodeReplace (unquoteBytes pending.reverse) ++ character :: unquoteParts [] rest

/-- `unquote` with the replacement of bytes that are not UTF-8. -/
def unquote (text : Text) : Text := unquoteParts [] text

/-- `unquote` of text in which a plus sign stands for a space. -/
def unquotePlus (text : Text) : Text :=
  unquote (text.map fun character => if character = '+' then ' ' else character)

/-- `parse_qsl` with `keep_blank_values=True`. -/
def parseQsl (query : Text) : List (Text × Text) :=
  ((split '&' query).filter (· ≠ [])).map fun pair =>
    let parts := partition '=' pair
    (unquotePlus parts.1, unquotePlus parts.2.2)

/-- Upper case, as `quote` writes bytes. -/
def hexDigit (value : Nat) : Char :=
  if value < 10 then Char.ofNat ('0'.toNat + value) else Char.ofNat ('A'.toNat + (value - 10))

/-- `quote_plus` on one character: kept, a plus sign, or its bytes in hexadecimal. -/
def quotePlusChar (safe : Text) (character : Char) : Text :=
  if isLetter character || isDigit character || ['_', '.', '-', '~'].contains character ||
      (isAscii character && safe.contains character) then [character]
  else if character = ' ' then ['+']
  else (String.utf8EncodeChar character).flatMap fun byte =>
    ['%', hexDigit (byte.toNat / 16), hexDigit (byte.toNat % 16)]

/-- `quote` on one character: kept, or its bytes in hexadecimal. -/
def quoteChar (safe : Text) (character : Char) : Text :=
  if isLetter character || isDigit character || ['_', '.', '-', '~'].contains character ||
      (isAscii character && safe.contains character) then [character]
  else (String.utf8EncodeChar character).flatMap fun byte =>
    ['%', hexDigit (byte.toNat / 16), hexDigit (byte.toNat % 16)]

/-- `quote` -/
def quote (safe text : Text) : Text := text.flatMap (quoteChar safe)

/-- `urlencode` of pairs of strings. -/
def urlencode (safe : Text) (pairs : List (Text × Text)) : Text :=
  join ['&'] (pairs.map fun pair =>
    pair.1.flatMap (quotePlusChar safe) ++ '=' :: pair.2.flatMap (quotePlusChar safe))

/-! ## Quoted text -/

theorem hexDigit_spec : ∀ value < 16, isHexDigit (hexDigit value) = true ∧
    hexValue (hexDigit value) = value ∧ hexDigit value ≠ ':' ∧ hexDigit value ≠ '/' := by decide

theorem unquoteBytes_cons {character : Char} (hcharacter : character ≠ '%') (rest : Text) :
    unquoteBytes (character :: rest) = UInt8.ofNat character.toNat :: unquoteBytes rest := by
  rw [unquoteBytes]
  intro high low tail h
  exact absurd h hcharacter

theorem unquoteBytes_escape (byte : UInt8) (rest : Text) :
    unquoteBytes ('%' :: hexDigit (byte.toNat / 16) :: hexDigit (byte.toNat % 16) :: rest) =
      byte :: unquoteBytes rest := by
  have hbyte := byte.toNat_lt
  obtain ⟨hhigh, hhighValue, -⟩ := hexDigit_spec (byte.toNat / 16) (by omega)
  obtain ⟨hlow, hlowValue, -⟩ := hexDigit_spec (byte.toNat % 16) (by omega)
  have hvalue : UInt8.ofNat (16 * (byte.toNat / 16) + byte.toNat % 16) = byte := by
    rw [Nat.div_add_mod, UInt8.ofNat_toNat]
  rw [unquoteBytes, hhigh, hlow, hhighValue, hlowValue, hvalue]
  rfl

theorem unquoteBytes_escapes (bytes : List UInt8) (rest : Text) :
    unquoteBytes ((bytes.flatMap fun byte =>
      ['%', hexDigit (byte.toNat / 16), hexDigit (byte.toNat % 16)]) ++ rest) =
      bytes ++ unquoteBytes rest := by
  induction bytes with
  | nil => rfl
  | cons byte bytes ih =>
      rw [List.flatMap_cons, List.append_assoc]
      calc unquoteBytes (['%', hexDigit (byte.toNat / 16), hexDigit (byte.toNat % 16)] ++ _)
        _ = byte :: unquoteBytes _ := unquoteBytes_escape byte _
        _ = byte :: (bytes ++ unquoteBytes rest) := congrArg (byte :: ·) ih

/-- A character that `quote` keeps is ASCII and begins no escape. -/
theorem isAscii_of_kept {safe : Text} (hsafe : '%' ∉ safe) {character : Char}
    (hkept : (isLetter character || isDigit character ||
      ['_', '.', '-', '~'].contains character ||
      (isAscii character && safe.contains character)) = true) :
    isAscii character = true ∧ character ≠ '%' := by
  simp only [Bool.or_eq_true, Bool.and_eq_true, List.contains_iff_mem, isLetter, isDigit,
    decide_eq_true_eq, List.mem_cons, List.not_mem_nil, or_false] at hkept
  have hsmall : ∀ {low high : Char}, '%' < low → high.val < 128 → low ≤ character →
      character ≤ high → isAscii character = true ∧ character ≠ '%' := by
    intro low high hlow hhigh hbelow habove
    constructor
    · exact decide_eq_true (UInt32.lt_of_le_of_lt habove hhigh)
    · rintro rfl
      exact UInt32.lt_irrefl _ (UInt32.lt_of_lt_of_le hlow hbelow)
  rcases hkept with (((⟨hlow, hhigh⟩ | ⟨hlow, hhigh⟩) | ⟨hlow, hhigh⟩) | hmark) | ⟨hascii, hmem⟩
  · exact hsmall (by decide) (by decide) hlow hhigh
  · exact hsmall (by decide) (by decide) hlow hhigh
  · exact hsmall (by decide) (by decide) hlow hhigh
  · rcases hmark with rfl | rfl | rfl | rfl <;> exact ⟨by decide, by decide⟩
  · exact ⟨hascii, fun h => hsafe (h ▸ hmem)⟩

/-- Quoted text is read back as the bytes of the text. -/
theorem unquoteBytes_quote {safe : Text} (hsafe : '%' ∉ safe) (text : Text) :
    unquoteBytes (quote safe text) = text.flatMap String.utf8EncodeChar := by
  induction text with
  | nil => rfl
  | cons character text ih =>
      rw [quote, List.flatMap_cons, List.flatMap_cons, quoteChar, ← ih]
      split
      · next hkept =>
          obtain ⟨hascii, hescape⟩ := isAscii_of_kept hsafe hkept
          have hsize : character.utf8Size = 1 := by
            have hsmall : character.val < 128 := of_decide_eq_true hascii
            rw [UInt32.lt_iff_toNat_lt] at hsmall
            exact Char.utf8Size_eq_one_iff.mpr (UInt32.le_iff_toNat_le.mpr (Nat.le_of_lt_succ hsmall))
          rw [List.singleton_append, unquoteBytes_cons hescape,
            String.utf8EncodeChar_eq_singleton hsize]
          rfl
      · exact unquoteBytes_escapes _ _

/-- Different texts are quoted differently. -/
theorem quote_injective {safe : Text} (hsafe : '%' ∉ safe) {text other : Text}
    (hquote : quote safe text = quote safe other) : text = other := by
  apply Utf8.flatMap_utf8EncodeChar_injective
  rw [← unquoteBytes_quote hsafe, ← unquoteBytes_quote hsafe, hquote]

/-- A colon or a slash that is not safe does not occur in quoted text. -/
theorem notMem_quote {safe : Text} {separator : Char} (hseparator : separator = ':' ∨ separator = '/')
    (hsafe : separator ∉ safe) (text : Text) : separator ∉ quote safe text := by
  intro hmem
  obtain ⟨character, -, hmem⟩ := List.mem_flatMap.mp hmem
  rw [quoteChar] at hmem
  split at hmem
  · next hkept =>
      rw [List.mem_singleton] at hmem
      subst hmem
      rcases hseparator with rfl | rfl <;> simp [isLetter, isDigit, hsafe] at hkept
  · obtain ⟨byte, -, hdigit⟩ := List.mem_flatMap.mp hmem
    have hbyte := byte.toNat_lt
    have hhigh := hexDigit_spec (byte.toNat / 16) (by omega)
    have hlow := hexDigit_spec (byte.toNat % 16) (by omega)
    simp only [List.mem_cons, List.not_mem_nil, or_false] at hdigit
    rcases hseparator with rfl | rfl <;> rcases hdigit with h | h | h
    · exact absurd h (by decide)
    · exact hhigh.2.2.1 h.symm
    · exact hlow.2.2.1 h.symm
    · exact absurd h (by decide)
    · exact hhigh.2.2.2 h.symm
    · exact hlow.2.2.2 h.symm

end DataSluice.Lib.Url
