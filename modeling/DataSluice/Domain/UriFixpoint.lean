/-
# Sanitized URIs are fixed points

`sanitize_uri` writes the parts of a URI again, the authority without user information and the
query with its secrets replaced. What it writes is split into the parts it was made of, so
sanitizing it again changes nothing. It is a URI that locators accept, apart from two kinds:
a bare Windows drive, which loses its slashes, and a host whose brackets are dropped although
it has one inside.
-/

import DataSluice.Domain.Artifact
import DataSluice.Lib.UrlHosts

namespace DataSluice.Domain

open DataSluice.Lib.Url

/-! ## Authorities -/

/-- The host and the port of an authority, without the user information. -/
def hostPart (netloc : Text) : Text := (rpartition '@' netloc).2.2

/-- The digits of a port. -/
def portDigits (port : Option Nat) : Text := (port.map fun number => (Nat.repr number).toList).getD []

/-- A port behind its colon. -/
def portText (port : Option Nat) : Text := marked ':' (portDigits port)

/-- A host and a port, as `_netloc_without_userinfo` writes them. -/
def netlocText (host : Text) (port : Option Nat) : Text :=
  (if host.contains ':' then '[' :: host ++ [']'] else host) ++ portText port

/-- The port, where it is a valid one. -/
def validPort (parts : SplitResult) : Option Nat := parts.port.toOption.join

theorem portText_some (number : Nat) : portText (some number) = ':' :: (Nat.repr number).toList := by
  have hne : (Nat.repr number).toList ≠ [] := by
    rw [Nat.toList_repr]
    exact Nat.toDigits_ne_nil
  rw [portText, marked, portDigits]
  exact if_neg hne

variable (unicode : UnicodeData)

theorem hostname_eq (parts : SplitResult) :
    parts.hostname unicode =
      if parts.hostInfo.1 = [] then none else some (lowerHost unicode.lower parts.hostInfo.1) := rfl

theorem netlocWithoutUserinfo_eq (parts : SplitResult) :
    netlocWithoutUserinfo unicode parts =
      if parts.hostInfo.1 = [] then hostPart parts.netloc
      else netlocText (lowerHost unicode.lower parts.hostInfo.1) (validPort parts) := by
  rw [netlocWithoutUserinfo, hostname_eq]
  split
  · next hnone =>
      split at hnone
      · next hempty => rw [if_pos hempty]; rfl
      · cases hnone
  · next host hsome =>
      split at hsome
      · cases hsome
      · next hne =>
          rw [if_neg hne, ← Option.some.inj hsome, netlocText, validPort]
          cases hparts : parts.port with
          | error error => exact (List.append_nil _).symm
          | ok port =>
              cases port with
              | none => exact (List.append_nil _).symm
              | some port =>
                  show _ = _ ++ portText (some port)
                  rw [portText_some]

/-- Where the raw host of an authority comes from. -/
theorem hostInfo_cases (parts : SplitResult) :
    ('[' ∉ hostPart parts.netloc ∧ parts.hostInfo.1 = (partition ':' (hostPart parts.netloc)).1) ∨
      ∃ front inside, '[' ∉ front ∧ hostPart parts.netloc = front ++ '[' :: inside ∧
        parts.hostInfo.1 = (partition ']' inside).1 := by
  rw [SplitResult.hostInfo]
  rcases partition_cases '[' (hostPart parts.netloc) with ⟨hnone, hparts⟩ | ⟨front, rest, hfront, htext, hparts⟩
  · refine .inl ⟨hnone, ?_⟩
    rw [hostPart] at hparts
    simp only [hparts]
    rfl
  · refine .inr ⟨front, rest, hfront, htext, ?_⟩
    rw [hostPart] at hparts
    simp only [hparts]
    rfl

theorem hostInfo_subset (parts : SplitResult) : parts.hostInfo.1 ⊆ hostPart parts.netloc := by
  rcases hostInfo_cases parts with ⟨-, hraw⟩ | ⟨front, inside, -, htext, hraw⟩
  · rw [hraw]
    exact partition_fst_subset _ _
  · rw [hraw, htext]
    intro character hmem
    exact List.mem_append_right _ (List.mem_cons_of_mem _ (partition_fst_subset _ _ hmem))

theorem notMem_hostInfo (parts : SplitResult) : ']' ∈ parts.hostInfo.1 →
    '[' ∉ hostPart parts.netloc := by
  intro hmem
  rcases hostInfo_cases parts with ⟨hnone, -⟩ | ⟨front, inside, -, -, hraw⟩
  · exact hnone
  · rw [hraw] at hmem
    exact absurd hmem (notMem_partition_fst _ _)

/-- A port that was read is in range. -/
theorem validPort_le {parts : SplitResult} {number : Nat} (hport : validPort parts = some number) :
    number ≤ 65535 := by
  rw [validPort, SplitResult.port] at hport
  split at hport
  · cases hport
  · split at hport
    · split at hport
      · next hle =>
          cases hport
          exact hle
      · cases hport
    · cases hport

theorem isDigit_repr (number : Nat) : (Nat.repr number).toList.all isDigit = true := by
  rw [List.all_eq_true]
  intro character hmem
  rw [Nat.toList_repr] at hmem
  have hdigit := Nat.isDigit_of_mem_toDigits (by decide) (by decide) hmem
  rw [Char.isDigit, Bool.and_eq_true] at hdigit
  rw [isDigit, Bool.and_eq_true]
  exact hdigit

theorem decimal_repr (number : Nat) : decimal (Nat.repr number).toList = number := by
  calc decimal (Nat.repr number).toList
    _ = decimal (Nat.toDigits 10 number) := by rw [Nat.toList_repr]
    _ = Nat.ofDigitChars 10 (Nat.toDigits 10 number) 0 := by
      rw [Nat.ofDigitChars_eq_foldl]
      rfl
    _ = number := Nat.ofDigitChars_ten_toDigits

/-- The port of an authority whose digits were written. -/
theorem validPort_digits {parts : SplitResult} {port : Option Nat}
    (hdigits : parts.hostInfo.2 = portDigits port) (hport : ∀ number ∈ port, number ≤ 65535) :
    validPort parts = port := by
  rw [validPort, SplitResult.port, hdigits]
  cases port with
  | none => rfl
  | some number =>
      have hne : (Nat.repr number).toList ≠ [] := by
        rw [Nat.toList_repr]
        exact Nat.toDigits_ne_nil
      simp only [portDigits, Option.map_some, Option.getD_some, if_neg hne, isDigit_repr,
        decimal_repr, if_pos (hport number rfl), if_true]
      rfl

theorem mem_portText {port : Option Nat} {character : Char} (hmem : character ∈ portText port) :
    character = ':' ∨ isDigit character = true := by
  rw [portText] at hmem
  refine (mem_marked hmem).imp_right fun hmem => ?_
  cases port with
  | none => cases hmem
  | some number => exact List.all_eq_true.mp (isDigit_repr number) character hmem

theorem hostPart_of_notMem {netloc : Text} (huser : '@' ∉ netloc) : hostPart netloc = netloc := by
  rw [hostPart, rpartition_of_notMem huser]

theorem mem_netlocText {host : Text} {port : Option Nat} {character : Char}
    (hmem : character ∈ netlocText host port) :
    character ∈ host ∨ character = ':' ∨ isDigit character = true ∨
      ':' ∈ host ∧ (character = '[' ∨ character = ']') := by
  rw [netlocText, List.mem_append] at hmem
  rcases hmem with hmem | hmem
  · split at hmem
    · next hcolon =>
        rw [List.contains_iff_mem] at hcolon
        rw [List.cons_append, List.mem_cons, List.mem_append, List.mem_singleton] at hmem
        tauto
    · exact .inl hmem
  · exact .inr ((mem_portText hmem).imp_right .inl)

/-- The host and the digits of the port are read back from a written authority. -/
theorem hostInfo_netlocText {parts : SplitResult} {host : Text} {port : Option Nat}
    (hnetloc : parts.netloc = netlocText host port) (huser : '@' ∉ host) (hclose : ']' ∉ host)
    (hopen : '[' ∈ host → ':' ∈ host) : parts.hostInfo = (host, portDigits port) := by
  have hnone : '@' ∉ netlocText host port := by
    intro hmem
    rcases mem_netlocText hmem with h | h | h | ⟨-, h | h⟩
    · exact huser h
    · exact absurd h (by decide)
    · exact absurd h (by decide)
    · exact absurd h (by decide)
    · exact absurd h (by decide)
  rw [SplitResult.hostInfo, hnetloc, rpartition_of_notMem hnone, netlocText]
  by_cases hcolon : ':' ∈ host
  · rw [if_pos (List.contains_iff_mem.mpr hcolon)]
    have hparts : partition '[' ('[' :: host ++ [']'] ++ portText port) =
        ([], true, host ++ ']' :: portText port) := by
      simp [partition]
    have hport : (partition ':' (portText port)).2.2 = portDigits port :=
      (@partition_marked ':' [] List.not_mem_nil (portDigits port)).2
    simp only [hparts, partition_append_cons hclose, if_true, hport]
  · rw [if_neg fun h => hcolon (List.contains_iff_mem.mp h)]
    have hfree : '[' ∉ host ++ portText port := by
      rw [List.mem_append]
      rintro (h | h)
      · exact hcolon (hopen h)
      · exact (mem_portText h).elim (fun h => absurd h (by decide)) fun h => absurd h (by decide)
    obtain ⟨hhost, hport⟩ := partition_marked hcolon (portDigits port)
    rw [← portText] at hhost hport
    simp only [partition_of_notMem hfree, Bool.false_eq_true, if_false, hhost, hport]

theorem brackets_of_sound {netloc : Text} (hsound : netlocError unicode netloc = none) :
    '[' ∈ netloc ↔ ']' ∈ netloc := by
  rw [netlocError] at hsound
  split at hsound
  · cases hsound
  · next hsame =>
      rw [not_not, Bool.eq_iff_iff, List.contains_iff_mem, List.contains_iff_mem] at hsame
      exact hsame

section Authority

variable {unicode} (hstandard : unicode.Standard)
include hstandard

/-- An authority without user information keeps its spelling when it is written once more,
unless it is refused. -/
theorem netlocWithoutUserinfo_fixpoint {parts written : SplitResult}
    (hnetloc : written.netloc = netlocWithoutUserinfo unicode parts)
    (hsound : netlocError unicode written.netloc = none) :
    netlocWithoutUserinfo unicode written = written.netloc := by
  by_cases hempty : parts.hostInfo.1 = []
  · -- There is no host: the authority was cut behind the user information.
    rw [netlocWithoutUserinfo_eq, if_pos hempty] at hnetloc
    have huser : '@' ∉ written.netloc := by
      rw [hnetloc]
      exact notMem_rpartition '@' parts.netloc
    have hsame : written.hostInfo = parts.hostInfo := by
      rw [SplitResult.hostInfo, rpartition_of_notMem huser, hnetloc]
      rfl
    rw [netlocWithoutUserinfo_eq, hsame, if_pos hempty, hostPart_of_notMem huser]
  · rw [netlocWithoutUserinfo_eq, if_neg hempty] at hnetloc
    have hmark : ∀ mark, isAscii mark = true → isLetter mark = false →
        (mark ∈ lowerHost unicode.lower parts.hostInfo.1 ↔ mark ∈ parts.hostInfo.1) :=
      fun mark hascii hletter => mem_lowerHost (hstandard.lower_mark mark hascii hletter) _
    have huser : '@' ∉ lowerHost unicode.lower parts.hostInfo.1 := by
      rw [hmark '@' (by decide) (by decide)]
      exact fun hmem => notMem_rpartition '@' parts.netloc (hostInfo_subset parts hmem)
    have hbare : ':' ∉ parts.hostInfo.1 → ∀ mark, mark = '[' ∨ mark = ']' →
        (mark ∈ written.netloc ↔ mark ∈ parts.hostInfo.1) := by
      intro hcolon mark hbracket
      have hdigit : mark ≠ ':' ∧ isDigit mark = false ∧ isAscii mark = true ∧
          isLetter mark = false := by
        rcases hbracket with rfl | rfl <;> decide
      rw [← hmark mark hdigit.2.2.1 hdigit.2.2.2, hnetloc]
      rw [← hmark ':' (by decide) (by decide)] at hcolon
      constructor
      · intro hmem
        rcases mem_netlocText hmem with h | h | h | h
        · exact h
        · exact absurd h hdigit.1
        · rw [hdigit.2.1] at h
          cases h
        · exact absurd h.1 hcolon
      · intro hmem
        rw [netlocText, if_neg fun h => hcolon (List.contains_iff_mem.mp h)]
        exact List.mem_append_left _ hmem
    have hbrackets := brackets_of_sound unicode hsound
    have hclose : ']' ∉ parts.hostInfo.1 := by
      intro hmem
      rcases hostInfo_cases parts with ⟨hopen, hraw⟩ | ⟨front, inside, -, -, hraw⟩
      · have hcolon : ':' ∉ parts.hostInfo.1 := by
          rw [hraw]
          exact notMem_partition_fst ':' _
        rw [hbare hcolon ']' (.inr rfl), hbare hcolon '[' (.inl rfl)] at hbrackets
        exact hopen (hostInfo_subset parts (hbrackets.mpr hmem))
      · rw [hraw] at hmem
        exact notMem_partition_fst _ _ hmem
    have hopen : '[' ∈ parts.hostInfo.1 → ':' ∈ parts.hostInfo.1 := by
      intro hmem
      by_contra hcolon
      rw [hbare hcolon ']' (.inr rfl), hbare hcolon '[' (.inl rfl)] at hbrackets
      exact hclose (hbrackets.mp hmem)
    rw [← hmark ']' (by decide) (by decide)] at hclose
    rw [← hmark '[' (by decide) (by decide), ← hmark ':' (by decide) (by decide)] at hopen
    have hinfo := hostInfo_netlocText hnetloc huser hclose hopen
    have hport : validPort written = validPort parts :=
      validPort_digits (by rw [hinfo]) fun _ => validPort_le
    rw [netlocWithoutUserinfo_eq, hinfo, if_neg (mt (hstandard.lowerHost_eq_nil _).mp hempty), hport,
      hstandard.lowerHost_lowerHost, hnetloc]

end Authority

/-! ## Queries -/

/-- What `_redacted_query` makes of the parameters. -/
def redactedPair (pair : Text × Text) : Text × Text :=
  (pair.1, if isOneOf sensitiveQueryKeys (unicode.lower pair.1) then redacted else pair.2)

theorem redactedPair_redactedPair (pair : Text × Text) :
    redactedPair unicode (redactedPair unicode pair) = redactedPair unicode pair := by
  rw [redactedPair, redactedPair]
  split <;> rfl

theorem safe_star : ('%' ∉ ['*'] ∧ '+' ∉ ['*']) ∧ ('&' ∉ ['*'] ∧ '=' ∉ ['*']) ∧
    ∀ character ∈ ['*'], isAscii character = true :=
  ⟨by decide, by decide, List.forall_mem_singleton.mpr rfl⟩

theorem redactedQuery_redactedQuery (query : Text) :
    redactedQuery unicode (redactedQuery unicode query) = redactedQuery unicode query := by
  obtain ⟨hescape, hparts, hascii⟩ := safe_star
  by_cases hempty : redactedQuery unicode query = []
  · rw [hempty]
    rfl
  · have hquery : query ≠ [] := by
      rintro rfl
      exact hempty rfl
    have hwritten : redactedQuery unicode query =
        urlencode ['*'] ((parseQsl query).map (redactedPair unicode)) := if_neg hquery
    conv_lhs => rw [redactedQuery, if_neg hempty, hwritten, parseQsl_urlencode hescape hascii hparts]
    rw [hwritten]
    change urlencode ['*'] (((parseQsl query).map (redactedPair unicode)).map
      (redactedPair unicode)) = _
    rw [List.map_map]
    congr 1
    exact List.map_congr_left fun pair _ => redactedPair_redactedPair unicode pair

theorem redactedQuery_kept {query : Text} {character : Char}
    (hmem : character ∈ redactedQuery unicode query) :
    character ≠ '#' ∧ isRemoved character = false := by
  rw [redactedQuery] at hmem
  split at hmem
  · cases hmem
  · rcases mem_urlencode safe_star.1 hmem with rfl | rfl | hquote
    · decide
    · decide
    · constructor
      · rintro rfl
        exact absurd hquote (by decide)
      · by_contra hremoved
        rw [Bool.not_eq_false, isRemoved, List.contains_iff_mem] at hremoved
        simp only [List.mem_cons, List.not_mem_nil, or_false] at hremoved
        rcases hremoved with rfl | rfl | rfl <;> exact absurd hquote (by decide)

/-! ## URIs -/

/-- The parts that `sanitize_uri` writes. -/
def sanitizedParts (parts : SplitResult) : SplitResult where
  scheme := parts.scheme
  netloc := netlocWithoutUserinfo unicode parts
  path := parts.path
  query := redactedQuery unicode parts.query
  fragment := parts.fragment

theorem sanitizeUri_eq {uri : String} {parts : SplitResult}
    (hsplit : urlsplit unicode uri.toList = .ok parts) (hscheme : parts.scheme ≠ []) :
    sanitizeUri unicode uri = String.ofList (urlunsplit (sanitizedParts unicode parts)) := by
  rw [sanitizeUri, hsplit]
  exact if_neg hscheme

/-- The parts of a URL that was split are those before the check of the authority. -/
theorem rawParts_of_urlsplit {url : Text} {parts : SplitResult}
    (hsplit : urlsplit unicode url = .ok parts) :
    rawParts url = parts ∧ netlocError unicode parts.netloc = none := by
  rw [urlsplit_eq] at hsplit
  cases herror : netlocError unicode (rawParts url).netloc with
  | none =>
      rw [herror] at hsplit
      cases hsplit
      exact ⟨rfl, herror⟩
  | some error =>
      rw [herror] at hsplit
      cases hsplit

theorem netlocWithoutUserinfo_nil {unicode : UnicodeData} {parts : SplitResult} (hnetloc : parts.netloc = []) :
    netlocWithoutUserinfo unicode parts = [] := by
  have hhost : hostPart parts.netloc = [] := by rw [hnetloc]; rfl
  have hraw : parts.hostInfo.1 = [] :=
    List.eq_nil_iff_forall_not_mem.mpr fun character hmem => by
      have hin := hostInfo_subset parts hmem
      rw [hhost] at hin
      cases hin
  rw [netlocWithoutUserinfo_eq, if_pos hraw, hhost]

section Uris

variable {unicode} (hstandard : unicode.Standard)
include hstandard

/-- An ASCII character of a sanitized authority that is no letter stood there before, or belongs
to what is written around a host and a port. -/
theorem mem_netlocWithoutUserinfo {parts : SplitResult} {character : Char}
    (hmem : character ∈ netlocWithoutUserinfo unicode parts) (hascii : isAscii character = true)
    (hletter : isLetter character = false) :
    character ∈ parts.netloc ∨ character = ':' ∨ isDigit character = true ∨ character = '[' ∨
      character = ']' := by
  have hpart : hostPart parts.netloc ⊆ parts.netloc := rpartition_subset '@' parts.netloc
  rw [netlocWithoutUserinfo_eq] at hmem
  split at hmem
  · exact .inl (hpart hmem)
  · rcases mem_netlocText hmem with h | h | h | ⟨-, h⟩
    · rw [mem_lowerHost (hstandard.lower_mark character hascii hletter)] at h
      exact .inl (hpart (hostInfo_subset parts h))
    · exact .inr (.inl h)
    · exact .inr (.inr (.inl h))
    · exact .inr (.inr (.inr h))

/-- The marks that end an authority, or are removed from a URL, come from the authority. -/
theorem notMem_netlocWithoutUserinfo {parts : SplitResult} {mark : Char}
    (hmark : mark ∈ ['/', '?', '#', '\t', '\r', '\n']) (hnetloc : mark ∉ parts.netloc) :
    mark ∉ netlocWithoutUserinfo unicode parts := by
  have hfacts : ['/', '?', '#', '\t', '\r', '\n'].all (fun mark => isAscii mark &&
      !isLetter mark && mark != ':' && !isDigit mark && mark != '[' && mark != ']') = true := by
    decide
  have hmarks := List.all_eq_true.mp hfacts mark hmark
  simp only [Bool.and_eq_true, Bool.not_eq_true', bne_iff_ne, ne_eq] at hmarks
  obtain ⟨⟨⟨⟨⟨hascii, hletter⟩, hcolon⟩, hdigit⟩, hopen⟩, hclose⟩ := hmarks
  intro hmem
  rcases mem_netlocWithoutUserinfo hstandard hmem hascii hletter with h | h | h | h | h
  · exact hnetloc h
  · exact hcolon h
  · rw [hdigit] at h
    cases h
  · exact hopen h
  · exact hclose h

theorem wellFormed_sanitizedParts {parts : SplitResult} (hparts : parts.WellFormed) :
    (sanitizedParts unicode parts).WellFormed where
  scheme_head := hparts.scheme_head
  scheme_chars := hparts.scheme_chars
  scheme_lower := hparts.scheme_lower
  netloc_ends := by
    intro character hmem
    by_contra hends
    rw [Bool.not_eq_false] at hends
    have hnone : character ∉ parts.netloc := fun h => by
      rw [hparts.netloc_ends character h] at hends
      cases hends
    rw [endsNetloc, List.contains_iff_mem] at hends
    exact notMem_netlocWithoutUserinfo hstandard
      (List.mem_append_left ['\t', '\r', '\n'] hends) hnone hmem
  path_rooted hne := by
    apply hparts.path_rooted
    intro hempty
    exact hne (netlocWithoutUserinfo_nil hempty)
  path_ends := hparts.path_ends
  query_ends hmem := (redactedQuery_kept unicode hmem).1 rfl
  kept := by
    intro character hmem
    have hkept := hparts.kept
    simp only [List.mem_append] at hkept hmem
    rcases hmem with ((hmem | hmem) | hmem) | hmem
    · by_contra hremoved
      rw [Bool.not_eq_false] at hremoved
      have hnone : character ∉ parts.netloc := fun h => by
        rw [hkept character (.inl (.inl (.inl h)))] at hremoved
        cases hremoved
      rw [isRemoved, List.contains_iff_mem] at hremoved
      exact notMem_netlocWithoutUserinfo hstandard
        (List.mem_append_right ['/', '?', '#'] hremoved) hnone hmem
    · exact hkept character (.inl (.inl (.inr hmem)))
    · exact (redactedQuery_kept unicode hmem).2
    · exact hkept character (.inr hmem)

/-- A sanitized URI is split into the parts that were written, unless its authority is refused. -/
theorem urlsplit_sanitizeUri {uri : String} {parts : SplitResult}
    (hsplit : urlsplit unicode uri.toList = .ok parts) (hscheme : parts.scheme ≠ []) :
    urlsplit unicode (sanitizeUri unicode uri).toList =
      (netlocError unicode (netlocWithoutUserinfo unicode parts)).elim
        (.ok (sanitizedParts unicode parts)) .error := by
  obtain ⟨hraw, -⟩ := rawParts_of_urlsplit unicode hsplit
  have hwell : parts.WellFormed := by
    rw [← hraw]
    exact wellFormed_rawParts (by rw [hraw]; exact hscheme)
  rw [sanitizeUri_eq unicode hsplit hscheme, String.toList_ofList, urlsplit_eq,
    rawParts_urlunsplit (wellFormed_sanitizedParts hstandard hwell)]
  rfl

/-- Sanitizing a sanitized URI changes nothing. -/
theorem sanitizeUri_sanitizeUri (uri : String) :
    sanitizeUri unicode (sanitizeUri unicode uri) = sanitizeUri unicode uri := by
  cases hsplit : urlsplit unicode uri.toList with
  | error error =>
      have hsame : sanitizeUri unicode uri = uri := by rw [sanitizeUri, hsplit]
      rw [hsame, hsame]
  | ok parts =>
      by_cases hscheme : parts.scheme = []
      · have hsame : sanitizeUri unicode uri = uri := by
          rw [sanitizeUri, hsplit]
          exact if_pos hscheme
        rw [hsame, hsame]
      · have hagain := urlsplit_sanitizeUri hstandard hsplit hscheme
        cases herror : netlocError unicode (netlocWithoutUserinfo unicode parts) with
        | some error =>
            rw [herror] at hagain
            conv_lhs => rw [sanitizeUri, hagain]
            rfl
        | none =>
            rw [herror] at hagain
            have hnetloc : netlocWithoutUserinfo unicode (sanitizedParts unicode parts) =
                (sanitizedParts unicode parts).netloc :=
              netlocWithoutUserinfo_fixpoint hstandard rfl herror
            have hfixed : sanitizedParts unicode (sanitizedParts unicode parts) =
                sanitizedParts unicode parts := by
              rw [sanitizedParts, hnetloc]
              exact congrArg (SplitResult.mk _ _ _ · _) (redactedQuery_redactedQuery unicode _)
            rw [sanitizeUri_eq unicode hagain hscheme, hfixed, sanitizeUri_eq unicode hsplit hscheme]

end Uris

/-! ## Sanitized URIs that are accepted -/

/-- The scheme is one that locators know. -/
def isKnownScheme (scheme : Text) : Bool :=
  isOneOf ("file" :: "http" :: "https" :: objectStorageSchemes) scheme

/-- A Windows drive with two slashes and nothing behind them, as in `C://`. -/
def isBareDrive (parts : SplitResult) : Bool :=
  !isKnownScheme parts.scheme && parts.netloc.isEmpty && parts.path.isEmpty

/-- A host in brackets that has a bracket, and no colon for which it keeps its own. -/
def hidesBracket (parts : SplitResult) : Bool :=
  parts.hostInfo.1.contains '[' && !parts.hostInfo.1.contains ':'

/-- The URI has no scheme, or it is neither of the two kinds. -/
def KeepsForm (uri : String) : Prop :=
  ∀ parts, urlsplit unicode uri.toList = .ok parts → parts.scheme ≠ [] →
    isBareDrive parts = false ∧ hidesBracket parts = false

theorem validateUri_eq_ok_iff (path uri : String) :
    validateUri unicode path uri = .ok uri ↔
      uri ≠ "" ∧ ∃ parts, urlsplit unicode uri.toList = .ok parts ∧
        parts.username = none ∧ parts.password = none ∧
          (parts.scheme = [] ∨ isKnownScheme parts.scheme = true ∨
            isWindowsAbsolute uri.toList = true) := by
  rw [validateUri]
  split
  · next hempty =>
      constructor
      · exact fun h => nomatch h
      · exact fun h => absurd hempty h.1
  · next hne =>
      split
      · next error hsplit =>
          constructor
          · exact fun h => nomatch h
          · rintro ⟨-, parts, h, -⟩
            cases hsplit.symm.trans h
      · next parts hsplit =>
          have hknown : isOneOf ("file" :: "http" :: "https" :: objectStorageSchemes) parts.scheme =
            isKnownScheme parts.scheme := rfl
          simp only [hknown, Option.isSome_iff_ne_none]
          constructor
          · intro h
            split at h
            · cases h
            · next huser =>
                split at h
                · cases h
                · next hscheme =>
                    rw [not_or, not_not, not_not] at huser
                    refine ⟨hne, parts, hsplit, huser.1, huser.2, ?_⟩
                    by_contra hnone
                    simp only [not_or, Bool.not_eq_true] at hnone
                    simp [hnone] at hscheme
          · rintro ⟨-, other, hother, huser, hpassword, hscheme⟩
            obtain rfl := Except.ok.inj (hsplit.symm.trans hother)
            rw [if_neg (by simp [huser, hpassword]), if_neg]
            rintro ⟨hnonempty, hunknown, hrelative⟩
            rcases hscheme with h | h | h
            · exact hnonempty h
            · simp [h] at hunknown
            · simp [h] at hrelative

theorem username_eq_none_iff (parts : SplitResult) : parts.username = none ↔ '@' ∉ parts.netloc := by
  rw [SplitResult.username, rpartition]
  rcases partition_cases '@' parts.netloc.reverse with ⟨hnone, hparts⟩ | ⟨front, rest, -, htext, hparts⟩
  · rw [hparts]
    simpa using hnone
  · have hmem : '@' ∈ parts.netloc := by
      rw [← List.mem_reverse, htext]
      exact List.mem_append_right _ List.mem_cons_self
    rw [hparts]
    simpa using hmem

theorem password_of_username {parts : SplitResult} (huser : parts.username = none) :
    parts.password = none := by
  rw [SplitResult.username] at huser
  rw [SplitResult.password]
  split at huser
  · cases huser
  · next hfound => simp [hfound]

theorem netlocError_eq_none_iff (netloc : Text) :
    netlocError unicode netloc = none ↔
      ('[' ∈ netloc ↔ ']' ∈ netloc) ∧ ('[' ∈ netloc → isBracketedNetloc netloc = true) ∧
        isNormalizedNetloc unicode netloc = true := by
  have hsame : (netloc.contains '[' ≠ netloc.contains ']') ↔ ¬('[' ∈ netloc ↔ ']' ∈ netloc) := by
    rw [ne_eq, Bool.eq_iff_iff, List.contains_iff_mem, List.contains_iff_mem]
  rw [netlocError]
  split
  · next hdiffer =>
      exact ⟨fun h => absurd h (Option.some_ne_none _), fun h => absurd h.1 (hsame.mp hdiffer)⟩
  · next hbalance =>
      rw [hsame, not_not] at hbalance
      split
      · next hrefused =>
          rw [Bool.and_eq_true, List.contains_iff_mem, Bool.not_eq_true'] at hrefused
          refine ⟨fun h => absurd h (Option.some_ne_none _), fun h => ?_⟩
          rw [h.2.1 hrefused.1] at hrefused
          cases hrefused.2
      · next hbracketed =>
          rw [Bool.and_eq_true, List.contains_iff_mem, Bool.not_eq_true', not_and,
            Bool.not_eq_false] at hbracketed
          split
          · next hmarked =>
              rw [Bool.not_eq_true'] at hmarked
              refine ⟨fun h => absurd h (Option.some_ne_none _), fun h => ?_⟩
              rw [h.2.2] at hmarked
              cases hmarked
          · next hnormal =>
              rw [Bool.not_eq_true', Bool.not_eq_false] at hnormal
              exact ⟨fun _ => ⟨hbalance, hbracketed, hnormal⟩, fun _ => rfl⟩

/-- The host that stands in the brackets of an accepted authority. -/
theorem isBracketedHost_of_netloc {parts : SplitResult} (huser : '@' ∉ parts.netloc)
    (hopen : '[' ∈ parts.netloc) (hnetloc : isBracketedNetloc parts.netloc = true) :
    isBracketedHost parts.hostInfo.1 = true := by
  rcases hostInfo_cases parts with ⟨hnone, -⟩ | ⟨front, inside, hfront, htext, hraw⟩
  · rw [hostPart_of_notMem huser] at hnone
    exact absurd hopen hnone
  · rw [isBracketedNetloc] at hnetloc
    change (let hostPort := hostPart parts.netloc
      let bracket := partition '[' hostPort
      if bracket.2.1 then
        let host := partition ']' bracket.2.2
        bracket.1.isEmpty && (host.2.2.isEmpty || host.2.2.head? == some ':') &&
          isBracketedHost host.1
      else isBracketedHost (partition ':' hostPort).1) = true at hnetloc
    simp only [htext, partition_append_cons hfront, if_true, Bool.and_eq_true] at hnetloc
    rw [hraw]
    exact hnetloc.2

/-- An authority of a host in brackets and a port is accepted. -/
theorem isBracketedNetloc_netlocText {host : Text} (port : Option Nat) (huser : '@' ∉ host)
    (hclose : ']' ∉ host) (hcolon : ':' ∈ host) (hhost : isBracketedHost host = true) :
    isBracketedNetloc (netlocText host port) = true := by
  have hnone : '@' ∉ netlocText host port := by
    intro hmem
    rcases mem_netlocText hmem with h | h | h | ⟨-, h | h⟩
    · exact huser h
    · exact absurd h (by decide)
    · exact absurd h (by decide)
    · exact absurd h (by decide)
    · exact absurd h (by decide)
  have htext : netlocText host port = '[' :: (host ++ ']' :: portText port) := by
    rw [netlocText, if_pos (List.contains_iff_mem.mpr hcolon)]
    simp
  have hparts : partition '[' (netlocText host port) = ([], true, host ++ ']' :: portText port) := by
    rw [htext, partition, if_pos rfl]
  have hport : ((portText port).isEmpty || (portText port).head? == some ':') = true := by
    rw [portText, marked]
    split <;> rfl
  rw [isBracketedNetloc, rpartition_of_notMem hnone]
  simp only [hparts, if_true, partition_append_cons hclose, hport, hhost, List.isEmpty_nil,
    Bool.and_self]

section Accepted

variable {unicode} (hstandard : unicode.Standard)
include hstandard

/-- Writing an authority again brings forth no character that makes a mark. -/
theorem isNormalizedNetloc_netlocText {parts : SplitResult} (port : Option Nat)
    (huser : '@' ∉ parts.netloc)
    (hends : ∀ character ∈ parts.netloc, endsNetloc character = false)
    (hwritten : ∀ character ∈ netlocText (lowerHost unicode.lower parts.hostInfo.1) port,
      endsNetloc character = false)
    (hnormal : isNormalizedNetloc unicode parts.netloc = true) :
    isNormalizedNetloc unicode (netlocText (lowerHost unicode.lower parts.hostInfo.1) port) =
      true := by
  obtain ⟨makesMark, hnfkc, hlower⟩ := hstandard.nfkc_marks
  rw [isNormalizedNetloc_iff hnfkc hends] at hnormal
  rw [isNormalizedNetloc_iff hnfkc hwritten]
  intro character hmem hleft
  by_contra hmark
  rw [Bool.not_eq_false] at hmark
  have hascii : isAscii character = true → isNetlocMark character = true := fun h =>
    (makesMark_of_isAscii hnfkc h).symm.trans hmark
  have hsubset : parts.hostInfo.1 ⊆ parts.netloc := by
    have h := hostInfo_subset parts
    rwa [hostPart_of_notMem huser] at h
  have hzone : character ∈ parts.hostInfo.1 → False := fun h => by
    rw [hnormal character (hsubset h) hleft] at hmark
    cases hmark
  rcases mem_netlocText hmem with h | rfl | h | ⟨-, rfl | rfl⟩
  · rw [lowerHost, List.mem_append] at h
    rcases h with h | h
    · exact hzone (partition_fst_subset '%' _ (hlower _ character hmark h))
    · split at h
      · rcases List.mem_cons.mp h with rfl | h
        · exact absurd (hascii (by decide)) (by decide)
        · exact hzone (partition_snd_subset '%' _ h)
      · cases h
  · exact absurd hleft (by decide)
  · have hdigit : isAddressChar character = true := by
      rw [isAddressChar, isHexDigit, h]
      rfl
    have hnetlocMark := hascii (isAscii_of_isAddressChar hdigit)
    rw [isNetlocMark, List.contains_iff_mem] at hnetlocMark
    simp only [List.mem_cons, List.not_mem_nil, or_false] at hnetlocMark
    rcases hnetlocMark with rfl | rfl | rfl | rfl | rfl <;> exact absurd h (by decide)
  · exact absurd (hascii (by decide)) (by decide)
  · exact absurd (hascii (by decide)) (by decide)

/-- The authority of an accepted URI is accepted as it is written again, unless its host hides a
bracket. -/
theorem netlocError_sanitized_iff {parts : SplitResult} (hwell : parts.WellFormed)
    (huser : '@' ∉ parts.netloc) (hsound : netlocError unicode parts.netloc = none) :
    netlocError unicode (netlocWithoutUserinfo unicode parts) = none ↔ hidesBracket parts = false := by
  have hends := (wellFormed_sanitizedParts hstandard hwell).netloc_ends
  change ∀ character ∈ netlocWithoutUserinfo unicode parts, endsNetloc character = false at hends
  by_cases hempty : parts.hostInfo.1 = []
  · rw [netlocWithoutUserinfo_eq, if_pos hempty, hostPart_of_notMem huser]
    simp [hsound, hidesBracket, hempty]
  · rw [netlocWithoutUserinfo_eq, if_neg hempty] at hends ⊢
    have hmark : ∀ mark, isAscii mark = true → isLetter mark = false →
        (mark ∈ lowerHost unicode.lower parts.hostInfo.1 ↔ mark ∈ parts.hostInfo.1) :=
      fun mark hascii hletter => mem_lowerHost (hstandard.lower_mark mark hascii hletter) _
    have hraw := hostInfo_subset parts
    rw [hostPart_of_notMem huser] at hraw
    obtain ⟨hbalance, hbracketed, hnormal⟩ := (netlocError_eq_none_iff unicode _).mp hsound
    have hclose : ']' ∉ parts.hostInfo.1 := fun hmem => by
      have hnone := notMem_hostInfo parts hmem
      rw [hostPart_of_notMem huser] at hnone
      exact hnone (hbalance.mpr (hraw hmem))
    have hlowerClose := mt (hmark ']' (by decide) (by decide)).mp hclose
    have hnormal' := isNormalizedNetloc_netlocText hstandard (validPort parts) huser hwell.netloc_ends
      hends hnormal
    rw [netlocError_eq_none_iff, hidesBracket, Bool.and_eq_false_iff, Bool.not_eq_false',
      List.contains_iff_mem, ← Bool.not_eq_true, List.contains_iff_mem]
    by_cases hcolon : ':' ∈ parts.hostInfo.1
    · have hlowerColon := (hmark ':' (by decide) (by decide)).mpr hcolon
      have hopen : '[' ∈ parts.netloc := by
        rcases hostInfo_cases parts with ⟨-, hinfo⟩ | ⟨front, inside, -, htext, -⟩
        · rw [hinfo] at hcolon
          exact absurd hcolon (notMem_partition_fst ':' _)
        · rw [hostPart_of_notMem huser] at htext
          rw [htext]
          exact List.mem_append_right _ List.mem_cons_self
      have htext : netlocText (lowerHost unicode.lower parts.hostInfo.1) (validPort parts) =
          '[' :: (lowerHost unicode.lower parts.hostInfo.1 ++ ']' :: portText (validPort parts)) := by
        rw [netlocText, if_pos (List.contains_iff_mem.mpr hlowerColon)]
        simp
      have hnetloc := isBracketedNetloc_netlocText (validPort parts)
        (mt (fun h => hraw ((hmark '@' (by decide) (by decide)).mp h)) huser) hlowerClose hlowerColon
        (hstandard.isBracketedHost_lowerHost
          (isBracketedHost_of_netloc huser hopen (hbracketed hopen)))
      refine ⟨fun _ => .inr hcolon, fun _ => ⟨?_, fun _ => hnetloc, hnormal'⟩⟩
      rw [htext]
      simp
    · have hlowerColon := mt (hmark ':' (by decide) (by decide)).mp hcolon
      have hbracket : ∀ mark, mark = '[' ∨ mark = ']' →
          (mark ∈ netlocText (lowerHost unicode.lower parts.hostInfo.1) (validPort parts) ↔
            mark ∈ parts.hostInfo.1) := by
        intro mark hmarks
        have hfacts : mark ≠ ':' ∧ isDigit mark = false ∧ isAscii mark = true ∧
            isLetter mark = false := by
          rcases hmarks with rfl | rfl <;> decide
        rw [← hmark mark hfacts.2.2.1 hfacts.2.2.2]
        constructor
        · intro hmem
          rcases mem_netlocText hmem with h | h | h | h
          · exact h
          · exact absurd h hfacts.1
          · rw [hfacts.2.1] at h
            cases h
          · exact absurd h.1 hlowerColon
        · intro hmem
          rw [netlocText, if_neg fun h => hlowerColon (List.contains_iff_mem.mp h)]
          exact List.mem_append_left _ hmem
      rw [hbracket '[' (.inl rfl), hbracket ']' (.inr rfl)]
      constructor
      · rintro ⟨hsame, -, -⟩
        exact .inl fun hopen => hclose (hsame.mp hopen)
      · rintro (hopen | hcolon')
        · exact ⟨⟨fun h => absurd h hopen, fun h => absurd h hclose⟩, fun h => absurd h hopen, hnormal'⟩
        · exact absurd hcolon' hcolon

/-- No authority becomes empty that was not empty. -/
theorem netlocWithoutUserinfo_eq_nil_iff {parts : SplitResult} (huser : '@' ∉ parts.netloc) :
    netlocWithoutUserinfo unicode parts = [] ↔ parts.netloc = [] := by
  constructor
  · intro h
    rw [netlocWithoutUserinfo_eq] at h
    split at h
    · rwa [hostPart_of_notMem huser] at h
    · next hne =>
        rw [netlocText, List.append_eq_nil_iff] at h
        have hhost := h.1
        split at hhost
        · cases hhost
        · exact absurd ((hstandard.lowerHost_eq_nil _).mp hhost) hne
  · exact netlocWithoutUserinfo_nil

end Accepted

/-! ## Windows paths -/

theorem isWindowsAbsolute_iff (drive : Char) (body : Text) :
    isWindowsAbsolute (drive :: ':' :: body) = true ↔
      body.head? = some '\\' ∨ body.head? = some '/' := by
  cases body with
  | nil => simp [isWindowsAbsolute]
  | cons first body => simp [isWindowsAbsolute]

theorem le_of_isRemoved {character : Char} (hremoved : isRemoved character = true) :
    character.val ≤ 32 := by
  rw [isRemoved, List.contains_iff_mem] at hremoved
  simp only [List.mem_cons, List.not_mem_nil, or_false] at hremoved
  rcases hremoved with rfl | rfl | rfl <;> decide

/-- The path of a URL without an authority begins where the URL behind its scheme does, or behind
two slashes. -/
theorem head_path_of_rooted {separator : Char} (hseparator : separator = '\\' ∨ separator = '/')
    {rest : Text} {scheme : Text} (hnetloc : (splitAuthority (separator :: rest)).1 = []) :
    let parts := splitTail scheme (splitAuthority (separator :: rest)).1
      (splitAuthority (separator :: rest)).2
    parts.path = [] ∨ parts.path.head? = some '\\' ∨ parts.path.head? = some '/' := by
  intro parts
  have hmark : '?' ∉ parts.path := notMem_partition_fst _ _
  have hhash : '#' ∉ parts.path := fun hmem =>
    notMem_partition_fst _ _ (partition_fst_subset _ _ hmem)
  have hhead : parts.path = [] ∨ parts.path.head? = (splitAuthority (separator :: rest)).2.head? := by
    rcases partition_head '?' (partition '#' (splitAuthority (separator :: rest)).2).1 with h | h
    · exact .inl h
    · rcases partition_head '#' (splitAuthority (separator :: rest)).2 with h' | h'
      · refine .inl (List.head?_eq_none_iff.mp ?_)
        show (partition '?' (partition '#' (splitAuthority (separator :: rest)).2).1).1.head? = none
        rw [h, h']
        rfl
      · exact .inr (h.trans h')
  have htail : ∀ first ∈ (splitAuthority (separator :: rest)).2.head?,
      first = '\\' ∨ endsNetloc first = true := by
    intro first hfirst
    unfold splitAuthority at hfirst hnetloc
    split at hfirst
    · next behind hshape =>
        rw [hshape] at hnetloc
        simp only at hfirst hnetloc
        rw [hnetloc, List.length_nil, List.drop_zero] at hfirst
        cases behind with
        | nil => cases hfirst
        | cons second behind =>
            cases hfirst
            rw [List.takeWhile_cons] at hnetloc
            split at hnetloc
            · cases hnetloc
            · next hends => exact .inr (by simpa using hends)
    · cases hfirst
      rcases hseparator with rfl | rfl
      · exact .inl rfl
      · exact .inr (by decide)
  rcases hhead with hempty | hhead
  · exact .inl hempty
  · cases hpath : parts.path with
    | nil => exact .inl rfl
    | cons first path =>
        rw [hpath] at hhead hmark hhash
        rcases htail first hhead.symm with rfl | hends
        · exact .inr (.inl rfl)
        · rw [endsNetloc, List.contains_iff_mem] at hends
          simp only [List.mem_cons, List.not_mem_nil, or_false] at hends
          rcases hends with rfl | rfl | rfl
          · exact .inr (.inr rfl)
          · exact absurd List.mem_cons_self hmark
          · exact absurd List.mem_cons_self hhash

/-- A Windows path is split into its drive, as the scheme, and what follows. -/
theorem rawParts_of_windows {url : Text} (hwindows : isWindowsAbsolute url = true)
    (hscheme : (rawParts url).scheme ≠ []) :
    ∃ drive, (rawParts url).scheme = [drive] ∧
      ((rawParts url).netloc = [] → (rawParts url).path = [] ∨
        (rawParts url).path.head? = some '\\' ∨ (rawParts url).path.head? = some '/') := by
  unfold isWindowsAbsolute at hwindows
  split at hwindows
  · next drive separator rest =>
      have hseparator : separator = '\\' ∨ separator = '/' := by simpa using hwindows
      have hkept : isRemoved separator = false := by rcases hseparator with rfl | rfl <;> decide
      obtain ⟨scheme, behind, hcolon, htext, hhead, -, hsplit⟩ := splitScheme_spec hscheme
      by_cases hcontrol : drive.val ≤ 32
      · rw [List.dropWhile_cons, decide_eq_true hcontrol, if_pos rfl, List.dropWhile_cons,
          if_neg (by decide), List.filter_cons, if_pos (by decide)] at htext
        cases scheme with
        | nil => cases hhead
        | cons first scheme => exact absurd ((List.cons.inj htext).1 ▸ List.mem_cons_self) hcolon
      · have hdrive : isRemoved drive = false := by
          by_contra hremoved
          rw [Bool.not_eq_false] at hremoved
          exact hcontrol (le_of_isRemoved hremoved)
        rw [List.dropWhile_cons, if_neg (by simpa using hcontrol), List.filter_cons,
          if_pos (by rw [hdrive]; rfl), List.filter_cons, if_pos (by decide), List.filter_cons,
          if_pos (by rw [hkept]; rfl)] at htext
        cases scheme with
        | nil => cases hhead
        | cons first scheme =>
            obtain ⟨rfl, hrest⟩ := List.cons.inj htext
            cases scheme with
            | cons second scheme =>
                have hsecond : ':' = second := (List.cons.inj hrest).1
                exact absurd (List.mem_cons_of_mem _ (hsecond ▸ List.mem_cons_self)) hcolon
            | nil =>
                have hbehind : separator :: rest.filter (!isRemoved ·) = behind :=
                  (List.cons.inj hrest).2
                refine ⟨drive.toLower, ?_, ?_⟩
                · rw [rawParts, hsplit]
                  rfl
                · rw [rawParts, hsplit, ← hbehind]
                  exact head_path_of_rooted hseparator
  · cases hwindows

/-- A URL with a one-letter scheme that is put together is a Windows path unless nothing but a
query and a fragment follows. -/
theorem isWindowsAbsolute_urlunsplit {parts : SplitResult} {drive : Char}
    (hscheme : parts.scheme = [drive]) :
    isWindowsAbsolute (urlunsplit parts) = true ↔
      parts.netloc ≠ [] ∨ parts.path.head? = some '\\' ∨ parts.path.head? = some '/' := by
  have hnetloc : isOneOf usesNetloc [drive] = false := by simp [isOneOf, usesNetloc]
  rw [urlunsplit_eq (by rw [hscheme]; exact List.cons_ne_nil _ _), hscheme, List.singleton_append,
    isWindowsAbsolute_iff, authorityText, hscheme, hnetloc]
  simp only [Bool.false_eq_true, false_and, and_false, if_false]
  split
  · next hne => exact ⟨fun _ => .inl hne, fun _ => .inr rfl⟩
  · next hempty =>
      rw [not_not] at hempty
      split
      · next htwo =>
          refine ⟨fun _ => .inr (.inr ?_), fun _ => .inr rfl⟩
          have hhead : (parts.path.take 2).head? = parts.path.head? := by
            rw [List.head?_take, if_neg (by decide)]
          rw [← hhead, htwo]
          rfl
      · cases parts.path with
        | nil =>
            cases parts.query with
            | nil => cases parts.fragment <;> simp [marked, hempty]
            | cons first query => simp [marked, hempty]
        | cons first path => simp [hempty]

theorem validateUri_isOk_iff (path uri : String) :
    (validateUri unicode path uri).isOk = true ↔ validateUri unicode path uri = .ok uri := by
  constructor
  · intro h
    rw [validateUri] at h ⊢
    split
    · next hempty =>
        rw [if_pos hempty] at h
        cases h
    · next hne =>
        rw [if_neg hne] at h
        split at h
        · cases h
        · split at h
          · cases h
          · next huser =>
              split at h
              · cases h
              · next hscheme =>
                  rw [if_neg huser, if_neg hscheme]
  · intro h
    rw [h]
    rfl

section Accepted

variable {unicode} (hstandard : unicode.Standard)
include hstandard

theorem notMem_user_sanitized (parts : SplitResult) :
    '@' ∉ netlocWithoutUserinfo unicode parts := by
  have hnone : '@' ∉ hostPart parts.netloc := notMem_rpartition '@' parts.netloc
  rw [netlocWithoutUserinfo_eq]
  split
  · exact hnone
  · intro hmem
    rcases mem_netlocText hmem with h | h | h | ⟨-, h | h⟩
    · rw [mem_lowerHost (hstandard.lower_mark '@' (by decide) (by decide))] at h
      exact hnone (hostInfo_subset parts h)
    · exact absurd h (by decide)
    · exact absurd h (by decide)
    · exact absurd h (by decide)
    · exact absurd h (by decide)

/-- The sanitized form of a URI that locators accept is accepted if and only if the URI is no bare
drive and hides no bracket. -/
theorem validateUri_sanitizeUri_iff {path uri : String}
    (hvalid : validateUri unicode path uri = .ok uri) :
    (validateUri unicode path (sanitizeUri unicode uri)).isOk = true ↔ KeepsForm unicode uri := by
  obtain ⟨-, parts, hsplit, huser, -, haccepted⟩ := (validateUri_eq_ok_iff unicode path uri).mp hvalid
  by_cases hscheme : parts.scheme = []
  · have hsame : sanitizeUri unicode uri = uri := by
      rw [sanitizeUri, hsplit]
      exact if_pos hscheme
    refine ⟨fun _ other hother hne => ?_, fun _ => by rw [hsame, hvalid]; rfl⟩
    obtain rfl := Except.ok.inj (hsplit.symm.trans hother)
    exact absurd hscheme hne
  · have hform : KeepsForm unicode uri ↔
        isBareDrive parts = false ∧ hidesBracket parts = false := by
      refine ⟨fun h => h parts hsplit hscheme, fun h other hother _ => ?_⟩
      obtain rfl := Except.ok.inj (hsplit.symm.trans hother)
      exact h
    obtain ⟨hraw, hsound⟩ := rawParts_of_urlsplit unicode hsplit
    have hwell : parts.WellFormed := by
      rw [← hraw]
      exact wellFormed_rawParts (by rw [hraw]; exact hscheme)
    have hnone := (username_eq_none_iff parts).mp huser
    have herror := netlocError_sanitized_iff hstandard hwell hnone hsound
    have hagain := urlsplit_sanitizeUri hstandard hsplit hscheme
    have htext : (sanitizeUri unicode uri).toList = urlunsplit (sanitizedParts unicode parts) := by
      rw [sanitizeUri_eq unicode hsplit hscheme, String.toList_ofList]
    have hempty := netlocWithoutUserinfo_eq_nil_iff hstandard hnone
    have hwritten : ∀ drive, parts.scheme = [drive] →
        (isWindowsAbsolute (urlunsplit (sanitizedParts unicode parts)) = true ↔
          netlocWithoutUserinfo unicode parts ≠ [] ∨ parts.path.head? = some '\\' ∨
            parts.path.head? = some '/') :=
      fun drive hdrive => isWindowsAbsolute_urlunsplit hdrive
    have hscheme' : (sanitizedParts unicode parts).scheme ≠ [] := hscheme
    rw [validateUri_isOk_iff, validateUri_eq_ok_iff, hform]
    constructor
    · rintro ⟨-, other, hother, -, -, hkept⟩
      rw [hagain] at hother
      cases hrefused : netlocError unicode (netlocWithoutUserinfo unicode parts) with
      | some error =>
          rw [hrefused] at hother
          cases hother
      | none =>
          rw [hrefused] at hother
          obtain rfl := Except.ok.inj hother
          refine ⟨?_, herror.mp hrefused⟩
          by_contra hbare
          rw [Bool.not_eq_false, isBareDrive, Bool.and_eq_true, Bool.and_eq_true, Bool.not_eq_true',
            List.isEmpty_iff, List.isEmpty_iff] at hbare
          obtain ⟨⟨hunknown, hnetloc⟩, hpath⟩ := hbare
          rcases hkept with h | h | h
          · exact hscheme h
          · exact absurd (hunknown.symm.trans h) Bool.false_ne_true
          · have hwindows := haccepted.resolve_left hscheme
            rw [hunknown] at hwindows
            obtain ⟨drive, hdrive, -⟩ := rawParts_of_windows
              (hwindows.resolve_left Bool.false_ne_true) (by rw [hraw]; exact hscheme)
            rw [hraw] at hdrive
            rw [htext, hwritten drive hdrive] at h
            simp [hpath, hempty.mpr hnetloc] at h
    · rintro ⟨hbare, hhides⟩
      rw [herror.mpr hhides] at hagain
      have huser' : (sanitizedParts unicode parts).username = none :=
        (username_eq_none_iff _).mpr (notMem_user_sanitized hstandard parts)
      refine ⟨?_, sanitizedParts unicode parts, hagain, huser', password_of_username huser', ?_⟩
      · intro h
        have hnil : urlunsplit (sanitizedParts unicode parts) = [] := by rw [← htext, h]; rfl
        rw [urlunsplit_eq hscheme', List.append_eq_nil_iff] at hnil
        cases hnil.2
      · by_cases hknown : isKnownScheme parts.scheme = true
        · exact .inr (.inl hknown)
        · have hwindows := (haccepted.resolve_left hscheme).resolve_left hknown
          obtain ⟨drive, hdrive, hpath⟩ := rawParts_of_windows hwindows (by rw [hraw]; exact hscheme)
          rw [hraw] at hdrive hpath
          refine .inr (.inr ?_)
          rw [htext, hwritten drive hdrive]
          by_cases hnetloc : parts.netloc = []
          · refine .inr ((hpath hnetloc).resolve_left fun hnopath => ?_)
            simp [isBareDrive, hknown, hnetloc, hnopath] at hbare
          · exact .inl (mt hempty.mp hnetloc)

end Accepted

end DataSluice.Domain
