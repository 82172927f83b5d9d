/-
# HTTP targets

`validate_http_target` accepts a URL whose scheme is one of the two, that names a host and
carries no user information, and, where private targets are not allowed, whose host is neither
private by its name nor by what the name service says of it.

Which text is an address, and what kind of address, is the platform's knowledge. What the name
service answers changes from one call to the next.
-/

import DataSluice.Lib.Url

namespace DataSluice.Domain

open DataSluice.Lib.Url

/-! ## Blanks -/

/-- The characters that `str.isspace` holds of. -/
def blankCodes : List UInt32 :=
  [0x09, 0x0A, 0x0B, 0x0C, 0x0D, 0x1C, 0x1D, 0x1E, 0x1F, 0x20, 0x85, 0xA0, 0x1680, 0x2000, 0x2001,
    0x2002, 0x2003, 0x2004, 0x2005, 0x2006, 0x2007, 0x2008, 0x2009, 0x200A, 0x2028, 0x2029, 0x202F,
    0x205F, 0x3000]

/-- `str.isspace` of one character -/
def isBlank (character : Char) : Bool := blankCodes.contains character.val

/-- `str.rstrip` of these characters -/
def rstrip (stripped : Char → Bool) (text : Text) : Text := (text.reverse.dropWhile stripped).reverse

/-- `str.strip()` -/
def strip (text : Text) : Text := rstrip isBlank (text.dropWhile isBlank)

/-! ## Addresses -/

/-- An address, as far as `ipaddress` is asked about it. -/
structure IpAddress where
  isGlobal : Bool
  isMulticast : Bool
  deriving DecidableEq

/-- What the platform knows of the spelling of addresses. -/
structure AddressData where
  /-- `ipaddress.ip_address`, which raises for other text -/
  ipAddress : Text → Option IpAddress
  /-- `ipaddress.IPv4Address(socket.inet_aton(…))` -/
  inetAton : Text → Option IpAddress

/-- `socket.getaddrinfo` at one moment. No answer is a host that cannot be resolved; an address
that `ipaddress` does not read is none. -/
abbrev NameService : Type := Text → Option (List (Option IpAddress))

/-- `not address.is_global or address.is_multicast` -/
def IpAddress.isPrivate (address : IpAddress) : Bool := !address.isGlobal || address.isMulticast

def localNames : List String := ["localhost", "ip6-localhost", "ip6-loopback"]

def localSuffixes : List String :=
  [".localhost", ".local", ".lan", ".internal", ".intranet", ".corp", ".localdomain", ".home.arpa",
    ".onion"]

/-- `host.endswith(…)` -/
def endsWithOneOf (suffixes : List String) (host : Text) : Bool :=
  suffixes.any fun suffix => suffix.toList.isSuffixOf host

/-- `_resolves_to_private_address` -/
def resolvesToPrivateAddress (names : NameService) (host : Text) : Bool :=
  match names host with
  | none => false
  | some answers => answers.any fun answer => (answer.map IpAddress.isPrivate).getD true

section Targets

variable (unicode : UnicodeData) (addresses : AddressData)

/-- `_private_http_host` -/
def privateHttpHost (host : Text) : Bool :=
  let host := rstrip (· == '.') (unicode.lower host)
  match addresses.ipAddress host with
  | some address => address.isPrivate
  | none =>
      match addresses.inetAton host with
      | some address => address.isPrivate
      | none => isOneOf localNames host || !host.contains '.' || endsWithOneOf localSuffixes host

/-! ## Validation -/

def httpSchemes : List String := ["http", "https"]

/-- `_http_target_host` -/
def httpTargetHost (value : Text) : Except ValueError Text :=
  match urlsplit unicode value with
  | .error _ => .error ⟨"host"⟩
  | .ok parts =>
      match parts.port with
      | .error _ => .error ⟨"port"⟩
      | .ok port =>
          if !isOneOf httpSchemes (unicode.lower parts.scheme) then .error ⟨"scheme"⟩
          else if parts.netloc.contains '@' then .error ⟨"userinfo"⟩
          else if port = some 0 then .error ⟨"port"⟩
          else
            match parts.hostname unicode with
            | none => .error ⟨"host"⟩
            | some host =>
                if host = [] ∨ host.contains '\\' ∨ host.contains '%' then .error ⟨"host"⟩
                else .ok host

/-- A character that no target may have. -/
def isRefusedChar (character : Char) : Bool :=
  isBlank character || decide (character.val < 32) || character.val == 127

/-- `validate_http_target`. The name service is there when the target is to be resolved. -/
def validateHttpTarget (allowPrivate : Bool) (names : Option NameService) (value : Text) :
    Except ValueError Text :=
  if value = [] then .error ⟨"missing"⟩
  else if 2048 < value.length then .error ⟨"length"⟩
  else if value.any isRefusedChar then .error ⟨"format"⟩
  else
    match httpTargetHost unicode value with
    | .error error => .error error
    | .ok host =>
        if !allowPrivate && (privateHttpHost unicode addresses host ||
            names.any fun names => resolvesToPrivateAddress names host) then .error ⟨"locality"⟩
        else .ok value

/-! ## What is accepted -/

/-- The host of an HTTP URL without user information. -/
structure HasHttpHost (url host : Text) (parts : SplitResult) : Prop where
  split : urlsplit unicode url = .ok parts
  scheme : isOneOf httpSchemes (unicode.lower parts.scheme) = true
  plain : '@' ∉ parts.netloc
  hostname : parts.hostname unicode = some host

/-- The URL names a host outside, and the name service does not know better. -/
structure IsPublicTarget (names : Option NameService) (url : Text) : Prop where
  fits : url.length ≤ 2048
  clean : ∀ character ∈ url, isRefusedChar character = false
  host : ∃ host parts, HasHttpHost unicode url host parts ∧
    privateHttpHost unicode addresses host = false ∧
    ∀ service ∈ names, resolvesToPrivateAddress service host = false

variable {unicode addresses} {value : Text}

theorem hasHttpHost_of_httpTargetHost {host : Text} (h : httpTargetHost unicode value = .ok host) :
    ∃ parts, HasHttpHost unicode value host parts := by
  unfold httpTargetHost at h
  split at h
  · cases h
  · next parts hparts =>
      split at h
      · cases h
      · split_ifs at h with hscheme huser _
        split at h
        · cases h
        · next found hfound =>
            split_ifs at h
            cases h
            refine ⟨parts, hparts, ?_, ?_, hfound⟩
            · rwa [Bool.not_eq_true', Bool.not_eq_false] at hscheme
            · rwa [List.contains_iff_mem] at huser

/-- What is returned is the URL that was given. -/
theorem validateHttpTarget_eq {allowPrivate : Bool} {names : Option NameService} {returned : Text}
    (h : validateHttpTarget unicode addresses allowPrivate names value = .ok returned) :
    returned = value := by
  unfold validateHttpTarget at h
  split_ifs at h
  split at h
  · cases h
  · split_ifs at h
    exact (Except.ok.inj h).symm

/-- Where private targets are not allowed, an accepted target is a public one. -/
theorem isPublicTarget_of_validate {names : Option NameService} {returned : Text}
    (h : validateHttpTarget unicode addresses false names value = .ok returned) :
    IsPublicTarget unicode addresses names value := by
  unfold validateHttpTarget at h
  split_ifs at h with _ hlength hformat
  split at h
  · cases h
  · next host hhost =>
      split_ifs at h with hprivate
      obtain ⟨parts, hparts⟩ := hasHttpHost_of_httpTargetHost hhost
      rw [Bool.not_false, Bool.true_and, Bool.or_eq_true, not_or, Bool.not_eq_true] at hprivate
      refine ⟨Nat.not_lt.mp hlength, ?_, host, parts, hparts, hprivate.1, ?_⟩
      · intro character hcharacter
        rw [← Bool.not_eq_true]
        exact fun hrefused => hformat (List.any_eq_true.mpr ⟨character, hcharacter, hrefused⟩)
      · intro service hservice
        rw [← Bool.not_eq_true]
        intro hresolves
        refine hprivate.2 ?_
        rw [Option.mem_def.mp hservice]
        exact hresolves

end Targets

end DataSluice.Domain
