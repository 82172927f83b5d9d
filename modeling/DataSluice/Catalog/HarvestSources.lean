/-
# Harvest sources

A harvest source is fetched by the deployment, so `HarvestSourceInput` accepts a URL, and a URL
inside its configuration, only as a crawl target. `payload` and `_write_body` encode an input for
the write routes.

What a server may fetch is what `validate_http_target` accepts. A string of the configuration is
taken for a URL where it starts with a scheme and `://`.
-/

import DataSluice.Catalog.UdataTargets
import DataSluice.Contracts.ReportReload
import DataSluice.Domain.HttpTarget
import DataSluice.Domain.Metadata

namespace DataSluice.Catalog.Udata

open DataSluice.Lib DataSluice.Lib.Url DataSluice.Domain DataSluice.Runtime
open DataSluice.Contracts (texts textsOfItems textsOfEntries texts_thawJsonEntries bind_eq_ok_iff)

/-! ## Crawl targets -/

/-- `_ABSOLUTE_URL.match` -/
def isAbsoluteUrl : Text → Bool
  | [] => false
  | first :: rest => isLetter first && "://".toList.isPrefixOf (rest.dropWhile isSchemeChar)

/-- What the platform knows, and the redaction of error metadata. -/
structure HarvestPlatform where
  unicode : UnicodeData
  addresses : AddressData
  redaction : MetadataRedaction

/-- `_MAX_TEXT` -/
def maxHarvestText : Nat := 255

/-- `HARVEST_FREQUENCIES` -/
def harvestFrequencies : List String := ["manual", "monthly", "weekly", "daily"]

variable (platform : HarvestPlatform)

/-- `_endpoint_rejection` -/
def endpointRejection (code : String) : Raised where
  errorClass := .validation
  message := "The harvest source endpoint is not a permitted crawl target."
  operation := some harvestOperation
  platform := some "udata"
  capabilityState := some "forbidden"
  safeAction := some ("Point the harvest source at a public http(s) endpoint, or allow the private " ++
    "target explicitly on this input.")
  metadata := boundedMetadata platform.redaction [(.text "endpoint_classification", .str code)]

/-- `crawl_endpoint` -/
def crawlEndpoint (allowPrivate : Bool) (value : Text) : Except Raised Text :=
  match validateHttpTarget platform.unicode platform.addresses allowPrivate none value with
  | .error error => .error (endpointRejection platform error.message)
  | .ok value => .ok value

mutual

/-- `_validated_endpoint_tree` -/
def validatedEndpointTree (allowPrivate : Bool) : Value → Except Raised Unit
  | .str text =>
      if isAbsoluteUrl text.toList then (crawlEndpoint platform allowPrivate text.toList).map fun _ => ()
      else .ok ()
  | .dict entries | .proxy entries => validatedEndpointEntries allowPrivate entries
  | .list items | .tuple items => validatedEndpointItems allowPrivate items
  | .none | .bool _ | .int _ | .float _ | .other => .ok ()

/-- The loop over a sequence. -/
def validatedEndpointItems (allowPrivate : Bool) : List Value → Except Raised Unit
  | [] => .ok ()
  | nested :: items =>
      match validatedEndpointTree allowPrivate nested with
      | .error error => .error error
      | .ok () => validatedEndpointItems allowPrivate items

/-- The loop over the values of a mapping. -/
def validatedEndpointEntries (allowPrivate : Bool) : List (Key × Value) → Except Raised Unit
  | [] => .ok ()
  | (_, nested) :: entries =>
      match validatedEndpointTree allowPrivate nested with
      | .error error => .error error
      | .ok () => validatedEndpointEntries allowPrivate entries

end

/-! ## Inputs -/

/-- `not isinstance(value, str) or not value.strip()`, of a string -/
def isBlankText (value : String) : Bool := (strip value.toList).isEmpty

/-- `_validate_text` of a string -/
def validateText (value label : String) : Except Raised Unit :=
  if isBlankText value then
    .error (.valueError ("uData harvest " ++ label ++ " must be a non-empty string."))
  else if maxHarvestText < value.toList.length then
    .error (.valueError ("uData harvest " ++ label ++ " must be at most 255 characters."))
  else .ok ()

/-- `_validate_text` of a string or `None` -/
def validateOptionalText : Option String → String → Except Raised Unit
  | none, _ => .ok ()
  | some value, label => validateText value label

/-- `linked_identifier` -/
def linkedIdentifier (value label : String) : Except Raised String :=
  (pathSegment value.toList harvestOperation label).map fun _ => value

/-- `linked_identifier` of an identifier that is given. -/
def optionalIdentifier : Option String → String → Except Raised (Option String)
  | none, _ => .ok none
  | some value, label => (linkedIdentifier value label).map some

/-- `freeze_mapping` of a harvest configuration -/
def freezeConfig (config : List (Key × Value)) : Except Raised (List (Key × Value)) :=
  match freezeJsonObject "udata.harvest source config" config with
  | .error _ =>
      .error (.valueError "uData harvest source config must contain JSON-safe values only.")
  | .ok frozen => .ok frozen

/-- The configuration of an input. -/
def acceptConfig (allowPrivate : Bool) :
    Option (List (Key × Value)) → Except Raised (Option (List (Key × Value)))
  | none => .ok none
  | some config => do
      let frozen ← freezeConfig config
      validatedEndpointEntries platform allowPrivate frozen
      return some frozen

/-- The arguments of `HarvestSourceInput`. -/
structure HarvestSourceFields where
  name : String
  url : String
  backend : String
  description : Option String := none
  ownerId : Option String := none
  organizationId : Option String := none
  frequency : Option String := none
  active : Option Bool := none
  autoarchive : Option Bool := none
  config : Option (List (Key × Value)) := none
  allowPrivateEndpoint : Bool := false

namespace HarvestSourceFields

/-- The text of `sorted(HARVEST_FREQUENCIES)` -/
def frequencyMessage : String :=
  "uData harvest frequency must be one of ['daily', 'manual', 'monthly', 'weekly']."

/-- The check of a frequency. -/
def checkFrequency : Option String → Except Raised Unit
  | none => .ok ()
  | some frequency =>
      if frequency ∈ harvestFrequencies then .ok () else .error (.valueError frequencyMessage)

/-- `__post_init__`: the fields that the input keeps. -/
def accept (fields : HarvestSourceFields) : Except Raised HarvestSourceFields := do
  validateText fields.name "name"
  let url ← crawlEndpoint platform fields.allowPrivateEndpoint fields.url.toList
  validateText fields.backend "backend"
  validateOptionalText fields.description "description"
  let ownerId ← optionalIdentifier fields.ownerId "uData harvest owner"
  let organizationId ← optionalIdentifier fields.organizationId "uData harvest organization"
  checkFrequency fields.frequency
  let config ← acceptConfig platform fields.allowPrivateEndpoint fields.config
  return { fields with url := .ofList url, ownerId, organizationId, config }

end HarvestSourceFields

/-- `HarvestSourceInput`: fields that were accepted. -/
structure HarvestSourceInput (platform : HarvestPlatform) extends HarvestSourceFields where
  given : HarvestSourceFields
  accepted : given.accept platform = .ok toHarvestSourceFields

/-- An entry for a field that is given. -/
def optionalEntry {α : Type} (key : String) (encode : α → Value) : Option α → List (Key × Value)
  | none => []
  | some value => [(.text key, encode value)]

namespace HarvestSourceInput

variable {platform : HarvestPlatform} (input : HarvestSourceInput platform)

/-- `payload` -/
def payload : List (Key × Value) :=
  [(.text "name", .str input.name), (.text "url", .str input.url),
    (.text "backend", .str input.backend)] ++
    optionalEntry "description" .str input.description ++
    optionalEntry "owner" .str input.ownerId ++
    optionalEntry "organization" .str input.organizationId ++
    optionalEntry "frequency" .str input.frequency ++
    optionalEntry "active" .bool input.active ++
    optionalEntry "autoarchive" .bool input.autoarchive ++
    optionalEntry "config" (fun config => .dict (thawJsonEntries config)) input.config

/-- `_write_body` -/
def writeBody : Except Raised (List (Key × Value)) :=
  match crawlEndpoint platform input.allowPrivateEndpoint input.url.toList with
  | .error error => .error error
  | .ok _ => .ok input.payload

end HarvestSourceInput

/-! ## What is accepted -/

/-- An HTTP URL without user information, and where private targets are not allowed, of a host that
is not private. -/
structure IsCrawlTarget (platform : HarvestPlatform) (allowPrivate : Bool) (url : Text) : Prop where
  host : ∃ host parts, HasHttpHost platform.unicode url host parts ∧
    (allowPrivate = false → privateHttpHost platform.unicode platform.addresses host = false)

section Accepted

variable {platform : HarvestPlatform} {allowPrivate : Bool}

/-- A URL that `_crawl_endpoint` returns is the one it was given, and is a target that may be
crawled. -/
theorem isCrawlTarget_of_crawlEndpoint {url returned : Text}
    (h : crawlEndpoint platform allowPrivate url = .ok returned) :
    returned = url ∧ IsCrawlTarget platform allowPrivate url := by
  unfold crawlEndpoint at h
  split at h
  · cases h
  · next value hvalid =>
      cases h
      refine ⟨validateHttpTarget_eq hvalid, ?_⟩
      unfold validateHttpTarget at hvalid
      split_ifs at hvalid
      split at hvalid
      · cases hvalid
      · next host hhost =>
          obtain ⟨parts, hparts⟩ := hasHttpHost_of_httpTargetHost hhost
          refine ⟨host, parts, hparts, fun hpublic => ?_⟩
          split_ifs at hvalid with hprivate
          rw [hpublic, Bool.not_false, Bool.true_and, Bool.or_eq_true, not_or,
            Bool.not_eq_true] at hprivate
          exact hprivate.1

mutual

/-- Every string of an accepted tree that is a URL is a crawl target. -/
theorem targets_of_tree {value : Value}
    (h : validatedEndpointTree platform allowPrivate value = .ok ()) :
    ∀ text ∈ texts value, isAbsoluteUrl text.toList = true →
      IsCrawlTarget platform allowPrivate text.toList := by
  cases value with
  | none | bool _ | int _ | float _ | other => exact fun _ htext => nomatch htext
  | str text =>
      intro other hother hurl
      rw [List.mem_singleton.mp hother] at hurl ⊢
      rw [validatedEndpointTree, if_pos hurl] at h
      cases hcrawl : crawlEndpoint platform allowPrivate text.toList with
      | error error =>
          rw [hcrawl] at h
          cases h
      | ok returned => exact (isCrawlTarget_of_crawlEndpoint hcrawl).2
  | dict entries | proxy entries =>
      rw [validatedEndpointTree] at h
      exact targets_of_entries h
  | list items | tuple items =>
      rw [validatedEndpointTree] at h
      exact targets_of_items h

/-- What `_validated_endpoints` accepts of a list holds crawl targets only, at every depth. The
induction is on the value, with the one for mappings. -/
theorem targets_of_items {items : List Value}
    (h : validatedEndpointItems platform allowPrivate items = .ok ()) :
    ∀ text ∈ textsOfItems items, isAbsoluteUrl text.toList = true →
      IsCrawlTarget platform allowPrivate text.toList := by
  cases items with
  | nil => exact fun _ htext => nomatch htext
  | cons nested items =>
      rw [validatedEndpointItems] at h
      split at h
      · cases h
      · next hnested =>
          intro text htext
          cases List.mem_append.mp htext with
          | inl hhead => exact targets_of_tree hnested text hhead
          | inr htail => exact targets_of_items h text htail

/-- The same for the entries of a mapping, whose keys are not looked at. -/
theorem targets_of_entries {entries : List (Key × Value)}
    (h : validatedEndpointEntries platform allowPrivate entries = .ok ()) :
    ∀ text ∈ textsOfEntries entries, isAbsoluteUrl text.toList = true →
      IsCrawlTarget platform allowPrivate text.toList := by
  cases entries with
  | nil => exact fun _ htext => nomatch htext
  | cons entry entries =>
      rw [validatedEndpointEntries] at h
      split at h
      · cases h
      · next hnested =>
          intro text htext
          cases List.mem_append.mp htext with
          | inl hhead => exact targets_of_tree hnested text hhead
          | inr htail => exact targets_of_entries h text htail

end

/-- An optional identifier that is kept is one that is safe as one segment of a path. -/
theorem eq_of_optionalIdentifier {given kept : Option String} {label : String}
    (h : optionalIdentifier given label = .ok kept) :
    ∀ identifier ∈ kept, safeSegment identifier.toList = true := by
  cases given with
  | none =>
      cases h
      exact nofun
  | some value =>
      rw [optionalIdentifier, linkedIdentifier, pathSegment] at h
      by_cases hsafe : safeSegment value.toList = true
      · rw [if_pos hsafe] at h
        cases h
        rintro identifier ⟨⟩
        exact hsafe
      · rw [if_neg hsafe] at h
        cases h

theorem targets_of_acceptConfig {given kept : Option (List (Key × Value))}
    (h : acceptConfig platform allowPrivate given = .ok kept) :
    ∀ config ∈ kept, validatedEndpointEntries platform allowPrivate config = .ok () := by
  cases given with
  | none =>
      cases h
      exact nofun
  | some config =>
      obtain ⟨frozen, -, hrest⟩ := bind_eq_ok_iff.mp h
      obtain ⟨_, hvalid, hkept⟩ := bind_eq_ok_iff.mp hrest
      cases hkept
      rintro config ⟨⟩
      exact hvalid

/-- What the fields of an input were checked for. -/
structure HarvestSourceFields.Checked (platform : HarvestPlatform) (fields : HarvestSourceFields) :
    Prop where
  url : crawlEndpoint platform fields.allowPrivateEndpoint fields.url.toList =
    .ok fields.url.toList
  ownerId : ∀ identifier ∈ fields.ownerId, safeSegment identifier.toList = true
  organizationId : ∀ identifier ∈ fields.organizationId, safeSegment identifier.toList = true
  frequency : ∀ frequency ∈ fields.frequency, frequency ∈ harvestFrequencies
  config : ∀ config ∈ fields.config,
    validatedEndpointEntries platform fields.allowPrivateEndpoint config = .ok ()

/-- The constructor of a source runs every check of its fields, so what it accepts passes them all.
-/
theorem HarvestSourceFields.checked_of_accept {given fields : HarvestSourceFields}
    (h : given.accept platform = .ok fields) : fields.Checked platform := by
  unfold accept at h
  obtain ⟨_, -, h⟩ := bind_eq_ok_iff.mp h
  obtain ⟨url, hurl, h⟩ := bind_eq_ok_iff.mp h
  obtain ⟨_, -, h⟩ := bind_eq_ok_iff.mp h
  obtain ⟨_, -, h⟩ := bind_eq_ok_iff.mp h
  obtain ⟨ownerId, howner, h⟩ := bind_eq_ok_iff.mp h
  obtain ⟨organizationId, horganization, h⟩ := bind_eq_ok_iff.mp h
  obtain ⟨_, hfrequency, h⟩ := bind_eq_ok_iff.mp h
  obtain ⟨config, hconfig, h⟩ := bind_eq_ok_iff.mp h
  cases h
  have hsame : url = given.url.toList := (isCrawlTarget_of_crawlEndpoint hurl).1
  refine ⟨?_, eq_of_optionalIdentifier howner, eq_of_optionalIdentifier horganization, ?_,
    targets_of_acceptConfig hconfig⟩
  · rw [hsame] at hurl ⊢
    rw [String.ofList_toList]
    exact hurl
  · intro frequency hmem
    show frequency ∈ harvestFrequencies
    have hgiven : given.frequency = some frequency := hmem
    rw [hgiven, checkFrequency] at hfrequency
    split at hfrequency
    · assumption
    · cases hfrequency

end Accepted

/-! ## Strings that are no URLs -/

theorem mem_strip {text : Text} {character : Char} (h : character ∈ strip text) :
    character ∈ text := by
  unfold strip rstrip at h
  rw [List.mem_reverse] at h
  have hreverse := (List.dropWhile_sublist _).subset h
  exact (List.dropWhile_sublist _).subset (List.mem_reverse.mp hreverse)

/-- An absolute URL has the two slashes of its authority, so a text without a slash is none. -/
theorem slash_mem_of_isAbsoluteUrl {text : Text} (h : isAbsoluteUrl text = true) : '/' ∈ text := by
  cases text with
  | nil => cases h
  | cons first rest =>
      rw [isAbsoluteUrl, Bool.and_eq_true] at h
      obtain ⟨tail, htail⟩ := List.isPrefixOf_iff_prefix.mp h.2
      have hmem : '/' ∈ rest.dropWhile isSchemeChar := by
        rw [← htail]
        exact List.mem_append_left _ (by decide)
      exact List.mem_cons_of_mem _ ((List.dropWhile_sublist _).subset hmem)

/-- An identifier is no URL. -/
theorem not_isAbsoluteUrl_of_safeSegment {identifier : Text} (h : safeSegment identifier = true) :
    isAbsoluteUrl (strip identifier) = false := by
  rw [← Bool.not_eq_true]
  intro hurl
  have hmem := mem_strip (slash_mem_of_isAbsoluteUrl hurl)
  simp only [safeSegment, Bool.and_eq_true, Bool.not_eq_true'] at h
  have hallowed := List.any_eq_false.mp h.1.2 '/' hmem
  exact hallowed rfl

/-- The frequencies of a harvest are words, and none of them is read as a URL. -/
theorem not_isAbsoluteUrl_of_frequency {frequency : String} (h : frequency ∈ harvestFrequencies) :
    isAbsoluteUrl (strip frequency.toList) = false := by
  revert frequency
  decide

/-! ## Encoded inputs -/

theorem textsOfEntries_append (entries others : List (Key × Value)) :
    textsOfEntries (entries ++ others) = textsOfEntries entries ++ textsOfEntries others := by
  induction entries with
  | nil => rfl
  | cons entry entries ih =>
      rw [List.cons_append]
      show texts entry.2 ++ textsOfEntries (entries ++ others) = _
      rw [ih, ← List.append_assoc]
      rfl

/-- An entry that is written only when there is a value has the texts of that value. -/
theorem mem_textsOfEntries_optionalEntry {α : Type} {key : String} {encode : α → Value}
    {given : Option α} {text : String} (h : text ∈ textsOfEntries (optionalEntry key encode given)) :
    ∃ value ∈ given, text ∈ texts (encode value) := by
  cases given with
  | none => cases h
  | some value =>
      have hentry : text ∈ texts (encode value) ++ [] := h
      rw [List.append_nil] at hentry
      exact ⟨value, rfl, hentry⟩

theorem mem_textsOfEntries_text {key : String} {given : Option String} {text : String}
    (h : text ∈ textsOfEntries (optionalEntry key .str given)) : text ∈ given := by
  obtain ⟨value, hvalue, htext⟩ := mem_textsOfEntries_optionalEntry h
  rw [List.mem_singleton.mp htext]
  exact hvalue

theorem not_mem_textsOfEntries_flag {key : String} {given : Option Bool} {text : String} :
    text ∉ textsOfEntries (optionalEntry key .bool given) := by
  intro h
  obtain ⟨value, -, htext⟩ := mem_textsOfEntries_optionalEntry h
  cases htext

namespace HarvestSourceInput

variable {platform : HarvestPlatform} (input : HarvestSourceInput platform)

/-- The strings of a body. -/
theorem mem_texts_payload {text : String} (h : text ∈ textsOfEntries input.payload) :
    text = input.name ∨ text = input.url ∨ text = input.backend ∨ text ∈ input.description ∨
      text ∈ input.ownerId ∨ text ∈ input.organizationId ∨ text ∈ input.frequency ∨
        ∃ config ∈ input.config, text ∈ textsOfEntries config := by
  simp only [payload, textsOfEntries_append, List.mem_append] at h
  obtain (((((((hfirst | hdescription) | howner) | horganization) | hfrequency) | hactive) |
    harchive) | hconfig) := h
  · have hthree : text ∈ [input.name, input.url, input.backend] := hfirst
    simp only [List.mem_cons, List.not_mem_nil, or_false] at hthree
    obtain rfl | rfl | rfl := hthree
    · exact .inl rfl
    · exact .inr (.inl rfl)
    · exact .inr (.inr (.inl rfl))
  · exact .inr (.inr (.inr (.inl (mem_textsOfEntries_text hdescription))))
  · exact .inr (.inr (.inr (.inr (.inl (mem_textsOfEntries_text howner)))))
  · exact .inr (.inr (.inr (.inr (.inr (.inl (mem_textsOfEntries_text horganization))))))
  · exact .inr (.inr (.inr (.inr (.inr (.inr (.inl (mem_textsOfEntries_text hfrequency)))))))
  · exact absurd hactive not_mem_textsOfEntries_flag
  · exact absurd harchive not_mem_textsOfEntries_flag
  · obtain ⟨config, hmem, htext⟩ := mem_textsOfEntries_optionalEntry hconfig
    have hthawed : text ∈ textsOfEntries (thawJsonEntries config) := htext
    rw [texts_thawJsonEntries] at hthawed
    exact .inr (.inr (.inr (.inr (.inr (.inr (.inr ⟨config, hmem, hthawed⟩))))))

/-- The URL of an accepted input and every URL inside its configuration are crawl targets, and
beside them and the free texts the body that is written holds no URL. -/
theorem crawl_targets_covered :
    IsCrawlTarget platform input.allowPrivateEndpoint input.url.toList ∧
      (∀ config ∈ input.config, ∀ text ∈ textsOfEntries config,
        isAbsoluteUrl text.toList = true →
          IsCrawlTarget platform input.allowPrivateEndpoint text.toList) ∧
      input.writeBody = .ok input.payload ∧
      ∀ text ∈ textsOfEntries input.payload, isAbsoluteUrl (strip text.toList) = true →
        text = input.url ∨ (∃ config ∈ input.config, text ∈ textsOfEntries config) ∨
          text = input.name ∨ text = input.backend ∨ text ∈ input.description := by
  have hchecked := HarvestSourceFields.checked_of_accept input.accepted
  refine ⟨(isCrawlTarget_of_crawlEndpoint hchecked.url).2,
    fun config hconfig => targets_of_entries (hchecked.config config hconfig), ?_, ?_⟩
  · rw [writeBody, hchecked.url]
  · intro text htext hurl
    have hfalse : ∀ {other : Text}, isAbsoluteUrl (strip other) = false → other ≠ text.toList := by
      rintro other hother rfl
      rw [hother] at hurl
      cases hurl
    obtain rfl | rfl | rfl | hdescription | howner | horganization | hfrequency | hconfig :=
      input.mem_texts_payload htext
    · exact .inr (.inr (.inl rfl))
    · exact .inl rfl
    · exact .inr (.inr (.inr (.inl rfl)))
    · exact .inr (.inr (.inr (.inr hdescription)))
    · exact absurd rfl (hfalse (not_isAbsoluteUrl_of_safeSegment (hchecked.ownerId text howner)))
    · exact absurd rfl (hfalse
        (not_isAbsoluteUrl_of_safeSegment (hchecked.organizationId text horganization)))
    · exact absurd rfl (hfalse
        (not_isAbsoluteUrl_of_frequency (hchecked.frequency text hfrequency)))
    · exact .inr (.inl hconfig)

end HarvestSourceInput

/-! ## A blank before a private target -/

/-- Tables that know ASCII text and no addresses. -/
def asciiPlatform : HarvestPlatform where
  unicode := .ascii
  addresses := ⟨fun _ => none, fun _ => none⟩
  redaction :=
    { containsCredentialContent := fun _ => false, redactString := id, otherText := "" }

/-- A public source whose name and configuration have a private URL. -/
def blankedFields : HarvestSourceFields where
  name := "http://localhost/"
  url := "https://example.org/"
  backend := "dcat"
  config := some [(.text "endpoint", .str " http://localhost/")]

theorem eq_ok_of_toOption {Error α : Type} {result : Except Error α} {value : α}
    (h : result.toOption = some value) : result = .ok value := by
  cases result with
  | error error => cases h
  | ok returned => exact congrArg _ (Option.some.inj h)

theorem crawlEndpoint_public : crawlEndpoint asciiPlatform false blankedFields.url.toList =
    .ok blankedFields.url.toList := by
  have hvalid : validateHttpTarget .ascii ⟨fun _ => none, fun _ => none⟩ false none
      blankedFields.url.toList = .ok blankedFields.url.toList :=
    eq_ok_of_toOption (by decide)
  rw [crawlEndpoint, asciiPlatform, hvalid]

theorem accept_blankedFields : blankedFields.accept asciiPlatform = .ok blankedFields := by
  have hname : validateText blankedFields.name "name" = .ok () :=
    eq_ok_of_toOption (by decide)
  have hbackend : validateText blankedFields.backend "backend" = .ok () :=
    eq_ok_of_toOption (by decide)
  have hprivate : blankedFields.allowPrivateEndpoint = false := rfl
  have hurl : isAbsoluteUrl " http://localhost/".toList = false := by decide
  have hconfig : acceptConfig asciiPlatform false blankedFields.config =
      .ok blankedFields.config := by
    show (validatedEndpointEntries asciiPlatform false
      [(.text "endpoint", .str " http://localhost/")] >>= fun _ => Except.ok blankedFields.config) = _
    rw [validatedEndpointEntries, validatedEndpointTree, if_neg (by rw [hurl]; exact nofun)]
    rfl
  rw [HarvestSourceFields.accept, hname, hprivate, crawlEndpoint_public, hbackend, hconfig]
  show Except.ok { blankedFields with url := String.ofList blankedFields.url.toList } = _
  rw [String.ofList_toList]

def blankedInput : HarvestSourceInput asciiPlatform where
  toHarvestSourceFields := blankedFields
  given := blankedFields
  accepted := accept_blankedFields

/-- A name may be a URL of a private host, and so may a string of the configuration behind a
blank. -/
theorem name_is_private_url :
    ¬∀ (platform : HarvestPlatform) (input : HarvestSourceInput platform),
      input.allowPrivateEndpoint = false →
        (∀ config ∈ input.config, ∀ text ∈ textsOfEntries config,
          isAbsoluteUrl (strip text.toList) = true →
            IsCrawlTarget platform false (strip text.toList)) ∧
        ∀ text ∈ textsOfEntries input.payload, isAbsoluteUrl (strip text.toList) = true →
          text = input.url ∨ ∃ config ∈ input.config, text ∈ textsOfEntries config := by
  intro h
  obtain ⟨-, hpayload⟩ := h asciiPlatform blankedInput rfl
  have hname : blankedFields.name ∈ textsOfEntries blankedInput.payload := List.mem_cons_self
  obtain hurl | ⟨config, hconfig, htext⟩ := hpayload blankedFields.name hname (by decide +kernel)
  · exact absurd hurl (by decide +kernel)
  · cases hconfig
    have hblank : blankedFields.name = " http://localhost/" := List.mem_singleton.mp htext
    exact absurd hblank (by decide +kernel)

end DataSluice.Catalog.Udata
