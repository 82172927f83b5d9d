/-
# Artifacts

An `Artifact` describes one materialized file: where it is, what it hashes to, and where it
came from. Every record checks its fields when it is built, and reads its own envelope back
strictly.

The records carry what their constructors check. Arguments that the source checks for
their type only have that type here, so those checks appear where an envelope is read.
-/

import DataSluice.Domain.Receipts
import DataSluice.Domain.Uri
import DataSluice.Lib.DateTime

namespace DataSluice.Domain

open DataSluice.Lib DataSluice.Lib.Url

/-- A value that a contract refuses, with the path its error names. -/
structure SchemaError where
  contract : String
  path : String
  deriving DecidableEq

/-- The text of the raised `DataSluiceError`. -/
def SchemaError.message (error : SchemaError) : String :=
  "Invalid schema-v1 " ++ error.contract ++ " at " ++ error.path

/-- `_contract_error` of `domain/artifact.py` -/
def artifactError {α : Type} (path : String) : Except SchemaError α := .error ⟨"contract", path⟩

/-- `_contract_error` of `application.py` -/
def locatorError {α : Type} (path : String) : Except SchemaError α :=
  .error ⟨"resource locator", path⟩

/-- A shared check, with the error of the contract that it is made for. -/
def inContract {α : Type} (contract : String) : Except ContractError α → Except SchemaError α
  | .ok value => .ok value
  | .error error => .error ⟨contract, error.path⟩

theorem inContract_ok {α : Type} (contract : String) (value : α) :
    inContract contract (.ok value) = .ok value := rfl

/-- `set(data) == keys` -/
def hasKeys (keys : List String) (data : List (String × Value)) : Bool :=
  decide (data.map Prod.fst ⊆ keys) && decide (keys ⊆ data.map Prod.fst)

/-- The entries of a dictionary with string keys, as a mapping. -/
def asMapping (entries : List (String × Value)) : List (Key × Value) :=
  entries.map fun entry => (.text entry.1, entry.2)

/-! ## Extensions -/

/-- `str.isalnum` on ASCII text. -/
def isAlnum (character : Char) : Bool := isLetter character || isDigit character

/-- A dot with a letter or digit right behind it. -/
def hasNamedPart : List Char → Bool
  | '.' :: following :: rest => isAlnum following || hasNamedPart (following :: rest)
  | _ :: rest => hasNamedPart rest
  | [] => false

/-- The test that `_freeze_extensions` makes of a namespace. -/
def isNamespace (namespace_ : String) : Bool :=
  let characters := namespace_.toList
  !characters.isEmpty && characters.all isAscii && (characters.head?.map isAlnum).getD false &&
    characters.all (fun character => isAlnum character || character == '.' || character == '-') &&
    hasNamedPart characters

/-- `_freeze_extensions`: the loop over the entries of the mapping. -/
def freezeExtensions : List (Key × Value) → Except SchemaError (List (Key × Value))
  | [] => .ok []
  | (.other _, _) :: _ => artifactError "extensions"
  | (.text name, extension) :: entries =>
      if isNamespace name then
        match freezeJson ("extensions." ++ name) extension with
        | .error error => artifactError error.path
        | .ok frozen => (freezeExtensions entries).map ((.text name, frozen) :: ·)
      else artifactError "extensions"

/-- Extensions are frozen like any other mapping. -/
theorem freezeJsonObject_of_freezeExtensions {given frozen : List (Key × Value)}
    (hfrozen : freezeExtensions given = .ok frozen) :
    freezeJsonObject "extensions" given = .ok frozen := by
  induction given generalizing frozen with
  | nil => cases hfrozen; rfl
  | cons entry given ih =>
      obtain ⟨key | _, extension⟩ := entry
      · rw [freezeExtensions] at hfrozen
        split at hfrozen
        · split at hfrozen
          · cases hfrozen
          next head hhead =>
            obtain ⟨tail, htail, rfl⟩ := map_eq_ok hfrozen
            rw [freezeJsonObject]
            change freezeJson ("extensions" ++ "." ++ key) extension = .ok head at hhead
            rw [hhead, ih htail]
            rfl
        · cases hfrozen
      · cases hfrozen

/-- Frozen extensions thaw and freeze to themselves. -/
theorem freezeExtensions_thawJson {given frozen : List (Key × Value)}
    (hfrozen : freezeExtensions given = .ok frozen) :
    freezeExtensions (thawJsonEntries frozen) = .ok frozen := by
  induction given generalizing frozen with
  | nil => cases hfrozen; rfl
  | cons entry given ih =>
      obtain ⟨key | _, extension⟩ := entry
      · rw [freezeExtensions] at hfrozen
        split at hfrozen
        next hnamespace =>
          split at hfrozen
          · cases hfrozen
          next head hhead =>
            obtain ⟨tail, htail, rfl⟩ := map_eq_ok hfrozen
            rw [thawJsonEntries, freezeExtensions, if_pos hnamespace,
              freezeJson_thawJson _ extension hhead, ih htail]
            rfl
        · cases hfrozen
      · cases hfrozen

/-! ## Locators -/

variable (unicode : UnicodeData)

/-- `_OBJECT_STORAGE_SCHEMES` -/
def objectStorageSchemes : List String := ["s3", "gs", "gcs", "az", "azure", "abfs"]

/-- `PureWindowsPath(value).is_absolute()` of a value that has a scheme: the scheme is a
drive letter in front of a root. -/
def isWindowsAbsolute : List Char → Bool
  | _ :: ':' :: separator :: _ => separator == '\\' || separator == '/'
  | _ => false

/-- `_validate_uri` -/
def validateUri (path uri : String) : Except SchemaError String :=
  if uri = "" then locatorError path
  else
    match urlsplit unicode uri.toList with
    | .error _ => locatorError path
    | .ok parts =>
        if parts.username.isSome ∨ parts.password.isSome then locatorError path
        else if parts.scheme ≠ [] ∧
            !isOneOf ("file" :: "http" :: "https" :: objectStorageSchemes) parts.scheme ∧
            !isWindowsAbsolute uri.toList then locatorError path
        else .ok uri

/-- `DirectResourceLocator` -/
structure DirectResourceLocator (unicode : UnicodeData) where
  uri : String
  format : Option String
  mediaType : Option String
  extensions : List (Key × Value)
  uri_valid : validateUri unicode "uri" uri = .ok uri
  extensions_frozen : ∃ given, freezeExtensions given = .ok extensions

namespace DirectResourceLocator

/-- The constructor. -/
def new (uri : String) (format mediaType : Option String) (extensions : List (Key × Value)) :
    Except SchemaError (DirectResourceLocator unicode) :=
  match huri : validateUri unicode "uri" uri with
  | .error error => .error error
  | .ok valid =>
      match hfrozen : freezeExtensions extensions with
      | .error error => .error error
      | .ok frozen =>
          .ok
            { uri := uri
              format := format
              mediaType := mediaType
              extensions := frozen
              uri_valid := by
                have hsame : valid = uri := by
                  unfold validateUri locatorError at huri
                  split_ifs at huri
                  split at huri
                  · cases huri
                  · split_ifs at huri
                    exact (Except.ok.inj huri).symm
                rw [huri, hsame]
              extensions_frozen := ⟨extensions, hfrozen⟩ }

/-- `to_dict` -/
def toDict (locator : DirectResourceLocator unicode) : Value :=
  record
    [("schema_version", .int 1), ("kind", .str "direct"),
      ("uri", .str (sanitizeUri unicode locator.uri)), ("format", ofOptional locator.format),
      ("media_type", ofOptional locator.mediaType),
      ("extensions", thawJson (.proxy locator.extensions))]

def keys : List String := ["schema_version", "kind", "uri", "format", "media_type", "extensions"]

/-- `from_dict`, of a dictionary whose keys are known to be strings. -/
def fromDict (data : List (String × Value)) : Except SchemaError (DirectResourceLocator unicode) :=
  if !hasKeys keys data ∨ (fieldOf data "schema_version").isOne = false ∨
      (fieldOf data "kind").isText "direct" = false then locatorError "direct"
  else
    match fieldOf data "uri", optionalText "" (fieldOf data "format"),
        optionalText "" (fieldOf data "media_type") with
    | .str uri, .ok format, .ok mediaType => do
        let extensions ← inContract "resource locator"
          (objectDict "extensions" (fieldOf data "extensions"))
        new unicode uri format mediaType (asMapping extensions)
    | _, _, _ => locatorError "direct"

end DirectResourceLocator

/-- `resource_locator_from_dict` -/
def resourceLocatorFromDict (data : List (String × Value)) :
    Except SchemaError (DirectResourceLocator unicode) :=
  if (fieldOf data "kind").isText "direct" then DirectResourceLocator.fromDict unicode data
  else locatorError "kind"

/-! ## Digests -/

/-- `_is_sha256`: 64 hexadecimal digits in lower case. -/
def isLowerSha256 (value : String) : Bool :=
  value.length == 64 && value.toList.all ("0123456789abcdef".toList.contains ·)

/-- `Digest`; its algorithm is always SHA-256. -/
structure Digest where
  value : String
  valid : isLowerSha256 value = true
  deriving DecidableEq

/-- The constructor. -/
def Digest.new (algorithm value : String) : Except SchemaError Digest :=
  if algorithm ≠ "sha256" then artifactError "digest"
  else if valid : isLowerSha256 value = true then .ok ⟨value, valid⟩
  else artifactError "digest"

def Digest.toDict (digest : Digest) : Value :=
  record [("algorithm", .str "sha256"), ("value", .str digest.value)]

def Digest.fromDict (value : Value) : Except SchemaError Digest := do
  let data ← inContract "contract" (objectDict "digest" value)
  if !hasKeys ["algorithm", "value"] data then artifactError "digest"
  else
    match fieldOf data "algorithm", fieldOf data "value" with
    | .str algorithm, .str digest => Digest.new algorithm digest
    | _, _ => artifactError "digest"

/-! ## Provenance -/

/-- What of the standard library stands outside: the tables of Unicode, the forms of ISO 8601
that `isoformat` does not write, and the dates of mail headers. -/
structure Stdlib where
  unicode : UnicodeData
  otherIsoformats : List Char → Option DateTime
  /-- `parsedate_to_datetime`; nothing where it raises. -/
  parsedateToDatetime : List Char → Option DateTime

/-- `datetime.fromisoformat`; nothing where it raises. -/
def Stdlib.fromisoformat (stdlib : Stdlib) (text : List Char) : Option DateTime :=
  (DateTime.parseIsoformat text).orElse fun _ => stdlib.otherIsoformats text

/-- `ArtifactProvenance` -/
structure ArtifactProvenance (unicode : UnicodeData) where
  sourceLocator : DirectResourceLocator unicode
  resourceIdentity : String
  createdAt : DateTime
  materializationMode : String
  transforms : List String
  identity_valid : isLowerSha256 resourceIdentity = true
  created_aware : createdAt.offset.isSome = true
  mode_valid : materializationMode = "parquet" ∨ materializationMode = "raw"

/-- `text.replace("+00:00", "Z")` -/
def withZulu (text : List Char) : List Char := replaceAll "+00:00".toList ['Z'] 0 text

/-- `text.replace("Z", "+00:00")` -/
def withOffset (text : List Char) : List Char := replaceAll ['Z'] "+00:00".toList 0 text

/-- `_PROVENANCE_CREATED_AT_PATH` -/
def provenanceCreatedAtPath : String := "provenance.created_at"

namespace ArtifactProvenance

/-- The constructor. -/
def new (sourceLocator : DirectResourceLocator unicode) (resourceIdentity : String)
    (createdAt : DateTime) (materializationMode : String) (transforms : List String) :
    Except SchemaError (ArtifactProvenance unicode) :=
  if hidentity : isLowerSha256 resourceIdentity = true then
    if haware : createdAt.offset.isSome = true then
      if hmode : materializationMode = "parquet" ∨ materializationMode = "raw" then
        .ok ⟨sourceLocator, resourceIdentity, createdAt, materializationMode, transforms, hidentity,
          haware, hmode⟩
      else artifactError "provenance.materialization_mode"
    else artifactError provenanceCreatedAtPath
  else artifactError "provenance"

variable {unicode}

/-- `to_dict`; nothing where the time of creation is outside the calendar in UTC. -/
def toDict (provenance : ArtifactProvenance unicode) : Option Value := do
  let createdAt ← provenance.createdAt.astimezoneUtc
  return record
    [("source_locator", provenance.sourceLocator.toDict),
      ("resource_identity", .str provenance.resourceIdentity),
      ("created_at", .str (String.ofList (withZulu createdAt.isoformat))),
      ("materialization_mode", .str provenance.materializationMode),
      ("transforms", .list (provenance.transforms.map .str))]

def keys : List String :=
  ["source_locator", "resource_identity", "created_at", "materialization_mode", "transforms"]

/-- `isinstance(transform, str)` -/
def textOf : Value → Option String
  | .str text => some text
  | _ => none

end ArtifactProvenance

/-- `ArtifactProvenance.from_dict` -/
def ArtifactProvenance.fromDict (stdlib : Stdlib) (value : Value) :
    Except SchemaError (ArtifactProvenance stdlib.unicode) := do
  let data ← inContract "contract" (objectDict "provenance" value)
  if !hasKeys ArtifactProvenance.keys data then artifactError "provenance"
  else
    match fieldOf data "resource_identity", fieldOf data "created_at",
        fieldOf data "materialization_mode", fieldOf data "transforms" with
    | .str resourceIdentity, .str createdAt, .str materializationMode, .list items =>
        match items.mapM ArtifactProvenance.textOf with
        | none => artifactError "provenance"
        | some transforms =>
            match stdlib.fromisoformat (withOffset createdAt.toList) with
            | none => artifactError provenanceCreatedAtPath
            | some time =>
                if time.offset.isNone then artifactError provenanceCreatedAtPath
                else do
                  let locator ← inContract "contract"
                    (objectDict "provenance.source_locator" (fieldOf data "source_locator"))
                  ArtifactProvenance.new stdlib.unicode
                    (← resourceLocatorFromDict stdlib.unicode locator) resourceIdentity time
                    materializationMode transforms
    | _, _, _, _ => artifactError "provenance"

/-! ## Artifacts -/

/-- `_public_uri` -/
def publicUri (path uri : String) : Except SchemaError String :=
  if uri = "" then artifactError path
  else
    match urlsplit unicode uri.toList with
    | .error _ => artifactError path
    | .ok parts =>
        if parts.username.isSome ∨ parts.password.isSome ∨ sanitizeUri unicode uri ≠ uri then
          artifactError path
        else .ok uri

/-- `Artifact` -/
structure Artifact (unicode : UnicodeData) where
  uri : String
  mediaType : String
  size : Int
  contentDigest : Digest
  blobDigest : Digest
  provenance : ArtifactProvenance unicode
  metadata : List (Key × Value)
  extensions : List (Key × Value)
  uri_public : publicUri unicode "uri" uri = .ok uri
  mediaType_ne : mediaType ≠ ""
  size_nonneg : 0 ≤ size
  metadata_frozen : ∃ given, freezeJsonObject "metadata" given = .ok metadata
  extensions_frozen : ∃ given, freezeExtensions given = .ok extensions

namespace Artifact

theorem publicUri_eq_ok {path uri valid : String} (h : publicUri unicode path uri = .ok valid) :
    valid = uri := by
  unfold publicUri artifactError at h
  split_ifs at h
  split at h
  · cases h
  · split_ifs at h
    exact (Except.ok.inj h).symm

/-- The constructor. -/
def new (uri mediaType : String) (size : Int) (contentDigest blobDigest : Digest)
    (provenance : ArtifactProvenance unicode) (metadata extensions : List (Key × Value)) :
    Except SchemaError (Artifact unicode) :=
  match huri : publicUri unicode "uri" uri with
  | .error error => .error error
  | .ok _ =>
      if hmedia : mediaType = "" then artifactError "media_type"
      else if hsize : size < 0 then artifactError "size"
      else
        match hmetadata : freezeJsonObject "metadata" metadata with
        | .error error => artifactError error.path
        | .ok frozenMetadata =>
            match hextensions : freezeExtensions extensions with
            | .error error => .error error
            | .ok frozenExtensions =>
                .ok
                  { uri := uri
                    mediaType := mediaType
                    size := size
                    contentDigest := contentDigest
                    blobDigest := blobDigest
                    provenance := provenance
                    metadata := frozenMetadata
                    extensions := frozenExtensions
                    uri_public := by rw [huri, publicUri_eq_ok unicode huri]
                    mediaType_ne := hmedia
                    size_nonneg := Int.not_lt.mp hsize
                    metadata_frozen := ⟨metadata, hmetadata⟩
                    extensions_frozen := ⟨extensions, hextensions⟩ }

variable {unicode}

/-- `to_dict`; nothing where its provenance has no envelope. -/
def toDict (artifact : Artifact unicode) : Option Value := do
  let provenance ← artifact.provenance.toDict
  return record
    [("schema_version", .int 1), ("kind", .str "artifact"), ("uri", .str artifact.uri),
      ("media_type", .str artifact.mediaType), ("size", .int artifact.size),
      ("content_digest", artifact.contentDigest.toDict),
      ("blob_digest", artifact.blobDigest.toDict), ("provenance", provenance),
      ("metadata", thawJson (.proxy artifact.metadata)),
      ("extensions", thawJson (.proxy artifact.extensions))]

def keys : List String :=
  ["schema_version", "kind", "uri", "media_type", "size", "content_digest", "blob_digest",
    "provenance", "metadata", "extensions"]

end Artifact

/-- `Artifact.from_dict` -/
def Artifact.fromDict (stdlib : Stdlib) (value : Value) :
    Except SchemaError (Artifact stdlib.unicode) := do
  let data ← inContract "contract" (objectDict "artifact" value)
  if !hasKeys Artifact.keys data ∨ (fieldOf data "schema_version").isOne = false ∨
      (fieldOf data "kind").isText "artifact" = false then artifactError "artifact"
  else
    match fieldOf data "uri", fieldOf data "media_type", fieldOf data "size" with
    | .str uri, .str mediaType, .int size => do
        let contentDigest ← Digest.fromDict (fieldOf data "content_digest")
        let blobDigest ← Digest.fromDict (fieldOf data "blob_digest")
        let provenance ← ArtifactProvenance.fromDict stdlib (fieldOf data "provenance")
        let metadata ← inContract "contract" (objectDict "metadata" (fieldOf data "metadata"))
        let extensions ← inContract "contract"
          (objectDict "extensions" (fieldOf data "extensions"))
        Artifact.new stdlib.unicode uri mediaType size contentDigest blobDigest provenance
          (asMapping metadata) (asMapping extensions)
    | _, _, _ => artifactError "artifact"

/-! ## Envelopes read back -/

/-- The entries that a thawed mapping is read as are those that were frozen. -/
theorem objectDict_thawed (contract : String) {path : String} {given frozen : List (Key × Value)}
    (hfrozen : freezeJsonObject path given = .ok frozen) (errorPath : String) :
    ∃ copied, inContract contract (objectDict errorPath (thawJson (.proxy frozen))) = .ok copied ∧
      asMapping copied = thawJsonEntries frozen := by
  obtain ⟨copied, hcopied, hentries⟩ := objectDict_thawJson hfrozen errorPath
  exact ⟨copied, by rw [hcopied]; rfl, hentries⟩

namespace DirectResourceLocator

variable {unicode}

/-- The locator's URI is still a valid one as it is stored. -/
def Storable (locator : DirectResourceLocator unicode) : Prop :=
  (validateUri unicode "uri" (sanitizeUri unicode locator.uri)).isOk = true

/-- A stored locator reads as a new one for the sanitized URI. -/
theorem fromDict_toDict (locator : DirectResourceLocator unicode) (path : String) :
    ∃ fields, inContract "contract" (objectDict path locator.toDict) = .ok fields ∧
      resourceLocatorFromDict unicode fields =
        new unicode (sanitizeUri unicode locator.uri) locator.format locator.mediaType
          (thawJsonEntries locator.extensions) := by
  obtain ⟨given, hfrozen⟩ := locator.extensions_frozen
  obtain ⟨copied, hcopied, hentries⟩ := objectDict_thawed "resource locator"
    (freezeJsonObject_of_freezeExtensions hfrozen) "extensions"
  apply Exists.intro _
  apply And.intro
  · rw [toDict, objectDict_record]
    rfl
  · simp [resourceLocatorFromDict, fromDict, hasKeys, keys, fieldOf, List.lookup_cons,
      Value.isText, Value.isOne, optionalText_ofOptional, hcopied, hentries, bind, Except.bind]

/-- A locator with a valid URI is built. -/
theorem exists_new_eq_ok (locator : DirectResourceLocator unicode) (hstorable : locator.Storable) :
    ∃ stored, new unicode (sanitizeUri unicode locator.uri) locator.format locator.mediaType
      (thawJsonEntries locator.extensions) = .ok stored := by
  obtain ⟨given, hfrozen⟩ := locator.extensions_frozen
  unfold Storable at hstorable
  unfold new
  split
  next error herror =>
    rw [herror] at hstorable
    cases hstorable
  next =>
    split
    next error herror =>
      rw [freezeExtensions_thawJson hfrozen] at herror
      cases herror
    next => exact ⟨_, rfl⟩

theorem storable_of_new_eq_ok {locator stored : DirectResourceLocator unicode}
    (h : new unicode (sanitizeUri unicode locator.uri) locator.format locator.mediaType
      (thawJsonEntries locator.extensions) = .ok stored) : locator.Storable := by
  unfold new at h
  split at h
  · cases h
  next hvalid =>
    unfold Storable
    rw [hvalid]
    rfl

end DirectResourceLocator

theorem Digest.fromDict_toDict (digest : Digest) : fromDict digest.toDict = .ok digest := by
  rw [fromDict, toDict, objectDict_record]
  simp [inContract, hasKeys, fieldOf, List.lookup_cons, new, digest.valid, bind, Except.bind]

/-- The time of creation reads back from its text. -/
theorem fromisoformat_created (stdlib : Stdlib) {utc : DateTime} (hutc : utc.offset = some 0) :
    stdlib.fromisoformat (withOffset (withZulu utc.isoformat)) = some utc := by
  have hchars := utc.clockText_subset
  have hplus : '+' ∉ utc.clockText := fun h => absurd (hchars h) (by decide)
  have hzulu : 'Z' ∉ utc.clockText := fun h => absurd (hchars h) (by decide)
  have hiso : utc.isoformat = utc.clockText ++ "+00:00".toList := by
    rw [DateTime.isoformat, hutc]
    rfl
  have hwritten : withZulu utc.isoformat = utc.clockText ++ ['Z'] := by
    rw [hiso]
    exact replaceAll_append_of_notMem hplus
  have hread : withOffset (utc.clockText ++ ['Z']) = utc.isoformat := by
    rw [hiso]
    exact replaceAll_append_of_notMem hzulu
  rw [hwritten, hread, Stdlib.fromisoformat, DateTime.parseIsoformat_isoformat]
  rfl

theorem mapM_textOf (texts : List String) :
    texts.mapM (ArtifactProvenance.textOf ∘ Value.str) = some texts := by
  induction texts with
  | nil => rfl
  | cons text texts ih =>
      rw [List.mapM_cons, ih]
      rfl

/-- A stored provenance reads as a new one, with its time in UTC. -/
theorem ArtifactProvenance.fromDict_toDict (stdlib : Stdlib)
    (provenance : ArtifactProvenance stdlib.unicode) {utc : DateTime}
    (hutc : provenance.createdAt.astimezoneUtc = some utc) :
    ∃ value, provenance.toDict = some value ∧
      fromDict stdlib value = (do
        let locator ← DirectResourceLocator.new stdlib.unicode
          (sanitizeUri stdlib.unicode provenance.sourceLocator.uri) provenance.sourceLocator.format
          provenance.sourceLocator.mediaType
          (thawJsonEntries provenance.sourceLocator.extensions)
        ArtifactProvenance.new stdlib.unicode locator provenance.resourceIdentity utc
          provenance.materializationMode provenance.transforms) := by
  have hoffset := DateTime.offset_astimezoneUtc hutc
  obtain ⟨fields, hfields, hlocator⟩ :=
    provenance.sourceLocator.fromDict_toDict "provenance.source_locator"
  apply Exists.intro _
  apply And.intro
  · rw [toDict, hutc]
    rfl
  · have htime := fromisoformat_created stdlib hoffset
    rw [fromDict, objectDict_record]
    simp [inContract, hasKeys, keys, fieldOf, List.lookup_cons, mapM_textOf, htime, hoffset,
      bind, Except.bind] at hfields ⊢
    rw [hfields]
    simp [hlocator]

/-- The constructor keeps its arguments. -/
theorem ArtifactProvenance.new_eq_ok {locator : DirectResourceLocator unicode}
    {identity mode : String} {createdAt : DateTime} {transforms : List String}
    {built : ArtifactProvenance unicode}
    (h : new unicode locator identity createdAt mode transforms = .ok built) :
    built.sourceLocator = locator ∧ built.createdAt = createdAt ∧
      built.materializationMode = mode := by
  unfold new artifactError at h
  split_ifs at h
  cases h
  exact ⟨rfl, rfl, rfl⟩

namespace Artifact

variable {unicode}

/-- The artifact's envelope can be written and read back: its time of creation stays inside
the calendar in UTC, and its locator is still valid as it is stored. -/
def Storable (artifact : Artifact unicode) : Prop :=
  artifact.provenance.createdAt.astimezoneUtc.isSome = true ∧
    artifact.provenance.sourceLocator.Storable

/-- Two artifacts describe the same file of the same resource. -/
structure SameFile (first second : Artifact unicode) : Prop where
  uri : first.uri = second.uri
  mediaType : first.mediaType = second.mediaType
  size : first.size = second.size
  contentDigest : first.contentDigest = second.contentDigest
  blobDigest : first.blobDigest = second.blobDigest
  mode : first.provenance.materializationMode = second.provenance.materializationMode

/-- A stored artifact reads as a new one with the provenance that was read. -/
theorem fromDict_toDict (stdlib : Stdlib) (artifact : Artifact stdlib.unicode) {utc : DateTime}
    (hutc : artifact.provenance.createdAt.astimezoneUtc = some utc) :
    ∃ value, artifact.toDict = some value ∧
      fromDict stdlib value = (do
        let locator ← DirectResourceLocator.new stdlib.unicode
          (sanitizeUri stdlib.unicode artifact.provenance.sourceLocator.uri)
          artifact.provenance.sourceLocator.format artifact.provenance.sourceLocator.mediaType
          (thawJsonEntries artifact.provenance.sourceLocator.extensions)
        let provenance ← ArtifactProvenance.new stdlib.unicode locator
          artifact.provenance.resourceIdentity utc artifact.provenance.materializationMode
          artifact.provenance.transforms
        new stdlib.unicode artifact.uri artifact.mediaType artifact.size artifact.contentDigest
          artifact.blobDigest provenance (thawJsonEntries artifact.metadata)
          (thawJsonEntries artifact.extensions)) := by
  obtain ⟨stored, hstored, hprovenance⟩ :=
    artifact.provenance.fromDict_toDict stdlib hutc
  obtain ⟨metadata, hmetadata⟩ := artifact.metadata_frozen
  obtain ⟨extensions, hextensions⟩ := artifact.extensions_frozen
  obtain ⟨copiedMetadata, hcopied, hentries⟩ :=
    objectDict_thawed "contract" hmetadata "metadata"
  obtain ⟨copiedExtensions, hcopied', hentries'⟩ := objectDict_thawed "contract"
    (freezeJsonObject_of_freezeExtensions hextensions) "extensions"
  apply Exists.intro _
  apply And.intro
  · rw [toDict, hstored]
    rfl
  · rw [fromDict, objectDict_record]
    simp only [inContract_ok, hasKeys, keys, fieldOf, List.lookup_cons, Value.isText,
      Value.isOne, Digest.fromDict_toDict, hprovenance, hcopied, hcopied', hentries, hentries',
      List.map_cons, List.map_nil, List.Subset.refl, Option.getD, String.reduceBEq, beq_self_eq_true,
      decide_true, Bool.and_self, Bool.not_true, Bool.false_eq_true, Bool.true_eq_false, or_self,
      if_false, bind, Except.bind]
    cases DirectResourceLocator.new stdlib.unicode
        (sanitizeUri stdlib.unicode artifact.provenance.sourceLocator.uri)
        artifact.provenance.sourceLocator.format artifact.provenance.sourceLocator.mediaType
        (thawJsonEntries artifact.provenance.sourceLocator.extensions) <;> rfl

/-- The constructor keeps what identifies the file. -/
theorem new_eq_ok {uri mediaType : String} {size : Int} {contentDigest blobDigest : Digest}
    {provenance : ArtifactProvenance unicode} {metadata extensions : List (Key × Value)}
    {built : Artifact unicode}
    (h : new unicode uri mediaType size contentDigest blobDigest provenance metadata extensions =
      .ok built) :
    built.uri = uri ∧ built.mediaType = mediaType ∧ built.size = size ∧
      built.contentDigest = contentDigest ∧ built.blobDigest = blobDigest ∧
      built.provenance = provenance := by
  unfold new artifactError at h
  split at h
  · cases h
  split_ifs at h
  split at h
  · cases h
  split at h
  · cases h
  cases h
  exact ⟨rfl, rfl, rfl, rfl, rfl, rfl⟩

/-- Valid fields make an artifact. -/
theorem exists_new_eq_ok {uri mediaType : String} {size : Int} (contentDigest blobDigest : Digest)
    (provenance : ArtifactProvenance unicode) {metadata extensions : List (Key × Value)}
    {frozenMetadata frozenExtensions : List (Key × Value)}
    (huri : publicUri unicode "uri" uri = .ok uri) (hmedia : mediaType ≠ "") (hsize : 0 ≤ size)
    (hmetadata : freezeJsonObject "metadata" metadata = .ok frozenMetadata)
    (hextensions : freezeExtensions extensions = .ok frozenExtensions) :
    ∃ built, new unicode uri mediaType size contentDigest blobDigest provenance metadata extensions =
      .ok built := by
  unfold new
  split
  next error herror =>
    rw [huri] at herror
    cases herror
  next =>
    rw [dif_neg hmedia, dif_neg (Int.not_lt.mpr hsize)]
    split
    next error herror =>
      rw [hmetadata] at herror
      cases herror
    next =>
      split
      next error herror =>
        rw [hextensions] at herror
        cases herror
      next => exact ⟨_, rfl⟩

/-- A storable artifact reads back as the same file. -/
theorem exists_reload (stdlib : Stdlib) (artifact : Artifact stdlib.unicode)
    (hstorable : artifact.Storable) :
    ∃ value reloaded, artifact.toDict = some value ∧ fromDict stdlib value = .ok reloaded ∧
      SameFile reloaded artifact := by
  obtain ⟨utc, hutc⟩ := Option.isSome_iff_exists.mp hstorable.1
  obtain ⟨value, hvalue, hread⟩ := artifact.fromDict_toDict stdlib hutc
  obtain ⟨locator, hlocator⟩ :=
    artifact.provenance.sourceLocator.exists_new_eq_ok hstorable.2
  have hprovenance : ∃ provenance, ArtifactProvenance.new stdlib.unicode locator
      artifact.provenance.resourceIdentity utc artifact.provenance.materializationMode
      artifact.provenance.transforms = .ok provenance := by
    have haware : utc.offset.isSome = true := by
      rw [DateTime.offset_astimezoneUtc hutc]
      rfl
    rw [ArtifactProvenance.new, dif_pos artifact.provenance.identity_valid, dif_pos haware,
      dif_pos artifact.provenance.mode_valid]
    exact ⟨_, rfl⟩
  obtain ⟨provenance, hprovenance⟩ := hprovenance
  obtain ⟨metadata, hmetadata⟩ := artifact.metadata_frozen
  obtain ⟨extensions, hextensions⟩ := artifact.extensions_frozen
  obtain ⟨reloaded, hreloaded⟩ := exists_new_eq_ok artifact.contentDigest artifact.blobDigest
    provenance artifact.uri_public artifact.mediaType_ne artifact.size_nonneg
    (freezeJsonObject_thawJson "metadata" metadata hmetadata)
    (freezeExtensions_thawJson hextensions)
  have hkept := new_eq_ok hreloaded
  have hmode := (ArtifactProvenance.new_eq_ok stdlib.unicode hprovenance).2.2
  rw [hlocator] at hread
  simp only [bind, Except.bind, hprovenance, hreloaded] at hread
  refine ⟨value, reloaded, hvalue, hread, ?_⟩
  constructor
  case mode => rw [hkept.2.2.2.2.2, hmode]
  all_goals simp [hkept]

/-- An artifact that reads back was storable. -/
theorem storable_of_reload (stdlib : Stdlib) {artifact : Artifact stdlib.unicode} {value : Value}
    {reloaded : Artifact stdlib.unicode} (hvalue : artifact.toDict = some value)
    (hread : fromDict stdlib value = .ok reloaded) : artifact.Storable := by
  have hutc : artifact.provenance.createdAt.astimezoneUtc.isSome = true := by
    by_contra hnone
    rw [Option.not_isSome_iff_eq_none] at hnone
    rw [toDict, ArtifactProvenance.toDict, hnone] at hvalue
    cases hvalue
  obtain ⟨utc, hsome⟩ := Option.isSome_iff_exists.mp hutc
  obtain ⟨stored, hstored, hsteps⟩ := artifact.fromDict_toDict stdlib hsome
  cases hvalue.symm.trans hstored
  rw [hsteps] at hread
  apply And.intro hutc
  cases hlocator : DirectResourceLocator.new stdlib.unicode
      (sanitizeUri stdlib.unicode artifact.provenance.sourceLocator.uri)
      artifact.provenance.sourceLocator.format artifact.provenance.sourceLocator.mediaType
      (thawJsonEntries artifact.provenance.sourceLocator.extensions) with
  | error error =>
      rw [hlocator] at hread
      cases hread
  | ok locator => exact DirectResourceLocator.storable_of_new_eq_ok hlocator

end Artifact

end DataSluice.Domain
