/-
# Artifact envelopes round trip

An envelope that `to_dict` writes is read by `from_dict`, and the artifact that was read writes
the same envelope. The time of creation is written in UTC and the locator's URI sanitized; both
are fixed points of what writes them. The only step that can fail is the check of the sanitized
URI, which refuses a few URIs that the check of the original one accepts.
-/

import DataSluice.Domain.UriFixpoint
import DataSluice.Lib.CivilDates

namespace DataSluice.Domain

open DataSluice.Lib DataSluice.Lib.Url

/-! ## What the constructors keep -/

section Constructors

variable {unicode : UnicodeData}

theorem DirectResourceLocator.new_fields {uri : String} {format mediaType : Option String}
    {extensions : List (Key × Value)} {built : DirectResourceLocator unicode}
    (h : new unicode uri format mediaType extensions = .ok built) :
    built.uri = uri ∧ built.format = format ∧ built.mediaType = mediaType ∧
      freezeExtensions extensions = .ok built.extensions := by
  unfold new at h
  split at h
  · cases h
  · split at h
    · cases h
    next hfrozen =>
      cases h
      exact ⟨rfl, rfl, rfl, hfrozen⟩

theorem ArtifactProvenance.new_fields {locator : DirectResourceLocator unicode}
    {identity mode : String} {createdAt : DateTime} {transforms : List String}
    {built : ArtifactProvenance unicode}
    (h : new unicode locator identity createdAt mode transforms = .ok built) :
    built.sourceLocator = locator ∧ built.resourceIdentity = identity ∧
      built.createdAt = createdAt ∧ built.materializationMode = mode ∧
        built.transforms = transforms := by
  unfold new artifactError at h
  split_ifs at h
  cases h
  exact ⟨rfl, rfl, rfl, rfl, rfl⟩

theorem Artifact.new_frozen {uri mediaType : String} {size : Int}
    {contentDigest blobDigest : Digest} {provenance : ArtifactProvenance unicode}
    {metadata extensions : List (Key × Value)} {built : Artifact unicode}
    (h : new unicode uri mediaType size contentDigest blobDigest provenance metadata extensions =
      .ok built) :
    freezeJsonObject "metadata" metadata = .ok built.metadata ∧
      freezeExtensions extensions = .ok built.extensions := by
  unfold new artifactError at h
  split at h
  · cases h
  split_ifs at h
  split at h
  · cases h
  next hmetadata =>
    split at h
    · cases h
    next hextensions =>
      cases h
      exact ⟨hmetadata, hextensions⟩

end Constructors

/-! ## Reloading -/

/-- A locator that was built from what another one stores. -/
structure StoredAs {unicode : UnicodeData} (stored locator : DirectResourceLocator unicode) :
    Prop where
  uri : stored.uri = sanitizeUri unicode locator.uri
  format : stored.format = locator.format
  mediaType : stored.mediaType = locator.mediaType
  extensions : stored.extensions = locator.extensions

theorem storedAs_of_new {unicode : UnicodeData} {locator stored : DirectResourceLocator unicode}
    (h : DirectResourceLocator.new unicode (sanitizeUri unicode locator.uri) locator.format
      locator.mediaType (thawJsonEntries locator.extensions) = .ok stored) :
    StoredAs stored locator := by
  obtain ⟨huri, hformat, hmedia, hfrozen⟩ := DirectResourceLocator.new_fields h
  obtain ⟨given, hgiven⟩ := locator.extensions_frozen
  rw [freezeExtensions_thawJson hgiven] at hfrozen
  exact ⟨huri, hformat, hmedia, (Except.ok.inj hfrozen).symm⟩

/-- A locator writes what it was read from, since sanitizing is idempotent. -/
theorem StoredAs.toDict_eq {unicode : UnicodeData} (hstandard : unicode.Standard)
    {stored locator : DirectResourceLocator unicode} (h : StoredAs stored locator) :
    stored.toDict = locator.toDict := by
  rw [DirectResourceLocator.toDict, DirectResourceLocator.toDict, h.uri, h.format, h.mediaType,
    h.extensions, sanitizeUri_sanitizeUri hstandard]

namespace Artifact

/-- The artifact's envelope is read, and what was read writes the same envelope. -/
def RoundTrips (stdlib : Stdlib) (artifact : Artifact stdlib.unicode) : Prop :=
  ∃ value reloaded, artifact.toDict = some value ∧ fromDict stdlib value = .ok reloaded ∧
    reloaded.toDict = some value

variable {stdlib : Stdlib}

/-- An artifact that was read from an envelope writes that envelope. -/
theorem toDict_of_reload (hstandard : stdlib.unicode.Standard) {artifact : Artifact stdlib.unicode}
    {value : Value} {reloaded : Artifact stdlib.unicode} (hvalue : artifact.toDict = some value)
    (hread : fromDict stdlib value = .ok reloaded) : reloaded.toDict = some value := by
  obtain ⟨hcalendar, -⟩ := storable_of_reload stdlib hvalue hread
  obtain ⟨utc, hutc⟩ := Option.isSome_iff_exists.mp hcalendar
  obtain ⟨written, hwritten, hsteps⟩ := artifact.fromDict_toDict stdlib hutc
  obtain rfl := Option.some.inj (hvalue.symm.trans hwritten)
  rw [hsteps] at hread
  cases hlocator : DirectResourceLocator.new stdlib.unicode
      (sanitizeUri stdlib.unicode artifact.provenance.sourceLocator.uri)
      artifact.provenance.sourceLocator.format artifact.provenance.sourceLocator.mediaType
      (thawJsonEntries artifact.provenance.sourceLocator.extensions) with
  | error error =>
      rw [hlocator] at hread
      cases hread
  | ok locator =>
      simp only [hlocator, bind, Except.bind] at hread
      split at hread
      · cases hread
      next provenance hprovenance =>
        obtain ⟨hsource, hidentity, hcreated, hmode, htransforms⟩ :=
          ArtifactProvenance.new_fields hprovenance
        obtain ⟨huri, hmedia, hsize, hcontent, hblob, hkept⟩ := new_eq_ok hread
        obtain ⟨hmetadata, hextensions⟩ := new_frozen hread
        obtain ⟨givenMetadata, hgivenMetadata⟩ := artifact.metadata_frozen
        obtain ⟨givenExtensions, hgivenExtensions⟩ := artifact.extensions_frozen
        rw [freezeJsonObject_thawJson _ _ hgivenMetadata] at hmetadata
        rw [freezeExtensions_thawJson hgivenExtensions] at hextensions
        have hagain : utc.astimezoneUtc = some utc :=
          DateTime.astimezoneUtc_of_utc (DateTime.offset_astimezoneUtc hutc)
        have hstored : provenance.toDict = artifact.provenance.toDict := by
          rw [ArtifactProvenance.toDict, ArtifactProvenance.toDict, hsource,
            (storedAs_of_new hlocator).toDict_eq hstandard, hidentity, hcreated, hmode, htransforms,
            hagain, hutc]
        rw [← hvalue, toDict, toDict, huri, hmedia, hsize, hcontent, hblob, hkept, hstored,
          ← Except.ok.inj hmetadata, ← Except.ok.inj hextensions]

/-- An artifact with a representable time round trips if and only if its locator can be stored. -/
theorem roundTrips_iff_storable (hstandard : stdlib.unicode.Standard)
    (artifact : Artifact stdlib.unicode) : artifact.RoundTrips ↔ artifact.Storable := by
  constructor
  · rintro ⟨value, reloaded, hvalue, hread, -⟩
    exact storable_of_reload stdlib hvalue hread
  · intro hstorable
    obtain ⟨value, reloaded, hvalue, hread, -⟩ := exists_reload stdlib artifact hstorable
    exact ⟨value, reloaded, hvalue, hread, toDict_of_reload hstandard hvalue hread⟩

/-- Sanitizing is idempotent. It keeps an accepted URI acceptable, and so the envelope of an
artifact readable, if and only if the URI keeps its form. -/
theorem roundTrips_iff_keepsForm (stdlib : Stdlib) (hstandard : stdlib.unicode.Standard) :
    (∀ uri, sanitizeUri stdlib.unicode (sanitizeUri stdlib.unicode uri) =
        sanitizeUri stdlib.unicode uri) ∧
      (∀ path uri, validateUri stdlib.unicode path uri = .ok uri →
        ((validateUri stdlib.unicode path (sanitizeUri stdlib.unicode uri)).isOk = true ↔
          KeepsForm stdlib.unicode uri)) ∧
      ∀ artifact : Artifact stdlib.unicode,
        artifact.provenance.createdAt.astimezoneUtc.isSome = true →
          (artifact.RoundTrips ↔
            KeepsForm stdlib.unicode artifact.provenance.sourceLocator.uri) := by
  refine ⟨sanitizeUri_sanitizeUri hstandard, fun path uri => validateUri_sanitizeUri_iff hstandard,
    fun artifact hcalendar => ?_⟩
  rw [roundTrips_iff_storable hstandard, Storable, and_iff_right hcalendar,
    DirectResourceLocator.Storable]
  exact validateUri_sanitizeUri_iff hstandard artifact.provenance.sourceLocator.uri_valid

end Artifact

/-! ## A bare drive -/

/-- A library whose tables know ASCII text. -/
def asciiStdlib : Stdlib := ⟨UnicodeData.ascii, fun _ => none, fun _ => none⟩

def sampleHash : String := "0123456789abcdef0123456789abcdef0123456789abcdef0123456789abcdef"

theorem isLowerSha256_sampleHash : isLowerSha256 sampleHash = true := by decide

theorem sample_year : 1 ≤ 2024 ∧ 2024 ≤ 9999 := by decide

theorem sample_month : 1 ≤ 2 ∧ 2 ≤ 12 := by decide

theorem sample_day : 1 ≤ 29 ∧ 29 ≤ daysInMonth 2024 2 := by decide

theorem sample_hour : 20 < 24 := by decide

theorem sample_minute : 30 < 60 := by decide

theorem sample_second : 15 < 60 := by decide

theorem sample_micro : 250000 < 1000000 := by decide

theorem sample_offset : ∀ micros ∈ some (-18000000000 : Int),
    -dayMicros < micros ∧ micros < dayMicros := by
  rintro micros ⟨⟩
  decide

/-- An evening five hours behind UTC, in which the day there is the next one. -/
def sampleTime : DateTime where
  year := 2024
  month := 2
  day := 29
  hour := 20
  minute := 30
  second := 15
  micro := 250000
  offset := some (-18000000000)
  year_le := sample_year
  month_le := sample_month
  day_le := sample_day
  hour_lt := sample_hour
  minute_lt := sample_minute
  second_lt := sample_second
  micro_lt := sample_micro
  offset_lt := sample_offset

theorem sample_public : publicUri asciiStdlib.unicode "uri" "air.parquet" = .ok "air.parquet" := by
  decide

theorem sample_mediaType : "application/vnd.apache.parquet" ≠ "" := by decide

/-- An artifact without metadata, whose locator has the given URI. -/
def sampleArtifact (uri : String)
    (valid : validateUri asciiStdlib.unicode "uri" uri = .ok uri) :
    Artifact asciiStdlib.unicode where
  uri := "air.parquet"
  mediaType := "application/vnd.apache.parquet"
  size := 1
  contentDigest := ⟨sampleHash, isLowerSha256_sampleHash⟩
  blobDigest := ⟨sampleHash, isLowerSha256_sampleHash⟩
  provenance :=
    { sourceLocator := ⟨uri, none, none, [], valid, [], rfl⟩
      resourceIdentity := sampleHash
      createdAt := sampleTime
      materializationMode := "parquet"
      transforms := []
      identity_valid := isLowerSha256_sampleHash
      created_aware := rfl
      mode_valid := .inl rfl }
  metadata := []
  extensions := []
  uri_public := sample_public
  mediaType_ne := sample_mediaType
  size_nonneg := Int.one_nonneg
  metadata_frozen := ⟨[], rfl⟩
  extensions_frozen := ⟨[], rfl⟩

theorem sampleTime_calendar : sampleTime.astimezoneUtc.isSome = true := by decide

theorem validateUri_secret : validateUri asciiStdlib.unicode "uri" "http://host:080/air?token=a b" =
    .ok "http://host:080/air?token=a b" := by decide +kernel

/-- A URI with a secret, a padded port and a blank in its query is stored and read back. -/
theorem secret_query_round_trips :
    (sampleArtifact "http://host:080/air?token=a b" validateUri_secret).RoundTrips := by
  obtain ⟨-, haccepted, hartifact⟩ :=
    Artifact.roundTrips_iff_keepsForm asciiStdlib ascii_standard
  have hkeeps := (haccepted "uri" _ validateUri_secret).mp (by decide +kernel)
  exact (hartifact (sampleArtifact _ validateUri_secret) sampleTime_calendar).mpr hkeeps

theorem validateUri_drive : validateUri asciiStdlib.unicode "uri" "C://" = .ok "C://" := by
  decide

/-- The bare drive `C://` is stored as `c:`, which no locator accepts. -/
theorem bare_drive_is_unreadable :
    (validateUri asciiStdlib.unicode "uri" (sanitizeUri asciiStdlib.unicode "C://")).isOk = false ∧
      ¬(sampleArtifact "C://" validateUri_drive).RoundTrips := by
  have hrefused : (validateUri asciiStdlib.unicode "uri"
      (sanitizeUri asciiStdlib.unicode "C://")).isOk = false := by decide +kernel
  apply And.intro hrefused
  rintro ⟨value, reloaded, hvalue, hread, -⟩
  have hstorable := (Artifact.storable_of_reload asciiStdlib hvalue hread).2
  exact absurd (hrefused.symm.trans hstorable) Bool.false_ne_true

end DataSluice.Domain
