/-
# Materializations that raise

A call moves its temporary file to the final URI before it builds the artifact that
describes it. Up to the move, whatever raises leaves the file at the final URI as it was, and
no temporary file behind. What raises behind the move is the description alone: the URI of
the artifact, the locator of its source, and its time of creation are checked there.
-/

import DataSluice.Sync.Calls

namespace DataSluice.Sync.Materialize

open DataSluice.Lib DataSluice.Lib.Url DataSluice.Domain DataSluice.Data

variable {Schema Batch : Type} {tools : Tools Schema Batch}
  {request : Request tools.stdlib.unicode}

/-! ## The description -/

/-- Everything that the artifact's constructors check of a call holds: the sanitized final URI
is a public one, there is a valid locator of the source, and the time of creation is aware. -/
structure Context.Describable (context : Context tools request) : Prop where
  uri : publicUri tools.stdlib.unicode "uri"
    (sanitizeUri tools.stdlib.unicode context.finalUri) =
      .ok (sanitizeUri tools.stdlib.unicode context.finalUri)
  locator : ∃ locator, sourceLocator tools request = .ok locator
  aware : (request.createdAt.getD request.now).offset.isSome = true

theorem rawMediaType_ne (resource : Resource) : rawMediaType resource ≠ "" := by
  unfold rawMediaType
  split
  next mediaType htruthy =>
    have hne := (Option.filter_eq_some_iff.mp htruthy).2
    simpa using hne
  next => split <;> decide

theorem Context.mediaType_ne (context : Context tools request) : context.mediaType ≠ "" := by
  unfold Context.mediaType
  split
  · exact rawMediaType_ne request.resource
  · decide

theorem Digest.new_sha256 {value : String} (hvalid : isLowerSha256 value = true) :
    Digest.new "sha256" value = .ok ⟨value, hvalid⟩ := by
  rw [Digest.new, if_neg (by decide), dif_pos hvalid]

theorem canonicalIdentity_valid {resource : Resource} {identity : String}
    (h : canonicalIdentity tools resource = .ok identity) : isLowerSha256 identity = true := by
  unfold canonicalIdentity at h
  split at h
  · cases h
  · cases h
    exact tools.sha256_valid _

/-- A describable file is described. -/
theorem Context.Describable.exists_artifact {context : Context tools request}
    (hdescribable : context.Describable) (written : Written) :
    ∃ built, artifact tools context written = .ok built ∧
      built.uri = sanitizeUri tools.stdlib.unicode context.finalUri ∧
      built.size = written.size ∧ built.blobDigest.value = written.blobDigest ∧
      built.provenance.materializationMode = context.mode := by
  obtain ⟨locator, hlocator⟩ := hdescribable.locator
  have hprovenance := canonicalIdentity_valid context.identity_eq
  obtain ⟨provenance, hprovenance⟩ : ∃ provenance, ArtifactProvenance.new tools.stdlib.unicode
      locator context.identity (request.createdAt.getD request.now) context.mode
      request.transforms = .ok provenance := by
    rw [ArtifactProvenance.new, dif_pos hprovenance, dif_pos hdescribable.aware,
      dif_pos context.mode_valid]
    exact ⟨_, rfl⟩
  obtain ⟨built, hbuilt⟩ := Artifact.exists_new_eq_ok
    ⟨written.contentDigest, written.content_valid⟩ ⟨written.blobDigest, written.blob_valid⟩
    provenance hdescribable.uri context.mediaType_ne (Int.natCast_nonneg written.size)
    (show freezeJsonObject "metadata" [] = .ok [] from rfl)
    (show freezeExtensions [] = .ok [] from rfl)
  have hkept := Artifact.new_eq_ok hbuilt
  have hmode := (ArtifactProvenance.new_eq_ok tools.stdlib.unicode hprovenance).2.2
  refine ⟨built, ?_, hkept.1, hkept.2.2.1, ?_, ?_⟩
  · simp only [artifact, Digest.new_sha256 written.content_valid,
      Digest.new_sha256 written.blob_valid, asFailure, hlocator, context.identity_eq, hprovenance,
      hbuilt, bind, Except.bind]
  · rw [hkept.2.2.2.2.1]
  · rw [hkept.2.2.2.2.2, hmode]

/-- What is described was describable. -/
theorem Context.describable_of_artifact {context : Context tools request} {written : Written}
    {built : Artifact tools.stdlib.unicode} (h : artifact tools context written = .ok built) :
    context.Describable := by
  simp only [artifact, Digest.new_sha256 written.content_valid,
    Digest.new_sha256 written.blob_valid, asFailure, context.identity_eq, bind, Except.bind] at h
  cases hlocator : sourceLocator tools request with
  | error error => simp [hlocator] at h
  | ok locator =>
    cases hprovenance : ArtifactProvenance.new tools.stdlib.unicode locator context.identity
        (request.createdAt.getD request.now) context.mode request.transforms with
    | error error => simp [hlocator, hprovenance] at h
    | ok provenance =>
      cases hbuilt : Artifact.new tools.stdlib.unicode
          (sanitizeUri tools.stdlib.unicode context.finalUri) context.mediaType written.size
          ⟨written.contentDigest, written.content_valid⟩ ⟨written.blobDigest, written.blob_valid⟩
          provenance [] [] with
      | error error => simp [hlocator, hprovenance, hbuilt] at h
      | ok found =>
        constructor
        case uri =>
          have hpublic := found.uri_public
          rw [(Artifact.new_eq_ok hbuilt).1] at hpublic
          exact hpublic
        case locator => exact ⟨locator, hlocator⟩
        case aware =>
          by_contra hnaive
          rw [ArtifactProvenance.new,
            dif_pos (canonicalIdentity_valid context.identity_eq), dif_neg hnaive] at hprovenance
          cases hprovenance

/-! ## Calls that raise -/

/-- When the program raises, the file at the final URI is the one there was, and no temporary
file is there that was not. -/
def AtomicOnError {α : Type} (program : FileM α) (disk : Disk) : Prop :=
  ∀ error, program.result disk = .error error →
    (program.final disk).published = disk.published ∧
    (disk.staged = none → (program.final disk).staged = none) ∧
    ∀ index, disk.stagedShards index = none → (program.final disk).stagedShards index = none

/-- Where the call gets to its move, the file can be described, or the bytes that are moved are
those already at the final URI. -/
def Work.Harmless (faults : Faults) (request : Request tools.stdlib.unicode)
    (work : Work tools.stdlib.unicode Schema Batch) (disk : Disk) : Prop :=
  ∀ context bytes, work.Moves faults request disk context bytes →
    context.Describable ∨ disk.published = some bytes

/-- A file is described exactly when it can be. -/
theorem Context.exists_artifact_iff {context : Context tools request} (written : Written) :
    (∃ built, artifact tools context written = .ok built) ↔ context.Describable := by
  constructor
  · rintro ⟨built, hbuilt⟩
    exact Context.describable_of_artifact hbuilt
  · intro hdescribable
    obtain ⟨built, hbuilt, -⟩ := hdescribable.exists_artifact written
    exact ⟨built, hbuilt⟩

section Runs

variable {faults : Faults} {work : Work tools.stdlib.unicode Schema Batch}
  {context : Context tools request} {bytes : Bytes} {disk : Disk}

/-- A call that moves its file has the new bytes at the final URI, whether it can describe them
or not. -/
theorem Work.Moves.run (hmoves : work.Moves faults request disk context bytes) :
    ((∃ record, (work.run tools faults request).result disk = .ok record) ↔
        context.Describable) ∧
      ((work.run tools faults request).final disk).published = some bytes ∧
      ((work.run tools faults request).final disk).staged = none ∧
      ∀ index, disk.stagedShards index = none →
        ((work.run tools faults request).final disk).stagedShards index = none := by
  obtain ⟨digest, hreaches, hcurrent, hstanding, hmove⟩ := hmoves
  obtain ⟨ended, last, hended, hresult, hfinal⟩ := hreaches.run fun _ _ => hmove
  rw [Work.Ended, hcurrent] at hended
  obtain ⟨rfl, hmoved⟩ := hended
  rw [if_pos hstanding] at hmoved
  rw [hresult, hfinal]
  exact ⟨Context.exists_artifact_iff _, hmoved.published, rfl, hmoved.free⟩

/-- A call that does not move its file leaves the one that is there. -/
theorem kept_of_not_moves
    (hstays : ∀ context bytes, ¬ work.Moves faults request disk context bytes) :
    Kept disk ((work.run tools faults request).final disk) ∧
      (disk.staged = none → ((work.run tools faults request).final disk).staged = none) := by
  by_cases hreached : ∃ context bytes digest, work.Reaches faults request disk context bytes digest ∧
      work.MoveWorks faults context disk.published bytes digest
  case neg =>
    simp only [not_exists, not_and] at hreached
    obtain ⟨error, -, hkept, hstaged⟩ := run_of_not_reaches hreached
    exact ⟨hkept, hstaged⟩
  case pos =>
    obtain ⟨context, bytes, digest, hreaches, hmove⟩ := hreached
    obtain ⟨ended, last, hended, -, hfinal⟩ := hreaches.run hmove
    rw [hfinal]
    refine ⟨Kept.stage ?_ none, fun _ => rfl⟩
    rw [Work.Ended] at hended
    cases hcurrent : work.current faults context disk.published bytes digest with
    | some stored =>
        rw [hcurrent] at hended
        exact hended.2
    | none =>
        rw [hcurrent] at hended
        by_cases hstanding : work.standing faults context disk.published bytes digest = none
        · exact absurd ⟨digest, hreaches, hcurrent, hstanding, hmove hcurrent hstanding⟩
            (hstays context bytes)
        · simpa only [if_neg hstanding] using hended.2

/-- A call is atomic on error exactly when it is harmless, whatever its entry point, its faults and
the disk it finds. What raises up to the move leaves the old file; behind the move only the
description raises, and then the bytes that were moved are what counts. -/
theorem atomicOnError_run_iff (faults : Faults) (request : Request tools.stdlib.unicode)
    (work : Work tools.stdlib.unicode Schema Batch) (disk : Disk) :
    AtomicOnError (work.run tools faults request) disk ↔ work.Harmless faults request disk := by
  constructor
  · intro hatomic context bytes hmoves
    obtain ⟨hreturns, hpublished, -⟩ := hmoves.run
    cases hrun : (work.run tools faults request).result disk with
    | ok record => exact .inl (hreturns.mp ⟨record, hrun⟩)
    | error error => exact .inr ((hatomic error hrun).1.symm.trans hpublished)
  · intro hharmless error herror
    by_cases hmoved : ∃ context bytes, work.Moves faults request disk context bytes
    case pos =>
      obtain ⟨context, bytes, hmoves⟩ := hmoved
      obtain ⟨hreturns, hpublished, hstaged, hfree⟩ := hmoves.run
      have hsame : disk.published = some bytes := by
        apply (hharmless context bytes hmoves).resolve_left
        intro hdescribable
        obtain ⟨record, hrecord⟩ := hreturns.mpr hdescribable
        cases hrecord.symm.trans herror
      exact ⟨hpublished.trans hsame.symm, fun _ => hstaged, hfree⟩
    case neg =>
      simp only [not_exists] at hmoved
      obtain ⟨hkept, hstaged⟩ := kept_of_not_moves hmoved
      exact ⟨hkept.published, hstaged, hkept.free⟩

end Runs

/-! ## A query resource without a URL -/

/-- Tools with the digests of two texts: the new bytes of the file, and the name of the
resource. No Parquet file is read or written with them. -/
def queryTools : Tools Unit Unit where
  stdlib := ⟨UnicodeData.ascii, fun _ => none, fun _ => none⟩
  sha256 bytes :=
    if bytes = [110, 101, 119] then
      "11507a0e2f5e69d5dfa40a62a1bd7b6ee57e6bcd85c67c9b8431b36fff21c437"
    else "5ee97e6d95a79ea13ebcc81510e07a84f32b44e29f8db8d2fdea6ac7fbf384e2"
  sha256_valid bytes := by split <;> decide
  logicalSha256 _ _ := "11507a0e2f5e69d5dfa40a62a1bd7b6ee57e6bcd85c67c9b8431b36fff21c437"
  logicalSha256_valid _ _ := by decide
  writeParquet _ _ := []
  readParquet _ := none
  writeTable _ := []
  localUri _ := .error (.operation "RuntimeError")

/-- A resource behind a query endpoint, whose URL is not set. -/
def queryRequest : Request queryTools.stdlib.unicode where
  resource := ⟨"r", none, some "CSV", none, some (.query "https://portal.example/query")⟩
  destinationUri := "file:///data"
  sourceLocator := none
  createdAt := none
  transforms := []
  now := ⟨2024, 1, 1, 0, 0, 0, 0, some 0, by decide, by decide, by decide, by decide, by decide,
    by decide, by decide, by decide⟩
  now_utc := rfl

/-- Its reader hands out three bytes. -/
def queryReading : Work queryTools.stdlib.unicode Unit Unit :=
  .reading ⟨"raw", none, none, .error (.operation "ValueError"), .ok (.yield [110, 101, 119] .stop)⟩

/-- An older file is at the final URI. -/
def olderFile : Disk := ⟨some [111, 108, 100], none, fun _ => none, fun _ => none⟩

/-- The call raises, since there is no URL for a locator, and the older file is gone. -/
theorem query_replaces_file_and_raises :
    ¬ AtomicOnError (queryReading.run queryTools Faults.none queryRequest) olderFile := by
  intro hatomic
  have hraises : (queryReading.run queryTools Faults.none queryRequest).result olderFile =
      .error (.dataSluice "Artifact materialization requires a serializable source locator") := rfl
  have hreplaced : ((queryReading.run queryTools Faults.none queryRequest).final
      olderFile).published = some [110, 101, 119] := rfl
  have hkept := (hatomic _ hraises).1
  rw [hreplaced] at hkept
  cases hkept

end DataSluice.Sync.Materialize
