/-
# The health of a fresh artifact

`destination_health` looks at the file that an artifact describes, and a sync with
`resume=True` hands back a completed artifact that is healthy. The URI it expects is put
together from the destination as the caller wrote it; the artifact carries the sanitized form
of the same URI. So a fresh artifact is healthy where sanitizing changes nothing.

What is looked at is a file system that answers: each URI has a file, or none, or looking at
it raises.
-/

import DataSluice.Sync.AtomicOnError
import DataSluice.Sync.State

namespace DataSluice.Sync.State

open DataSluice.Lib DataSluice.Lib.Url DataSluice.Domain DataSluice.Data
  DataSluice.Sync.Materialize

variable {Schema Batch : Type} (tools : Tools Schema Batch)

/-! ## `destination_health` -/

/-- A file system, by URI. -/
abbrev Files := String → Except Failure (Option Bytes)

/-- `destination_health`. Whatever looking at the file raises, the artifact is not healthy. -/
def destinationHealth (files : Files) (resource : Resource)
    (record : Domain.Artifact tools.stdlib.unicode) (destinationUri : String) :
    Except Failure Bool :=
  match canonicalIdentity tools resource with
  | .error failure => .error failure
  | .ok identity =>
      if record.uri ≠
          expectedUri destinationUri identity record.provenance.materializationMode then .ok false
      else
        match files record.uri with
        | .error _ => .ok false
        | .ok none => .ok false
        | .ok (some bytes) =>
            if (bytes.length : Int) ≠ record.size then .ok false
            else .ok (tools.sha256 bytes == record.blobDigest.value)

/-! ## A sync that resumes -/

/-- `SyncOutcome`, with the artifact as a whole. -/
structure Outcome (unicode : UnicodeData) where
  action : SyncAction
  record : Option (Domain.Artifact unicode)

/-- `_resume_outcome`: the outcome, if there is one. -/
def resumeOutcome (files : Files) (resource : Resource) (prior : Option SyncState)
    (destinationUri : String) (resume : Bool) :
    Except Failure (Option (Outcome tools.stdlib.unicode)) :=
  match completedArtifactRecord tools.stdlib prior with
  | none => .ok none
  | some completed =>
      if resume then do
        let healthy ← destinationHealth tools files resource completed destinationUri
        pure (if healthy then some ⟨.resumed, some completed⟩ else none)
      else .ok none

/-- `kind in ("query", "stream")` -/
def isUnsupported (resource : Resource) : Bool :=
  match resource.access with
  | some (.query _) | some (.stream _) => true
  | _ => false

/-- The outcome that `sync_resources` has for a resource before it looks at the source, if
there is one: the beginning of the loop, with that of `_load_sync_context`. -/
def earlyOutcome (files : Files) (resource : Resource) (prior : Option SyncState)
    (destinationUri : String) (resume : Bool) :
    Except (StateError ⊕ Failure) (Option (Outcome tools.stdlib.unicode)) :=
  if isUnsupported resource then .ok (some ⟨.skippedUnsupported, none⟩)
  else
    match prior.elim (.ok none) decodeCheckpoint with
    | .error error => .error (.inl error)
    | .ok checkpoint =>
        match resumeOutcome tools files resource prior destinationUri
            (resume && checkpoint.isNone) with
        | .error failure => .error (.inr failure)
        | .ok outcome => .ok outcome

/-! ## Healthy artifacts -/

variable {tools}

/-- A healthy artifact carries the expected URI, and describes the file that is there. -/
theorem destinationHealth_eq_true_iff {files : Files} {resource : Resource}
    {record : Domain.Artifact tools.stdlib.unicode} {destinationUri : String} :
    destinationHealth tools files resource record destinationUri = .ok true ↔
      ∃ identity bytes, canonicalIdentity tools resource = .ok identity ∧
        record.uri = expectedUri destinationUri identity record.provenance.materializationMode ∧
        files record.uri = .ok (some bytes) ∧ (bytes.length : Int) = record.size ∧
        tools.sha256 bytes = record.blobDigest.value := by
  constructor
  · intro hhealth
    unfold destinationHealth at hhealth
    split at hhealth
    · cases hhealth
    next identity hidentity =>
      split at hhealth
      · cases hhealth
      next huri =>
        split at hhealth
        · cases hhealth
        · cases hhealth
        next bytes hfile =>
          split at hhealth
          · cases hhealth
          next hsize =>
            exact ⟨identity, bytes, hidentity, not_not.mp huri, hfile, not_not.mp hsize,
              beq_iff_eq.mp (Except.ok.inj hhealth)⟩
  · rintro ⟨identity, bytes, hidentity, huri, hfile, hsize, hdigest⟩
    simp only [destinationHealth, hidentity, if_neg (not_not.mpr huri), hfile,
      if_neg (not_not.mpr hsize), hdigest, beq_self_eq_true]

/-- Health is about the file. -/
theorem destinationHealth_congr {first second : Domain.Artifact tools.stdlib.unicode}
    (hsame : Artifact.SameFile first second) (files : Files) (resource : Resource)
    (destinationUri : String) :
    destinationHealth tools files resource first destinationUri =
      destinationHealth tools files resource second destinationUri := by
  simp only [destinationHealth, hsame.uri, hsame.size, hsame.blobDigest, hsame.mode]

/-- What is asked of a fresh artifact: it is healthy, it is so after it is stored and reloaded,
and a second sync with `resume=True` hands it back, whatever the watermark and the source
version it was stored with. -/
structure Lasting (files : Files) (resource : Resource) (destinationUri : String)
    (record : Domain.Artifact tools.stdlib.unicode) : Prop where
  fresh : destinationHealth tools files resource record destinationUri = .ok true
  reloaded : ∃ stored reloaded, record.toDict = some stored ∧
    Artifact.fromDict tools.stdlib stored = .ok reloaded ∧
    destinationHealth tools files resource reloaded destinationUri = .ok true
  resumed : isUnsupported resource = false → ∀ stateKey watermark sourceVersion now,
    ∃ state reloaded, completedSyncState tools.stdlib stateKey watermark record sourceVersion now =
        some state ∧
      earlyOutcome tools files resource (some state) destinationUri true =
        .ok (some ⟨.resumed, some reloaded⟩)

/-- The state of a completed artifact is read as that artifact, and as no checkpoint. -/
theorem completedArtifactRecord_completed {record reloaded : Domain.Artifact tools.stdlib.unicode}
    {entries : List (Key × Value)} {state : SyncState} {stateKey watermark : String}
    {sourceVersion : Option String} {now : DateTime} (hstored : record.toDict = some (.dict entries))
    (hreloaded : Artifact.fromDict tools.stdlib (.dict entries) = .ok reloaded)
    (hstate : completedSyncState tools.stdlib stateKey watermark record sourceVersion now =
      some state) :
    completedArtifactRecord tools.stdlib (some state) = some reloaded ∧
      decodeCheckpoint state = .ok none := by
  rw [completedSyncState, hstored] at hstate
  cases hstate
  constructor
  · simp only [completedArtifactRecord, Option.map_some, getField, List.lookup_cons, beq_self_eq_true,
      Option.getD_some, hreloaded]
    rfl
  · cases sourceVersion <;> rfl

/-- A healthy artifact that can be stored lasts. -/
theorem lasting_of_storable {files : Files} {resource : Resource} {destinationUri : String}
    {record : Domain.Artifact tools.stdlib.unicode} (hstorable : record.Storable)
    (hfresh : destinationHealth tools files resource record destinationUri = .ok true) :
    Lasting files resource destinationUri record := by
  obtain ⟨stored, reloaded, hstored, hread, hsame⟩ :=
    Artifact.exists_reload tools.stdlib record hstorable
  have hhealth := (destinationHealth_congr hsame files resource destinationUri).trans hfresh
  constructor
  case fresh => exact hfresh
  case reloaded => exact ⟨stored, reloaded, hstored, hread, hhealth⟩
  case resumed =>
    intro hsupported stateKey watermark sourceVersion now
    cases hstate : completedSyncState tools.stdlib stateKey watermark record sourceVersion now with
    | none =>
        rw [completedSyncState, hstored] at hstate
        cases hstate
    | some state =>
        cases stored with
        | dict entries =>
            obtain ⟨hrecord, hcheckpoint⟩ :=
              completedArtifactRecord_completed hstored hread hstate
            apply Exists.intro state
            apply Exists.intro reloaded
            apply And.intro rfl
            simp only [earlyOutcome, hsupported, Bool.false_eq_true, if_false, Option.elim_some,
              hcheckpoint, resumeOutcome, hrecord, Option.isNone_none, Bool.and_self, if_true,
              hhealth, bind, Except.bind, pure, Except.pure]
        | _ => cases hread

/-! ## When a fresh artifact lasts -/

variable {request : Request tools.stdlib.unicode} {faults : Faults}
  {work : Work tools.stdlib.unicode Schema Batch} {disk : Disk}

variable (faults request work disk)

/-- What a new artifact of the request says of the source can be stored: its time has a form in
UTC, and its locator is still a valid one when its URI is sanitized. -/
def DescriptionStorable : Prop :=
  (request.createdAt.getD request.now).astimezoneUtc.isSome = true ∧
    ∀ locator, sourceLocator tools request = .ok locator → locator.Storable

/-- The file at the final URI has the size and the digest of an artifact. -/
def Describes (record : Domain.Artifact tools.stdlib.unicode) : Prop :=
  ∃ bytes, disk.published = some bytes ∧ (bytes.length : Int) = record.size ∧
    tools.sha256 bytes = record.blobDigest.value

/-- The conditions under which the artifact of a call lasts. Sanitizing leaves its final URI as
it is. What it says can be stored. And where the stored artifact is handed back, the file at
the final URI is already the one that it describes. -/
structure Accountable : Prop where
  uri : ∀ identity, canonicalIdentity tools request.resource = .ok identity →
    sanitizeUri tools.stdlib.unicode (expectedUri request.destinationUri identity (modeOf work)) =
      expectedUri request.destinationUri identity (modeOf work)
  kept : ∀ stored, work.HandsBack faults request disk stored →
    stored.Storable ∧ Describes disk stored
  built : (∀ stored, ¬ work.HandsBack faults request disk stored) → DescriptionStorable request

/-- The file of the call is untouched: its final URI has the file that the call left there. -/
def FileUntouched (files : Files) : Prop :=
  ∀ identity, canonicalIdentity tools request.resource = .ok identity →
    files (expectedUri request.destinationUri identity (modeOf work)) =
      .ok ((work.run tools faults request).final disk).published

variable {faults request work disk}

/-- What a new artifact says. -/
theorem artifact_eq_ok {context : Context tools request} {written : Written}
    {built : Domain.Artifact tools.stdlib.unicode}
    (hbuilt : Materialize.artifact tools context written = .ok built) :
    built.uri = sanitizeUri tools.stdlib.unicode context.finalUri ∧ built.size = written.size ∧
      built.blobDigest.value = written.blobDigest ∧
      built.provenance.materializationMode = context.mode ∧
      built.provenance.createdAt = request.createdAt.getD request.now ∧
      sourceLocator tools request = .ok built.provenance.sourceLocator := by
  simp only [Materialize.artifact, Digest.new_sha256 written.content_valid,
    Digest.new_sha256 written.blob_valid, asFailure, context.identity_eq, bind,
    Except.bind] at hbuilt
  cases hlocator : sourceLocator tools request with
  | error error => simp [hlocator] at hbuilt
  | ok locator =>
    cases hprovenance : ArtifactProvenance.new tools.stdlib.unicode locator context.identity
        (request.createdAt.getD request.now) context.mode request.transforms with
    | error error => simp [hlocator, hprovenance] at hbuilt
    | ok provenance =>
      cases hnew : Domain.Artifact.new tools.stdlib.unicode
          (sanitizeUri tools.stdlib.unicode context.finalUri) context.mediaType written.size
          ⟨written.contentDigest, written.content_valid⟩ ⟨written.blobDigest, written.blob_valid⟩
          provenance [] [] with
      | error error => simp [hlocator, hprovenance, hnew] at hbuilt
      | ok found =>
        simp only [hlocator, hprovenance, hnew] at hbuilt
        cases hbuilt
        obtain ⟨huri, -, hsize, -, hdigest, hkept⟩ := Artifact.new_eq_ok hnew
        obtain ⟨hsource, htime, hmode⟩ :=
          ArtifactProvenance.new_eq_ok tools.stdlib.unicode hprovenance
        rw [huri, hsize, hdigest, hkept, hsource, htime, hmode]
        exact ⟨rfl, rfl, rfl, rfl, rfl, rfl⟩

/-- A call that hands back the stored artifact leaves the file as it was. -/
theorem run_of_handsBack {stored : Domain.Artifact tools.stdlib.unicode}
    (hhands : work.HandsBack faults request disk stored) :
    (work.run tools faults request).result disk = .ok stored ∧
      ((work.run tools faults request).final disk).published = disk.published := by
  obtain ⟨context, bytes, digest, hreaches, hcurrent⟩ := hhands
  obtain ⟨ended, last, hended, hresult, hfinal⟩ := hreaches.run fun hnone =>
    nomatch hcurrent.symm.trans hnone
  rw [Work.Ended, hcurrent] at hended
  obtain ⟨rfl, hkept⟩ := hended
  rw [hresult, hfinal]
  exact ⟨rfl, hkept.published⟩

/-- A call that returns leaves the file that its artifact describes, unless it hands back the
stored one. The artifact carries the sanitized final URI. -/
theorem run_describes {record : Domain.Artifact tools.stdlib.unicode}
    (hrun : (work.run tools faults request).result disk = .ok record) :
    ∃ identity, canonicalIdentity tools request.resource = .ok identity ∧
      record.uri = sanitizeUri tools.stdlib.unicode
        (expectedUri request.destinationUri identity (modeOf work)) ∧
      record.provenance.materializationMode = modeOf work ∧
      ((work.HandsBack faults request disk record ∧
          ((work.run tools faults request).final disk).published = disk.published) ∨
        ((∀ stored, ¬ work.HandsBack faults request disk stored) ∧
          Describes ((work.run tools faults request).final disk) record ∧
          (record.Storable ↔ DescriptionStorable request))) := by
  by_cases hreached : ∃ context bytes digest,
      work.Reaches faults request disk context bytes digest ∧
        work.MoveWorks faults context disk.published bytes digest
  case neg =>
    simp only [not_exists, not_and] at hreached
    obtain ⟨error, hraises, -⟩ := run_of_not_reaches hreached
    cases hraises.symm.trans hrun
  case pos =>
    obtain ⟨context, bytes, digest, hreaches, hmove⟩ := hreached
    have huri : context.finalUri =
        expectedUri request.destinationUri context.identity (modeOf work) := by
      rw [Context.finalUri, hreaches.mode]
    refine ⟨context.identity, context.identity_eq, ?_⟩
    rw [← huri, ← hreaches.mode]
    cases hcurrent : work.current faults context disk.published bytes digest with
    | some stored =>
        have hhands : work.HandsBack faults request disk stored :=
          ⟨context, bytes, digest, hreaches, hcurrent⟩
        obtain ⟨hresult, hkept⟩ := run_of_handsBack hhands
        cases hresult.symm.trans hrun
        obtain ⟨hsame, hmode⟩ := Work.eq_of_current hcurrent
        exact ⟨hsame, hmode, .inl ⟨hhands, hkept⟩⟩
    | none =>
        obtain ⟨ended, last, hended, hresult, hfinal⟩ := hreaches.run hmove
        rw [Work.Ended, hcurrent] at hended
        obtain ⟨rfl, hlast⟩ := hended
        have hfile : last.published =
            some (work.described faults context disk.published bytes digest) := by
          by_cases hstanding : work.standing faults context disk.published bytes digest = none
          · rw [if_pos hstanding] at hlast
            rw [Work.described_of_standing hstanding]
            exact hlast.published
          · rw [if_neg hstanding] at hlast
            exact hlast.published.trans (Work.published_of_standing hstanding)
        obtain ⟨hsanitized, hsize, hdigest, hkept, htime, hlocator⟩ :=
          artifact_eq_ok (hresult.symm.trans hrun)
        refine ⟨hsanitized, hkept, .inr ⟨?_, ?_, ?_⟩⟩
        · rintro stored ⟨other, found, checksum, hagain, hback⟩
          obtain ⟨rfl, rfl, rfl⟩ := hreaches.unique hagain
          cases hcurrent.symm.trans hback
        · rw [hfinal]
          exact ⟨_, hfile, hsize.symm, hdigest.symm⟩
        · rw [Artifact.Storable, DescriptionStorable, htime, hlocator]
          apply and_congr_right
          intro _
          constructor
          · intro hstorable locator hsame
            cases hsame
            exact hstorable
          · intro hall
            exact hall _ rfl

/-- A call's artifact lasts, while its file is untouched, exactly when the call is accountable
for it. -/
theorem lasting_iff_accountable (faults : Faults) (request : Request tools.stdlib.unicode)
    (work : Work tools.stdlib.unicode Schema Batch) (disk : Disk) :
    (∀ record, (work.run tools faults request).result disk = .ok record →
      ∀ files, FileUntouched request faults work disk files →
        Lasting files request.resource request.destinationUri record) ↔
      ∀ record, (work.run tools faults request).result disk = .ok record →
        Accountable request faults work disk := by
  constructor
  · intro hlasting record hrun
    obtain ⟨identity, hidentity, huri, hmode, hcases⟩ := run_describes hrun
    have hlasts := hlasting record hrun (fun _ => .ok _) fun _ _ => rfl
    obtain ⟨other, bytes, hother, hexpected, hfile, hsize, hdigest⟩ :=
      destinationHealth_eq_true_iff.mp hlasts.fresh
    cases hidentity.symm.trans hother
    obtain ⟨stored, reloaded, hstored, hread, -⟩ := hlasts.reloaded
    have hstorable := Artifact.storable_of_reload tools.stdlib hstored hread
    constructor
    case uri =>
      intro same hsame
      cases hidentity.symm.trans hsame
      rw [← huri, hexpected, hmode]
    case kept =>
      intro handed hhands
      cases hcases with
      | inl hback =>
          cases (run_of_handsBack hhands).1.symm.trans hrun
          refine ⟨hstorable, bytes, ?_, hsize, hdigest⟩
          rw [← hback.2]
          exact Except.ok.inj hfile
      | inr hnew => exact absurd hhands (hnew.1 handed)
    case built =>
      intro hnone
      cases hcases with
      | inl hback => exact absurd hback.1 (hnone record)
      | inr hnew => exact hnew.2.2.mp hstorable
  · intro haccountable record hrun files huntouched
    obtain ⟨identity, hidentity, huri, hmode, hcases⟩ := run_describes hrun
    have hcalls := haccountable record hrun
    rw [hcalls.uri identity hidentity] at huri
    have hboth : record.Storable ∧
        Describes ((work.run tools faults request).final disk) record := by
      cases hcases with
      | inl hback =>
          obtain ⟨hstorable, bytes, hbytes, hsame⟩ := hcalls.kept record hback.1
          exact ⟨hstorable, bytes, hback.2.trans hbytes, hsame⟩
      | inr hnew => exact ⟨hnew.2.2.mpr (hcalls.built hnew.1), hnew.2.1⟩
    obtain ⟨hstorable, bytes, hbytes, hsize, hdigest⟩ := hboth
    apply lasting_of_storable hstorable
    apply destinationHealth_eq_true_iff.mpr
    refine ⟨identity, bytes, hidentity, ?_, ?_, hsize, hdigest⟩
    · rw [huri, hmode]
    · rw [huri, huntouched identity hidentity, hbytes]

/-! ## A destination without an authority -/

theorem isLowerSha256_file : isLowerSha256
    "11507a0e2f5e69d5dfa40a62a1bd7b6ee57e6bcd85c67c9b8431b36fff21c437" = true := by decide

theorem isLowerSha256_name : isLowerSha256
    "bf3ab891d1fa8df66d8f37dd65f9c53679dffd527c9f224d25a3b697100bec02" = true := by decide

/-- Tools with the digests of two other texts: the bytes of the file, and the name of the
resource. -/
def memoryTools : Tools Unit Unit :=
  { queryTools with
    sha256 := fun bytes =>
      if bytes = [110, 101, 119] then
        "11507a0e2f5e69d5dfa40a62a1bd7b6ee57e6bcd85c67c9b8431b36fff21c437"
      else "bf3ab891d1fa8df66d8f37dd65f9c53679dffd527c9f224d25a3b697100bec02"
    sha256_valid := by
      intro bytes
      split
      · exact isLowerSha256_file
      · exact isLowerSha256_name
    localUri := fun path => .ok ("file://" ++ path) }

/-- A local file is copied to a memory file system. -/
def memoryRequest : Request memoryTools.stdlib.unicode where
  resource := ⟨"r", none, some "CSV", none, some (.localFile "/data/r.csv")⟩
  destinationUri := "memory:///out"
  sourceLocator := none
  createdAt := none
  transforms := []
  now := queryRequest.now
  now_utc := queryRequest.now_utc

/-- Its reader hands out three bytes. -/
def memoryReading : Work memoryTools.stdlib.unicode Unit Unit :=
  .reading ⟨"raw", none, none, .error (.operation "ValueError"),
    .ok (.yield [110, 101, 119] .stop)⟩

/-- Nothing is there before the call. -/
def emptyDisk : Disk := ⟨none, none, fun _ => none, fun _ => none⟩

/-- The call returns. -/
theorem memoryReading_returns :
    ∃ record, (memoryReading.run memoryTools Faults.none memoryRequest).result emptyDisk =
      .ok record := by
  have hreturns : ((memoryReading.run memoryTools Faults.none memoryRequest).result
      emptyDisk).isOk = true := by decide +kernel
  cases hrun : (memoryReading.run memoryTools Faults.none memoryRequest).result emptyDisk with
  | error failure =>
      rw [hrun] at hreturns
      cases hreturns
  | ok record => exact ⟨record, rfl⟩

/-- The artifact's URI is `memory:/out/…`, and no health check expects that one. -/
theorem memory_artifact_unhealthy :
    ¬ ∀ record, (memoryReading.run memoryTools Faults.none memoryRequest).result emptyDisk =
        .ok record →
      ∀ files, FileUntouched memoryRequest Faults.none memoryReading emptyDisk files →
        Lasting files memoryRequest.resource memoryRequest.destinationUri record := by
  intro hlasting
  obtain ⟨record, hrun⟩ := memoryReading_returns
  obtain ⟨identity, hidentity, huri, hmode, -⟩ := run_describes hrun
  have hlasts := hlasting record hrun (fun _ => .ok _) fun _ _ => rfl
  obtain ⟨other, -, hother, hexpected, -⟩ := destinationHealth_eq_true_iff.mp hlasts.fresh
  cases hidentity.symm.trans hother
  have hname : canonicalIdentity memoryTools memoryRequest.resource =
      .ok "bf3ab891d1fa8df66d8f37dd65f9c53679dffd527c9f224d25a3b697100bec02" := by
    have hdigest : memoryTools.sha256 ("local:/data/r.csv" ++ "/" ++ "r").toUTF8.toList =
        "bf3ab891d1fa8df66d8f37dd65f9c53679dffd527c9f224d25a3b697100bec02" := by
      decide +kernel
    exact congrArg Except.ok hdigest
  cases hidentity.symm.trans hname
  rw [hmode, huri] at hexpected
  revert hexpected
  decide

end DataSluice.Sync.State
