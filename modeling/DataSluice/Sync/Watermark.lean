/-
# The watermark of a completed state

After a file is published, its state is stored with the validator of the response as its
watermark: the entity tag as the server sent it, or the date, or the digest of the content
where there is neither. The store takes a digest, an entity tag in quotes that looks like no
secret, or a date with a zone.
-/

import DataSluice.Lib.Dict
import DataSluice.Sync.Health

namespace DataSluice.Sync.State

open DataSluice.Lib DataSluice.Lib.Url DataSluice.Domain DataSluice.Data
  DataSluice.Sync.Materialize

variable (stdlib : Stdlib)

/-! ## The producer -/

/-- `_preferred_watermark`; there are no headers where there was no response. -/
def preferredWatermark (headers : Option (List (String × String))) : Option String :=
  let lowered := fun header : String × String =>
    (String.ofList (stdlib.unicode.lower header.1.toList), header.2)
  match headers with
  | none => none
  | some headers =>
      let normalized := setAll (headers.map lowered) []
      (normalized.lookup "etag").orElse fun _ => normalized.lookup "last-modified"

/-- `fresh_watermark or checksum` of `_finish_resource_sync` -/
def completedWatermark (headers : Option (List (String × String)))
    (record : Domain.Artifact stdlib.unicode) : String :=
  ((preferredWatermark stdlib headers).filter (· ≠ "")).getD record.contentDigest.value

/-- A time that `datetime.now(UTC)` returns. -/
abbrev UtcTime := { time : DateTime // time.offset = some 0 }

/-- The state of a completed artifact is built, and the store takes it. -/
def StoresCompleted (stateKey : String) (headers : Option (List (String × String)))
    (record : Domain.Artifact stdlib.unicode) (sourceVersion : Option Checksum) (now : UtcTime) :
    Prop :=
  ∃ state, completedSyncState stdlib stateKey (completedWatermark stdlib headers record) record
      (sourceVersion.map Subtype.val) now.1 = some state ∧
    validateStateForWrite stdlib stateKey state = .ok ()

/-- The header that is chosen has the shape of a watermark; an empty one counts as none. -/
def HeaderStorable (headers : Option (List (String × String))) : Prop :=
  ∀ header, preferredWatermark stdlib headers = some header → header ≠ "" →
    isCompletedWatermark stdlib header = true

/-! ## What the store takes of it -/

variable {stdlib}

theorem isSha256_of_lower {value : String} (hlower : isLowerSha256 value = true) :
    isSha256 value = true := by
  simp only [isLowerSha256, Bool.and_eq_true, beq_iff_eq, List.all_eq_true] at hlower
  simp only [isSha256, Bool.and_eq_true, decide_eq_true_eq, List.all_eq_true]
  apply And.intro hlower.1
  intro character hmem
  have hdigit := hlower.2 character hmem
  rw [List.contains_iff_mem] at hdigit ⊢
  exact List.mem_of_mem_take (i := 16) hdigit

theorem isCompletedWatermark_of_sha256 (stdlib : Stdlib) {value : String} (hvalue : isSha256 value = true) :
    isCompletedWatermark stdlib value = true := by
  have hlength : value.length = 64 := by
    rw [isSha256, Bool.and_eq_true] at hvalue
    exact of_decide_eq_true hvalue.1
  have hne : ¬ (value = "" ∨ maxWatermarkLength < value.length) := by
    rintro (rfl | hlong)
    · cases hlength
    · rw [hlength] at hlong
      exact absurd hlong (by decide)
  rw [isCompletedWatermark, if_neg hne, if_pos hvalue]

/-- The watermark has the right shape when the header does. -/
theorem isCompletedWatermark_iff (headers : Option (List (String × String)))
    (record : Domain.Artifact stdlib.unicode) :
    isCompletedWatermark stdlib (completedWatermark stdlib headers record) = true ↔
      HeaderStorable stdlib headers := by
  unfold completedWatermark HeaderStorable
  cases hpreferred : preferredWatermark stdlib headers with
  | none =>
      have hdigest := isCompletedWatermark_of_sha256 stdlib
        (isSha256_of_lower record.contentDigest.valid)
      simpa using hdigest
  | some header =>
      by_cases hempty : header = ""
      · have hdigest := isCompletedWatermark_of_sha256 stdlib
          (isSha256_of_lower record.contentDigest.valid)
        simpa [Option.filter, hempty] using hdigest
      · simp [Option.filter, hempty]

theorem validateCursor_eq_ok_iff (key watermark : String) :
    validateCursor stdlib key (.dict [(.text key, .str watermark)]) = .ok () ↔
      isCompletedWatermark stdlib watermark = true := by
  cases hvalid : isCompletedWatermark stdlib watermark <;>
    simp [validateCursor, hvalid, storeError]

theorem validateLastSyncedAt_now (now : UtcTime) :
    validateLastSyncedAt stdlib (.str (String.ofList now.1.isoformat)) = .ok () := by
  have htext : now.1.isoformat = now.1.clockText ++ "+00:00".toList := by
    rw [DateTime.isoformat, now.2]
    rfl
  have hlength : now.1.isoformat.length ≤ maxTimestampLength := by
    have hclock := now.1.length_clockText
    rw [htext, List.length_append]
    exact Nat.le_trans (Nat.add_le_add_right hclock _) (by decide)
  have hne : now.1.isoformat ≠ [] := by
    rw [htext]
    exact List.append_ne_nil_of_right_ne_nil _ (by decide)
  have hshort : ¬ (String.ofList now.1.isoformat = "" ∨
      maxTimestampLength < (String.ofList now.1.isoformat).length) := by
    rw [String.length_ofList, String.ofList_eq_empty_iff]
    exact not_or.mpr ⟨hne, Nat.not_lt.mpr hlength⟩
  rw [validateLastSyncedAt, if_neg hshort, String.toList_ofList, Stdlib.fromisoformat,
    DateTime.parseIsoformat_isoformat]
  simp [now.2]

theorem validateCompletedArtifact_iff {record : Domain.Artifact stdlib.unicode} {stored : Value}
    (hstored : record.toDict = some stored) :
    validateCompletedArtifact stdlib stored = .ok () ↔ record.Storable := by
  unfold validateCompletedArtifact
  constructor
  · intro hvalid
    split at hvalid
    next reloaded hread => exact Artifact.storable_of_reload stdlib hstored hread
    next => cases hvalid
  · intro hstorable
    obtain ⟨same, reloaded, hsame, hread, -⟩ := Artifact.exists_reload stdlib record hstorable
    cases hstored.symm.trans hsame
    rw [hread]

/-- The source version that a sync computes is one. -/
theorem isSourceVersion_map (sourceVersion : Option Checksum) :
    isSourceVersion (ofOptional (sourceVersion.map Subtype.val)) = true := by
  cases sourceVersion with
  | none => rfl
  | some version => exact isSha256_of_lower version.2

theorem validateExtra_completed (stored : Value) (sourceVersion : Option Checksum) :
    validateExtra stdlib (.dict ((.text "datasluice_completed_artifact", stored) ::
        ((sourceVersion.map Subtype.val).map fun version =>
          (Key.text "datasluice_source_version", Value.str version)).toList)) =
      validateCompletedArtifact stdlib stored := by
  have hversion := isSourceVersion_map sourceVersion
  cases sourceVersion with
  | none =>
      cases hartifact : validateCompletedArtifact stdlib stored <;>
        simp [validateExtra, fieldsWithin, hartifact, isSourceVersion, bind, Except.bind]
  | some version =>
      have hsome : isSourceVersion (.str version.1) = true := hversion
      cases hartifact : validateCompletedArtifact stdlib stored <;>
        simp [validateExtra, fieldsWithin, hartifact, hsome, bind, Except.bind]

/-- What is stored has a watermark of the right shape. -/
theorem isCompletedWatermark_of_storesCompleted {stateKey : String}
    {headers : Option (List (String × String))} {record : Domain.Artifact stdlib.unicode}
    {sourceVersion : Option Checksum} {now : UtcTime}
    (hstores : StoresCompleted stdlib stateKey headers record sourceVersion now) :
    isCompletedWatermark stdlib (completedWatermark stdlib headers record) = true := by
  obtain ⟨state, hstate, hvalid⟩ := hstores
  have hcursor : state.cursor =
      .dict [(.text stateKey, .str (completedWatermark stdlib headers record))] := by
    rw [completedSyncState] at hstate
    obtain ⟨stored, -, hsome⟩ := Option.bind_eq_some_iff.mp hstate
    cases hsome
    rfl
  apply (validateCursor_eq_ok_iff stateKey _).mp
  rw [← hcursor]
  rw [validateStateForWrite] at hvalid
  cases hvalidated : validateCursor stdlib stateKey state.cursor with
  | error error =>
      rw [hvalidated] at hvalid
      cases hvalid
  | ok => rfl

/-- A completed state is stored exactly when the header it takes its watermark from has the
shape of one, and the artifact can be stored. -/
theorem storesCompleted_iff (stdlib : Stdlib) (stateKey : String)
    (headers : Option (List (String × String))) (record : Domain.Artifact stdlib.unicode)
    (sourceVersion : Option Checksum) (now : UtcTime) :
    StoresCompleted stdlib stateKey headers record sourceVersion now ↔
      HeaderStorable stdlib headers ∧ record.Storable := by
  unfold StoresCompleted
  cases hstored : record.toDict with
  | none =>
      constructor
      · rintro ⟨state, hstate, -⟩
        rw [completedSyncState, hstored] at hstate
        cases hstate
      · rintro ⟨-, hstorable⟩
        obtain ⟨stored, reloaded, hsome, -⟩ := Artifact.exists_reload stdlib record hstorable
        cases hstored.symm.trans hsome
  | some stored =>
      rw [← isCompletedWatermark_iff headers record, ← validateCompletedArtifact_iff hstored,
        ← validateCursor_eq_ok_iff stateKey]
      simp only [completedSyncState, hstored, Option.bind_eq_bind, Option.bind_some,
        Option.pure_def, Option.some.injEq, exists_eq_left', validateStateForWrite,
        validateLastSyncedAt_now, validateExtra_completed]
      cases validateCursor stdlib stateKey (.dict [(.text stateKey,
        .str (completedWatermark stdlib headers record))]) <;>
        simp [bind, Except.bind]

/-- An entity tag may contain the word `token`. The file is published by then, and no state
with that tag is stored. -/
theorem token_etag_refused :
    (∃ record, (memoryReading.run memoryTools Faults.none memoryRequest).result emptyDisk =
        .ok record) ∧
      ∀ stateKey record sourceVersion now, ¬ StoresCompleted memoryTools.stdlib stateKey
        (some [("ETag", "\"token-1\"")]) record sourceVersion now := by
  apply And.intro memoryReading_returns
  intro stateKey record sourceVersion now hstores
  have hheader := (isCompletedWatermark_iff _ record).mp
    (isCompletedWatermark_of_storesCompleted hstores)
  have hshape := hheader "\"token-1\"" (by decide) (by decide)
  revert hshape
  decide

end DataSluice.Sync.State
