/-
# Which reports read back

Reading an envelope builds its outcomes and its report again, with every check of the
constructors. All of them pass a second time but the ones on the length of a text, since
sanitizing may have made a text longer than the constructor allows. A report reads back exactly
when no text of it has become too long, and it then reads back as itself.
-/

import DataSluice.Contracts.ReportRoundTrip

namespace DataSluice.Contracts

open DataSluice.Lib DataSluice.Domain

/-! ## Lists read item by item -/

section Reading

variable {Item Stored : Type} {write : Item → Stored} {read : Stored → Except ReportError Item}

theorem mapM_written {items : List Item} (hread : ∀ item ∈ items, read (write item) = .ok item) :
    (items.map write).mapM read = .ok items := by
  induction items with
  | nil => rfl
  | cons item items ih =>
      rw [List.forall_mem_cons] at hread
      rw [List.map_cons, List.mapM_cons, hread.1, ih hread.2]
      rfl

theorem exists_read_of_mapM {items : List Item} {again : List Item}
    (h : (items.map write).mapM read = .ok again) : ∀ item ∈ items, ∃ value,
      read (write item) = .ok value := by
  induction items generalizing again with
  | nil => exact fun _ hmem => absurd hmem List.not_mem_nil
  | cons item items ih =>
      rw [List.map_cons, List.mapM_cons] at h
      cases hhead : read (write item) with
      | error error =>
          rw [hhead] at h
          cases h
      | ok head =>
          rw [hhead] at h
          obtain ⟨tail, htail, -⟩ := map_eq_ok h
          exact List.forall_mem_cons.mpr ⟨⟨head, hhead⟩, ih htail⟩

end Reading

/-! ## Mappings -/

/-- The entries of a sanitized mapping: each was kept frozen, or left out. -/
theorem sanitizeEntries_cons_eq_ok {allowed : List String} {path : String} {entry : Key × Value}
    {entries frozen : List (Key × Value)}
    (h : sanitizeEntries allowed path (entry :: entries) = .ok frozen) :
    sanitizeEntries allowed path entries = .ok frozen ∨
      ∃ key head tail, allowed.contains key = true ∧
        freezeJson (path ++ "." ++ key) entry.2 = .ok head ∧
        sanitizeEntries allowed path entries = .ok tail ∧ frozen = (.text key, head) :: tail := by
  obtain ⟨key | _, nested⟩ := entry
  · rw [sanitizeEntries] at h
    split at h
    · next hallowed =>
        split at h
        · cases h
        · next head hhead =>
            obtain ⟨tail, htail, rfl⟩ := map_eq_ok h
            exact .inr ⟨key, head, tail, hallowed, hhead, htail, rfl⟩
    · exact .inl h
  · exact .inl h

theorem sanitizeEntries_cons_text {allowed : List String} {path key : String} {nested : Value}
    {entries : List (Key × Value)} (hallowed : allowed.contains key = true) :
    sanitizeEntries allowed path ((.text key, nested) :: entries) =
      match freezeJson (path ++ "." ++ key) nested with
      | .error error => .error error
      | .ok frozen => (sanitizeEntries allowed path entries).map ((.text key, frozen) :: ·) := by
  rw [sanitizeEntries]
  exact if_pos hallowed

/-- A sanitized mapping is sanitized to itself, when its strings fit. -/
theorem sanitizeEntries_thawed {allowed : List String} {path : String}
    {entries frozen : List (Key × Value)} (h : sanitizeEntries allowed path entries = .ok frozen)
    (hfits : ∀ text ∈ textsOfEntries frozen, Fits text) :
    sanitizeEntries allowed path (thawJsonEntries frozen) = .ok frozen := by
  induction entries generalizing frozen with
  | nil =>
      cases h
      rfl
  | cons entry entries ih =>
      rcases sanitizeEntries_cons_eq_ok h with
        hskipped | ⟨key, head, tail, hallowed, hhead, htail, rfl⟩
      · exact ih hskipped hfits
      · have hboth := List.forall_mem_append.mp hfits
        rw [thawJsonEntries, sanitizeEntries_cons_text hallowed,
          freezeJson_thawed _ entry.2 hhead hboth.1, ih htail hboth.2]
        rfl

/-- The strings of a sanitized mapping that is sanitized again fit. -/
theorem fits_of_sanitizeEntries {allowed : List String} {path : String}
    {entries frozen again : List (Key × Value)}
    (h : sanitizeEntries allowed path entries = .ok frozen)
    (hagain : sanitizeEntries allowed path (thawJsonEntries frozen) = .ok again) :
    ∀ text ∈ textsOfEntries frozen, Fits text := by
  induction entries generalizing frozen again with
  | nil =>
      cases h
      exact fun _ hmem => absurd hmem List.not_mem_nil
  | cons entry entries ih =>
      rcases sanitizeEntries_cons_eq_ok h with
        hskipped | ⟨key, head, tail, hallowed, -, htail, rfl⟩
      · exact ih hskipped hagain
      · rw [thawJsonEntries, sanitizeEntries_cons_text hallowed] at hagain
        split at hagain
        · cases hagain
        · next stored hstored =>
            obtain ⟨rest, hrest, -⟩ := map_eq_ok hagain
            have hhead := fits_of_freezeJson _ _ hstored
            rw [texts_thawJson] at hhead
            exact List.forall_mem_append.mpr ⟨hhead, ih htail hrest⟩

theorem sanitizeMapping_stored_iff {allowed : List String} {path : String} {given : Value}
    {frozen : List (Key × Value)} (h : sanitizeMapping allowed path given = .ok frozen) :
    (∃ again, sanitizeMapping allowed path (.dict (thawJsonEntries frozen)) = .ok again) ↔
      ∀ text ∈ textsOfEntries frozen, Fits text := by
  have hentries : ∃ entries, sanitizeEntries allowed path entries = .ok frozen := by
    cases given with
    | dict entries | proxy entries => exact ⟨entries, h⟩
    | none | bool _ | int _ | float _ | str _ | list _ | tuple _ | other => cases h
  obtain ⟨entries, hentries⟩ := hentries
  constructor
  · rintro ⟨again, hagain⟩
    exact fits_of_sanitizeEntries hentries hagain
  · exact fun hfits => ⟨frozen, sanitizeEntries_thawed hentries hfits⟩

/-- A sanitized mapping that is sanitized again stays as it is. -/
theorem sanitizeMapping_stored {allowed : List String} {path : String} {given : Value}
    {frozen : List (Key × Value)} (h : sanitizeMapping allowed path given = .ok frozen)
    (hfits : ∀ text ∈ textsOfEntries frozen, Fits text) :
    sanitizeMapping allowed path (.dict (thawJsonEntries frozen)) = .ok frozen := by
  cases given with
  | dict entries | proxy entries =>
      have hfrozen : sanitizeEntries allowed path entries = .ok frozen := h
      exact sanitizeEntries_thawed hfrozen hfits
  | none | bool _ | int _ | float _ | str _ | list _ | tuple _ | other => cases h

/-! ## Outcomes -/

namespace CaseOutcome

/-- No text of the outcome has become too long. -/
structure TextsFit (outcome : CaseOutcome) : Prop where
  warnings : ∀ text ∈ outcome.warnings, Fits text
  evidence : ∀ text ∈ textsOfEntries outcome.evidence, Fits text
  metadata : ∀ text ∈ textsOfEntries outcome.platformMetadata, Fits text

/-- The constructor on what the envelope of an outcome holds. -/
def rebuild (outcome : CaseOutcome) : Except ReportError CaseOutcome :=
  new outcome.operationId outcome.mode.text outcome.capability.text outcome.state.text outcome.tier
    outcome.warnings (.dict (thawJsonEntries outcome.evidence))
    (.dict (thawJsonEntries outcome.platformMetadata))

theorem ofText_mode (mode : Mode) : Mode.ofText mode.text = some mode := by
  cases mode <;> decide

theorem ofText_capability (capability : Availability) :
    Availability.ofText capability.text = some capability := by
  cases capability <;> decide

theorem ofText_state (state : OutcomeState) : OutcomeState.ofText state.text = some state := by
  cases state <;> decide

/-- The fields of an envelope. -/
def entries (outcome : CaseOutcome) : List (String × Value) :=
  [("operation_id", .str outcome.operationId), ("mode", .str outcome.mode.text),
    ("capability", .str outcome.capability.text), ("state", .str outcome.state.text),
    ("tier", .str outcome.tier), ("warnings", .list (outcome.warnings.map .str)),
    ("evidence", thawJson (.proxy outcome.evidence)),
    ("platform_metadata", thawJson (.proxy outcome.platformMetadata))]

theorem hasKeys_entries (outcome : CaseOutcome) : hasKeys fields outcome.entries = true := by
  simp [hasKeys, fields, entries]

theorem fromDict_toDict (outcome : CaseOutcome) : fromDict outcome.toDict = outcome.rebuild := by
  have hfield : ∀ name {value}, outcome.entries.lookup name = some value →
      fieldOf outcome.entries name = value := fun _ _ h => by rw [fieldOf, h, Option.getD_some]
  have hmodes : ¬((Mode.ofText outcome.mode.text).isNone ∨
      (Availability.ofText outcome.capability.text).isNone ∨
        (OutcomeState.ofText outcome.state.text).isNone) := by
    rw [ofText_mode, ofText_capability, ofText_state]
    simp
  have htexts : (outcome.warnings.map Value.str).mapM ArtifactProvenance.textOf =
      some outcome.warnings := by
    rw [List.mapM_map]
    exact mapM_textOf outcome.warnings
  unfold fromDict
  rw [show outcome.toDict = record outcome.entries from rfl, objectDict_record]
  simp only [hasKeys_entries, Bool.not_true, Bool.false_eq_true, if_false]
  rw [hfield "operation_id" rfl, hfield "mode" rfl, hfield "capability" rfl, hfield "state" rfl,
    hfield "tier" rfl, hfield "warnings" rfl, hfield "evidence" rfl,
    hfield "platform_metadata" rfl]
  simp only [thawJson, htexts]
  exact if_neg hmodes

/-- The outcome is built again, when its texts fit. -/
theorem rebuild_of_textsFit {outcome : CaseOutcome} (hfits : outcome.TextsFit) :
    outcome.rebuild = .ok outcome := by
  obtain ⟨givenWarnings, hgivenWarnings⟩ := outcome.warnings_sanitized
  obtain ⟨givenEvidence, hgivenEvidence⟩ := outcome.evidence_frozen
  obtain ⟨givenMetadata, hgivenMetadata⟩ := outcome.metadata_frozen
  have hwarnings := sanitizeWarnings_stored hgivenWarnings hfits.warnings
  have hevidence := sanitizeMapping_stored hgivenEvidence hfits.evidence
  have hmetadata := sanitizeMapping_stored hgivenMetadata hfits.metadata
  have hoperation := not_or.mpr (outcome.operationId_fits.imp_right Nat.not_lt.mpr)
  have htier := not_or.mpr (outcome.tier_fits.imp_right Nat.not_lt.mpr)
  rw [rebuild, new, dif_neg hoperation, ofText_mode, ofText_capability, ofText_state]
  simp only
  rw [dif_neg htier]
  split
  · next error herror =>
      rw [hwarnings] at herror
      cases herror
  · next warnings hstored =>
      rw [hwarnings] at hstored
      cases hstored
      split
      · next error herror =>
          rw [hevidence] at herror
          cases herror
      · next evidence hstored =>
          rw [hevidence] at hstored
          cases hstored
          split
          · next error herror =>
              rw [hmetadata] at herror
              cases herror
          · next metadata hstored =>
              rw [hmetadata] at hstored
              cases hstored
              rfl

/-- What is built passed every check on its texts. -/
theorem sanitized_of_new {operationId mode capability state tier : String} {warnings : List String}
    {evidence platformMetadata : Value} {built : CaseOutcome}
    (h : new operationId mode capability state tier warnings evidence platformMetadata = .ok built) :
    (∃ stored, sanitizeWarnings "outcome.warnings" warnings = .ok stored) ∧
      (∃ stored, sanitizeMapping evidenceFields "outcome.evidence" evidence = .ok stored) ∧
        ∃ stored, sanitizeMapping metadataFields "outcome.platform_metadata" platformMetadata =
          .ok stored := by
  unfold new reportError at h
  split at h
  · cases h
  split at h
  · split at h
    · cases h
    split at h
    · cases h
    next sanitized hwarnings =>
      split at h
      · cases h
      next frozenEvidence hevidence =>
        split at h
        · cases h
        next frozenMetadata hmetadata =>
          exact ⟨⟨sanitized, hwarnings⟩, ⟨frozenEvidence, hevidence⟩, ⟨frozenMetadata, hmetadata⟩⟩
  · cases h

theorem textsFit_of_rebuild {outcome again : CaseOutcome} (h : outcome.rebuild = .ok again) :
    outcome.TextsFit := by
  obtain ⟨⟨_, hwarnings⟩, hevidence, hmetadata⟩ := sanitized_of_new h
  obtain ⟨_, hgivenEvidence⟩ := outcome.evidence_frozen
  obtain ⟨_, hgivenMetadata⟩ := outcome.metadata_frozen
  exact ⟨fits_of_sanitizeWarnings hwarnings,
    (sanitizeMapping_stored_iff hgivenEvidence).mp hevidence,
    (sanitizeMapping_stored_iff hgivenMetadata).mp hmetadata⟩

end CaseOutcome

/-! ## Identities -/

/-- An identity is no longer than the constructor allows. -/
def IdentityFits (value : Option String) : Prop := ∀ text ∈ value, text.length ≤ 128

theorem identity_stored {path : String} {given stored : Option String}
    (h : identity path given = .ok stored) (hfits : IdentityFits stored) :
    identity path stored = .ok stored := by
  cases given with
  | none =>
      cases h
      rfl
  | some text =>
      rw [identity] at h
      split at h
      · cases h
      · next hlength =>
          obtain ⟨kept, hkept, rfl⟩ := map_eq_ok h
          have hshort : kept.length ≤ 128 := hfits kept rfl
          have hne : kept ≠ "" := by
            rw [(sanitizeText_eq_ok hkept).2]
            exact sanitize_ne_empty (not_or.mp hlength).1
          rw [identity, if_neg (not_or.mpr ⟨hne, Nat.not_lt.mpr hshort⟩),
            sanitizeText_stored hkept (hshort.trans (by decide))]
          rfl

theorem identityFits_of_identity {path : String} {stored again : Option String}
    (h : identity path stored = .ok again) : IdentityFits stored := by
  rintro text rfl
  rw [identity] at h
  split at h
  · cases h
  · next hlength => exact Nat.not_lt.mp (not_or.mp hlength).2

theorem bind_eq_ok_iff {α β ε : Type} {result : Except ε α} {f : α → Except ε β} {value : β} :
    (result >>= f) = .ok value ↔ ∃ raw, result = .ok raw ∧ f raw = .ok value := by
  cases result with
  | error error =>
      constructor
      · intro h
        cases h
      · rintro ⟨raw, hraw, -⟩
        cases hraw
  | ok raw =>
      constructor
      · exact fun h => ⟨raw, rfl, h⟩
      · rintro ⟨_, hraw, h⟩
        cases hraw
        exact h

namespace Identities

/-- No identity has become too long. -/
structure TextsFit (identities : Identities) : Prop where
  connectorId : IdentityFits identities.connectorId
  manifestVersion : IdentityFits identities.manifestVersion
  profileVersion : IdentityFits identities.profileVersion
  fixtureFingerprint : IdentityFits identities.fixtureFingerprint
  contractSchemaVersion : IdentityFits identities.contractSchemaVersion
  generatedAt : IdentityFits identities.generatedAt

/-- Every identity was sanitized on its own. -/
theorem sanitized_eq_ok_iff {given stored : Identities} : given.sanitized = .ok stored ↔
    identity "report.connector_id" given.connectorId = .ok stored.connectorId ∧
      identity "report.manifest_version" given.manifestVersion = .ok stored.manifestVersion ∧
      identity "report.profile_version" given.profileVersion = .ok stored.profileVersion ∧
      identity "report.fixture_fingerprint" given.fixtureFingerprint =
        .ok stored.fixtureFingerprint ∧
      identity "report.contract_schema_version" given.contractSchemaVersion =
        .ok stored.contractSchemaVersion ∧
      identity "report.generated_at" given.generatedAt = .ok stored.generatedAt := by
  simp only [sanitized, bind_eq_ok_iff]
  constructor
  · rintro ⟨_, hconnector, _, hmanifest, _, hprofile, _, hfixture, _, hschema, _, htime, hstored⟩
    cases hstored
    exact ⟨hconnector, hmanifest, hprofile, hfixture, hschema, htime⟩
  · rintro ⟨hconnector, hmanifest, hprofile, hfixture, hschema, htime⟩
    exact ⟨_, hconnector, _, hmanifest, _, hprofile, _, hfixture, _, hschema, _, htime, rfl⟩

theorem sanitized_stored {given stored : Identities} (h : given.sanitized = .ok stored)
    (hfits : stored.TextsFit) : stored.sanitized = .ok stored := by
  rw [sanitized_eq_ok_iff] at h ⊢
  obtain ⟨hconnector, hmanifest, hprofile, hfixture, hschema, htime⟩ := h
  exact ⟨identity_stored hconnector hfits.connectorId,
    identity_stored hmanifest hfits.manifestVersion, identity_stored hprofile hfits.profileVersion,
    identity_stored hfixture hfits.fixtureFingerprint,
    identity_stored hschema hfits.contractSchemaVersion, identity_stored htime hfits.generatedAt⟩

theorem textsFit_of_sanitized {stored again : Identities} (h : stored.sanitized = .ok again) :
    stored.TextsFit := by
  rw [sanitized_eq_ok_iff] at h
  obtain ⟨hconnector, hmanifest, hprofile, hfixture, hschema, htime⟩ := h
  exact ⟨identityFits_of_identity hconnector, identityFits_of_identity hmanifest,
    identityFits_of_identity hprofile, identityFits_of_identity hfixture,
    identityFits_of_identity hschema, identityFits_of_identity htime⟩

end Identities

/-! ## Expected cases -/

theorem mem_sortedSet {texts : List String} {text : String} :
    text ∈ sortedSet texts ↔ text ∈ texts := by
  rw [sortedSet, List.mem_insertionSort, List.mem_dedup]

theorem length_sortedSet_le (texts : List String) : (sortedSet texts).length ≤ texts.length := by
  rw [sortedSet, List.length_insertionSort]
  exact (List.dedup_sublist texts).length_le

theorem sortedSet_sortedSet (texts : List String) : sortedSet (sortedSet texts) = sortedSet texts := by
  have hnodup : (sortedSet texts).Nodup :=
    (List.perm_insertionSort _ _).nodup_iff.mpr (List.nodup_dedup texts)
  have hsorted : (sortedSet texts).Pairwise (· ≤ ·) := List.pairwise_insertionSort _ _
  rw [sortedSet, List.dedup_eq_self.mpr hnodup, hsorted.insertionSort_eq]

/-- Stored cases fit as the given ones did. -/
theorem ExpectedFit.sortedSet {outcomes : List CaseOutcome} {given : List String}
    (h : ExpectedFit outcomes given) : ExpectedFit outcomes (sortedSet given) :=
  ⟨(length_sortedSet_le given).trans h.1, fun caseId hmem => h.2.1 caseId (mem_sortedSet.mp hmem),
    fun _ hmem => mem_sortedSet.mpr (h.2.2 hmem)⟩

/-! ## Reports -/

namespace ComplianceReport

/-- No text of the report or of an outcome has become too long. -/
structure TextsFit (report : ComplianceReport) : Prop where
  outcomes : ∀ outcome ∈ report.outcomes, outcome.TextsFit
  identities : report.identities.TextsFit
  warnings : ∀ text ∈ report.warnings, Fits text
  metadata : ∀ text ∈ textsOfEntries report.platformMetadata, Fits text

/-- The constructor on what the envelope of a report holds. -/
def rebuild (report : ComplianceReport) : Except ReportError ComplianceReport := do
  new (← (report.outcomes.map CaseOutcome.toDict).mapM CaseOutcome.fromDict) report.identities
    report.expectedCaseIds report.warnings (.dict (thawJsonEntries report.platformMetadata))

/-- The fields of an envelope. -/
def entries (report : ComplianceReport) : List (String × Value) :=
  [("schema_version", .int 1), ("connector_id", ofOptional report.identities.connectorId),
    ("manifest_version", ofOptional report.identities.manifestVersion),
    ("profile_version", ofOptional report.identities.profileVersion),
    ("fixture_fingerprint", ofOptional report.identities.fixtureFingerprint),
    ("contract_schema_version", ofOptional report.identities.contractSchemaVersion),
    ("generated_at", ofOptional report.identities.generatedAt),
    ("expected_case_ids", .list (report.expectedCaseIds.map .str)),
    ("outcomes", .list (report.outcomes.map CaseOutcome.toDict)),
    ("warnings", .list (report.warnings.map .str)),
    ("platform_metadata", thawJson (.proxy report.platformMetadata))]

theorem hasKeys_entries (report : ComplianceReport) : hasKeys fields report.entries = true := by
  simp [hasKeys, fields, entries]

theorem identityOf_ofOptional (value : Option String) : identityOf (ofOptional value) = .ok value := by
  cases value <;> rfl

theorem textsOf_written (texts : List String) : textsOf (.list (texts.map .str)) = .ok texts := by
  have hread : (texts.map Value.str).mapM ArtifactProvenance.textOf = some texts := by
    rw [List.mapM_map]
    exact mapM_textOf texts
  rw [textsOf, hread]

theorem fromDict_toDict (report : ComplianceReport) : fromDict report.toDict = report.rebuild := by
  have hfield : ∀ name {value}, report.entries.lookup name = some value →
      fieldOf report.entries name = value := fun _ _ h => by rw [fieldOf, h, Option.getD_some]
  have hversion : pyEq (.int 1) (.int 1) = true := by simp [pyEq, sameNumber, wholeNumber]
  have haccepted : ¬(!hasKeys fields report.entries ∨
      pyEq (fieldOf report.entries "schema_version") (.int 1) = false) := by
    rw [hasKeys_entries, hfield "schema_version" rfl, hversion]
    simp
  unfold fromDict
  rw [show report.toDict = record report.entries from rfl, objectDict_record]
  simp only
  rw [if_neg haccepted, hfield "connector_id" rfl, hfield "manifest_version" rfl,
    hfield "profile_version" rfl, hfield "fixture_fingerprint" rfl,
    hfield "contract_schema_version" rfl, hfield "generated_at" rfl,
    hfield "expected_case_ids" rfl, hfield "outcomes" rfl, hfield "warnings" rfl,
    hfield "platform_metadata" rfl]
  simp only [identityOf_ofOptional, textsOf_written, bind, Except.bind, thawJson]
  rfl

/-- Stored cases are named: there is an outcome, and it has its own. -/
theorem expectedCaseIds_ne_nil (report : ComplianceReport) : report.expectedCaseIds ≠ [] := by
  obtain ⟨given, hgiven, hstored⟩ := report.expected_sorted
  obtain ⟨outcome, houtcome⟩ := List.exists_mem_of_ne_nil _ report.outcomes_fit.1
  intro hnil
  have hid : outcome.caseId ∈ report.outcomes.map CaseOutcome.caseId := List.mem_map_of_mem houtcome
  have hmem := mem_sortedSet.mpr (hgiven.2.2 hid)
  rw [← hstored, hnil] at hmem
  cases hmem

/-- The report is built again, when its texts fit. -/
theorem rebuild_of_textsFit {report : ComplianceReport} (hfits : report.TextsFit) :
    report.rebuild = .ok report := by
  obtain ⟨_, hgivenIdentities⟩ := report.identities_sanitized
  obtain ⟨given, hgiven, hstored⟩ := report.expected_sorted
  obtain ⟨_, hgivenWarnings⟩ := report.warnings_sanitized
  obtain ⟨_, hgivenMetadata⟩ := report.metadata_frozen
  have hidentities := Identities.sanitized_stored hgivenIdentities hfits.identities
  have hwarnings := sanitizeWarnings_stored hgivenWarnings hfits.warnings
  have hmetadata := sanitizeMapping_stored hgivenMetadata hfits.metadata
  have houtcomes : (report.outcomes.map CaseOutcome.toDict).mapM CaseOutcome.fromDict =
      .ok report.outcomes := by
    apply mapM_written
    intro outcome hmem
    rw [CaseOutcome.fromDict_toDict, CaseOutcome.rebuild_of_textsFit (hfits.outcomes outcome hmem)]
  have hexpected : ExpectedFit report.outcomes report.expectedCaseIds := by
    rw [hstored]
    exact hgiven.sortedSet
  have hsorted : sortedSet report.expectedCaseIds = report.expectedCaseIds := by
    rw [hstored, sortedSet_sortedSet]
  rw [rebuild, houtcomes]
  show new report.outcomes report.identities report.expectedCaseIds report.warnings
    (.dict (thawJsonEntries report.platformMetadata)) = .ok report
  rw [new, dif_pos report.outcomes_fit]
  split
  · next error herror =>
      rw [hidentities] at herror
      cases herror
  · next identities hkept =>
      rw [hidentities] at hkept
      cases hkept
      simp only [if_neg report.expectedCaseIds_ne_nil, dif_pos hexpected, hsorted]
      split
      · next error herror =>
          rw [hwarnings] at herror
          cases herror
      · next warnings hkept =>
          rw [hwarnings] at hkept
          cases hkept
          split
          · next error herror =>
              rw [hmetadata] at herror
              cases herror
          · next metadata hkept =>
              rw [hmetadata] at hkept
              cases hkept
              rfl

/-- What is built passed every check on its texts. -/
theorem sanitized_of_new {outcomes : List CaseOutcome} {identities : Identities}
    {expectedCaseIds warnings : List String} {platformMetadata : Value} {built : ComplianceReport}
    (h : new outcomes identities expectedCaseIds warnings platformMetadata = .ok built) :
    (∃ stored, identities.sanitized = .ok stored) ∧
      (∃ stored, sanitizeWarnings "report.warnings" warnings = .ok stored) ∧
        ∃ stored, sanitizeMapping metadataFields "report.platform_metadata" platformMetadata =
          .ok stored := by
  unfold new reportError at h
  split at h
  · split at h
    · cases h
    next kept hidentities =>
      by_cases hexpected : ExpectedFit outcomes
          (if expectedCaseIds = [] then outcomes.map CaseOutcome.caseId else expectedCaseIds)
      · rw [dif_pos hexpected] at h
        split at h
        · cases h
        next sanitized hwarnings =>
          split at h
          · cases h
          next frozen hmetadata =>
            exact ⟨⟨kept, hidentities⟩, ⟨sanitized, hwarnings⟩, ⟨frozen, hmetadata⟩⟩
      · rw [dif_neg hexpected] at h
        cases h
  · cases h

theorem textsFit_of_rebuild {report again : ComplianceReport} (h : report.rebuild = .ok again) :
    report.TextsFit := by
  obtain ⟨outcomes, houtcomes, hnew⟩ := bind_eq_ok_iff.mp h
  obtain ⟨⟨_, hidentities⟩, ⟨_, hwarnings⟩, hmetadata⟩ := sanitized_of_new hnew
  obtain ⟨_, hgivenMetadata⟩ := report.metadata_frozen
  constructor
  case outcomes =>
    intro outcome hmem
    obtain ⟨value, hread⟩ := exists_read_of_mapM houtcomes outcome hmem
    rw [CaseOutcome.fromDict_toDict] at hread
    exact CaseOutcome.textsFit_of_rebuild hread
  case identities => exact Identities.textsFit_of_sanitized hidentities
  case warnings => exact fits_of_sanitizeWarnings hwarnings
  case metadata => exact (sanitizeMapping_stored_iff hgivenMetadata).mp hmetadata

/-- A report reads back, as itself and with its fingerprint, exactly when none of its texts has
become longer than the constructor allows. -/
theorem reads_back_iff (digests : Digests) (report : ComplianceReport) :
    (∃ again, fromDict report.toDict = .ok again ∧ again = report ∧
      again.fingerprint digests = report.fingerprint digests) ↔ report.TextsFit := by
  rw [fromDict_toDict]
  constructor
  · rintro ⟨again, hread, -, -⟩
    exact textsFit_of_rebuild hread
  · exact fun hfits => ⟨report, rebuild_of_textsFit hfits, rfl, rfl⟩

/-- A connector's identity of 128 characters, the last of which are those of a credential. -/
def longIdentity : String := String.ofList (List.replicate 121 'x' ++ "token=x".toList)

/-- A report on one case, by a connector of this identity. -/
def reportBy (connectorId : String) : Except ReportError ComplianceReport := do
  let outcome ← CaseOutcome.new "dataset.get" "sync" "available" "passed" "core" [] (.dict [])
    (.dict [])
  new [outcome] ⟨some connectorId, none, none, none, none, none⟩ [] [] (.dict [])

/-- The identity that a report on one case stores is too long. -/
theorem long_identity_stored : ∃ report, reportBy longIdentity = .ok report ∧
    ∃ connectorId ∈ report.identities.connectorId, 128 < connectorId.length := by
  have hbuilt : (match reportBy longIdentity with
      | .ok report => report.identities.connectorId.any fun connectorId => 128 < connectorId.length
      | .error _ => false) = true := by decide +kernel
  split at hbuilt
  · next report hreport =>
      obtain ⟨connectorId, hstored, hlength⟩ := Option.any_eq_true _ _ |>.mp hbuilt
      exact ⟨report, hreport, connectorId, hstored, of_decide_eq_true hlength⟩
  · cases hbuilt

/-- The constructor accepts it, and no report reads back from its envelope. -/
theorem long_identity_unreadable : ∃ report, reportBy longIdentity = .ok report ∧
    ∀ again, fromDict report.toDict ≠ .ok again := by
  obtain ⟨report, hreport, connectorId, hstored, hlength⟩ := long_identity_stored
  refine ⟨report, hreport, fun again hread => ?_⟩
  rw [fromDict_toDict] at hread
  exact absurd ((textsFit_of_rebuild hread).identities.connectorId connectorId hstored)
    (Nat.not_le.mpr hlength)

end ComplianceReport

end DataSluice.Contracts
