/-
# Compliance reports

A contract run leaves a report of one outcome for each case. Free text is sanitized when an
outcome or a report is built: what stands behind the name of a credential is replaced. Nested
values are frozen within bounds on their sizes. `to_dict` writes plain dictionaries and lists, and
`from_dict` builds the report again from them, under the same checks.
-/

import Mathlib.Data.List.Dedup
import Mathlib.Data.List.Sort
import Mathlib.Data.String.Basic
import DataSluice.Domain.JsonValue
import DataSluice.Lib.Regex

namespace DataSluice.Contracts

open DataSluice.Lib DataSluice.Domain

/-- The `ValueError` that names the field it refuses. -/
structure ReportError where
  path : String
  deriving DecidableEq

def ReportError.message (error : ReportError) : String :=
  "Invalid catalog contract report at " ++ error.path

/-- `_report_error` raised at a path. -/
def reportError {α : Type} (path : String) : Except ReportError α := .error ⟨path⟩

/-! ## Sanitized text -/

/-- The code points of white space, `\s`. -/
def spaceCodes : List UInt32 :=
  [9, 10, 11, 12, 13, 28, 29, 30, 31, 32, 133, 160, 5760, 8192, 8193, 8194, 8195, 8196, 8197, 8198,
    8199, 8200, 8201, 8202, 8232, 8233, 8239, 8287, 12288]

def isSpace (character : Char) : Bool := spaceCodes.contains character.val

/-- The small letter that a character is the same as, where the case is ignored. Four characters
outside ASCII are the same as a small ASCII letter. -/
def foldCase (character : Char) : Char :=
  if character.val = 0x130 ∨ character.val = 0x131 then 'i'
  else if character.val = 0x17F then 's'
  else if character.val = 0x212A then 'k'
  else character.toLower

/-- A literal of small letters, the case ignored. -/
def anyCase (letters : String) : Regex :=
  Regex.literal (fun letter character => foldCase character == letter) letters.toList

/-- `[-_ ]` -/
def isGap (character : Char) : Bool := character == '-' || character == '_' || character == ' '

/-- `[:=]` -/
def isSign (character : Char) : Bool := character == ':' || character == '='

/-- `[^\s,;]` -/
def isValueChar (character : Char) : Bool :=
  !isSpace character && character != ',' && character != ';'

/-- `authorization|api[-_ ]?key|token|secret|password|cookie` -/
def keyword : Regex :=
  Regex.oneOf
    [anyCase "authorization",
      .seq (anyCase "api") (.seq (Regex.optional (.test isGap)) (anyCase "key")),
      anyCase "token", anyCase "secret", anyCase "password", anyCase "cookie"]

/-- `\s*(?:bearer\s+)?[^\s,;]+` -/
def secretValue : Regex :=
  .seq (.repeated isSpace)
    (.seq (Regex.optional (.seq (anyCase "bearer") (Regex.oneOrMore isSpace)))
      (Regex.oneOrMore isValueChar))

/-- `\s*[:=]\s*(?:bearer\s+)?[^\s,;]+` -/
def secretTail : Regex := .seq (.repeated isSpace) (.seq (.test isSign) secretValue)

/-- `_SECRET_PATTERN` -/
def secretPattern : Regex := .seq (.group keyword) secretTail

/-- What is written behind the name of a credential. -/
def redactedMark : List Char := [':', ' ', '[', 'R', 'E', 'D', 'A', 'C', 'T', 'E', 'D', ']']

/-- `f"{match.group(1)}: [REDACTED]"` -/
def redaction (groups : List (List Char)) : List Char := groups.headD [] ++ redactedMark

/-- `_SECRET_PATTERN.sub` -/
def sanitize (text : String) : String :=
  String.ofList (secretPattern.sub redaction none 0 text.toList)

/-- `_sanitize_text` -/
def sanitizeText (path value : String) : Except ReportError String :=
  if 256 < value.length then reportError path else .ok (sanitize value)

/-- `_identity` -/
def identity (path : String) : Option String → Except ReportError (Option String)
  | none => .ok none
  | some value =>
      if value = "" ∨ 128 < value.length then reportError path
      else (sanitizeText path value).map some

/-- The warnings of an outcome or a report: their number, and then each of them. -/
def sanitizeWarnings (path : String) (warnings : List String) : Except ReportError (List String) :=
  if 32 < warnings.length then reportError path else warnings.mapM (sanitizeText path)

/-! ## Frozen values -/

mutual

/-- `_freeze_json` -/
def freezeJson (path : String) : Value → Except ReportError Value
  | .none => .ok .none
  | .bool value => .ok (.bool value)
  | .int value => .ok (.int value)
  | .str value => (sanitizeText path value).map .str
  | .dict entries =>
      if 32 < entries.length then reportError path
      else (freezeEntries path entries).map .proxy
  | .proxy entries =>
      if 32 < entries.length then reportError path
      else (freezeEntries path entries).map .proxy
  | .tuple items =>
      if 32 < items.length then reportError path else (freezeItems path items).map .tuple
  | .list items =>
      if 32 < items.length then reportError path else (freezeItems path items).map .tuple
  | .float _ => reportError path
  | .other => reportError path

/-- The loop of `_freeze_json_object`. -/
def freezeEntries (path : String) : List (Key × Value) → Except ReportError (List (Key × Value))
  | [] => .ok []
  | (.other _, _) :: _ => reportError path
  | (.text key, nested) :: entries =>
      if 64 < key.length then reportError path
      else
        match freezeJson (path ++ "." ++ key) nested with
        | .error error => .error error
        | .ok frozen => (freezeEntries path entries).map ((.text key, frozen) :: ·)

/-- The generator expression of `_freeze_json_sequence`. -/
def freezeItems (path : String) : List Value → Except ReportError (List Value)
  | [] => .ok []
  | nested :: items =>
      match freezeJson path nested with
      | .error error => .error error
      | .ok frozen => (freezeItems path items).map (frozen :: ·)

end

/-- The comprehension of `_sanitize_mapping`: other keys are left out. -/
def sanitizeEntries (allowed : List String) (path : String) :
    List (Key × Value) → Except ReportError (List (Key × Value))
  | [] => .ok []
  | (.other _, _) :: entries => sanitizeEntries allowed path entries
  | (.text key, nested) :: entries =>
      if allowed.contains key then
        match freezeJson (path ++ "." ++ key) nested with
        | .error error => .error error
        | .ok frozen => (sanitizeEntries allowed path entries).map ((.text key, frozen) :: ·)
      else sanitizeEntries allowed path entries

/-- `_sanitize_mapping` -/
def sanitizeMapping (allowed : List String) (path : String) :
    Value → Except ReportError (List (Key × Value))
  | .dict entries => sanitizeEntries allowed path entries
  | .proxy entries => sanitizeEntries allowed path entries
  | _ => reportError path

/-- `_METADATA_FIELDS` -/
def metadataFields : List String := ["platform", "fixture", "environment", "profile_version"]

/-- `_EVIDENCE_FIELDS` -/
def evidenceFields : List String :=
  ["fixture_fingerprint", "evidence_fingerprint", "classification"]

/-! ## Outcomes -/

inductive Mode
  | sync
  | async
  deriving DecidableEq

def Mode.text : Mode → String
  | sync => "sync"
  | async => "async"

def Mode.ofText (text : String) : Option Mode := [sync, async].find? (·.text == text)

inductive Availability
  | available
  | unavailable
  deriving DecidableEq

def Availability.text : Availability → String
  | available => "available"
  | unavailable => "unavailable"

def Availability.ofText (text : String) : Option Availability :=
  [available, unavailable].find? (·.text == text)

/-- `_OUTCOME_STATES` -/
inductive OutcomeState
  | passed
  | failed
  | blocked
  deriving DecidableEq

def OutcomeState.text : OutcomeState → String
  | passed => "passed"
  | failed => "failed"
  | blocked => "blocked"

def OutcomeState.ofText (text : String) : Option OutcomeState :=
  [passed, failed, blocked].find? (·.text == text)

/-- `CaseOutcome` -/
structure CaseOutcome where
  operationId : String
  mode : Mode
  capability : Availability
  state : OutcomeState
  tier : String
  warnings : List String
  evidence : List (Key × Value)
  platformMetadata : List (Key × Value)
  operationId_fits : operationId ≠ "" ∧ operationId.length ≤ 256
  tier_fits : tier ≠ "" ∧ tier.length ≤ 64
  warnings_sanitized : ∃ given, sanitizeWarnings "outcome.warnings" given = .ok warnings
  evidence_frozen : ∃ given,
    sanitizeMapping evidenceFields "outcome.evidence" given = .ok evidence
  metadata_frozen : ∃ given,
    sanitizeMapping metadataFields "outcome.platform_metadata" given = .ok platformMetadata

namespace CaseOutcome

/-- The constructor. -/
def new (operationId mode capability state tier : String) (warnings : List String)
    (evidence platformMetadata : Value) : Except ReportError CaseOutcome :=
  if hoperation : operationId = "" ∨ 256 < operationId.length then
    reportError "outcome.operation_id"
  else
    match Mode.ofText mode, Availability.ofText capability, OutcomeState.ofText state with
    | some mode, some capability, some state =>
        if htier : tier = "" ∨ 64 < tier.length then reportError "outcome"
        else
          match hwarnings : sanitizeWarnings "outcome.warnings" warnings with
          | .error error => .error error
          | .ok sanitized =>
              match hevidence : sanitizeMapping evidenceFields "outcome.evidence" evidence with
              | .error error => .error error
              | .ok frozenEvidence =>
                  match hmetadata : sanitizeMapping metadataFields "outcome.platform_metadata"
                      platformMetadata with
                  | .error error => .error error
                  | .ok frozenMetadata =>
                      .ok
                        { operationId := operationId
                          mode := mode
                          capability := capability
                          state := state
                          tier := tier
                          warnings := sanitized
                          evidence := frozenEvidence
                          platformMetadata := frozenMetadata
                          operationId_fits := (not_or.mp hoperation).imp_right Nat.not_lt.mp
                          tier_fits := (not_or.mp htier).imp_right Nat.not_lt.mp
                          warnings_sanitized := ⟨warnings, hwarnings⟩
                          evidence_frozen := ⟨evidence, hevidence⟩
                          metadata_frozen := ⟨platformMetadata, hmetadata⟩ }
    | _, _, _ => reportError "outcome"

/-- `case_id` -/
def caseId (outcome : CaseOutcome) : String :=
  outcome.operationId ++ "[" ++ outcome.tier ++ "][" ++ outcome.mode.text ++ "]"

/-- `to_dict` -/
def toDict (outcome : CaseOutcome) : Value :=
  record
    [("operation_id", .str outcome.operationId), ("mode", .str outcome.mode.text),
      ("capability", .str outcome.capability.text), ("state", .str outcome.state.text),
      ("tier", .str outcome.tier), ("warnings", .list (outcome.warnings.map .str)),
      ("evidence", thawJson (.proxy outcome.evidence)),
      ("platform_metadata", thawJson (.proxy outcome.platformMetadata))]

def fields : List String :=
  ["operation_id", "mode", "capability", "state", "tier", "warnings", "evidence",
    "platform_metadata"]

/-- `from_dict`. The constructor makes the checks of the three literals once more. -/
def fromDict (value : Value) : Except ReportError CaseOutcome :=
  match objectDict "outcome" value with
  | .error _ => reportError "outcome"
  | .ok data =>
      if !hasKeys fields data then reportError "outcome"
      else
        match fieldOf data "operation_id", fieldOf data "mode", fieldOf data "capability",
            fieldOf data "state", fieldOf data "tier", fieldOf data "warnings",
            fieldOf data "evidence", fieldOf data "platform_metadata" with
        | .str operationId, .str mode, .str capability, .str state, .str tier, .list warnings,
            .dict evidence, .dict metadata =>
            match warnings.mapM ArtifactProvenance.textOf with
            | none => reportError "outcome"
            | some warnings =>
                if (Mode.ofText mode).isNone ∨ (Availability.ofText capability).isNone ∨
                    (OutcomeState.ofText state).isNone then reportError "outcome"
                else
                  new operationId mode capability state tier warnings (.dict evidence)
                    (.dict metadata)
        | _, _, _, _, _, _, _, _ => reportError "outcome"

end CaseOutcome

/-! ## Reports -/

/-- `sorted(set(…))` -/
def sortedSet (texts : List String) : List String := texts.dedup.insertionSort (· ≤ ·)

/-- The optional identities of a report. -/
structure Identities where
  connectorId : Option String
  manifestVersion : Option String
  profileVersion : Option String
  fixtureFingerprint : Option String
  contractSchemaVersion : Option String
  generatedAt : Option String
  deriving DecidableEq

/-- The loop over the identities. -/
def Identities.sanitized (given : Identities) : Except ReportError Identities := do
  let connectorId ← identity "report.connector_id" given.connectorId
  let manifestVersion ← identity "report.manifest_version" given.manifestVersion
  let profileVersion ← identity "report.profile_version" given.profileVersion
  let fixtureFingerprint ← identity "report.fixture_fingerprint" given.fixtureFingerprint
  let contractSchemaVersion ← identity "report.contract_schema_version" given.contractSchemaVersion
  let generatedAt ← identity "report.generated_at" given.generatedAt
  return ⟨connectorId, manifestVersion, profileVersion, fixtureFingerprint, contractSchemaVersion,
    generatedAt⟩

/-- What is expected of the outcomes: their number, and one for each case. -/
def OutcomesFit (outcomes : List CaseOutcome) : Prop :=
  outcomes ≠ [] ∧ outcomes.length ≤ 4096 ∧ (outcomes.map CaseOutcome.caseId).Nodup

instance (outcomes : List CaseOutcome) : Decidable (OutcomesFit outcomes) :=
  inferInstanceAs (Decidable (_ ∧ _ ∧ _))

/-- What is expected of the cases: they are named, and every outcome has its own. -/
def ExpectedFit (outcomes : List CaseOutcome) (expected : List String) : Prop :=
  expected.length ≤ 4096 ∧ (∀ caseId ∈ expected, caseId ≠ "" ∧ caseId.length ≤ 384) ∧
    outcomes.map CaseOutcome.caseId ⊆ expected

instance (outcomes : List CaseOutcome) (expected : List String) :
    Decidable (ExpectedFit outcomes expected) :=
  inferInstanceAs (Decidable (_ ∧ (∀ _ ∈ _, _ ∧ _) ∧ _))

/-- `ComplianceReport` -/
structure ComplianceReport where
  outcomes : List CaseOutcome
  identities : Identities
  expectedCaseIds : List String
  warnings : List String
  platformMetadata : List (Key × Value)
  outcomes_fit : OutcomesFit outcomes
  identities_sanitized : ∃ given : Identities, given.sanitized = .ok identities
  expected_sorted : ∃ given, ExpectedFit outcomes given ∧ expectedCaseIds = sortedSet given
  warnings_sanitized : ∃ given, sanitizeWarnings "report.warnings" given = .ok warnings
  metadata_frozen : ∃ given,
    sanitizeMapping metadataFields "report.platform_metadata" given = .ok platformMetadata

namespace ComplianceReport

/-- The constructor. -/
def new (outcomes : List CaseOutcome) (identities : Identities) (expectedCaseIds : List String)
    (warnings : List String) (platformMetadata : Value) : Except ReportError ComplianceReport :=
  if houtcomes : OutcomesFit outcomes then
    match hidentities : identities.sanitized with
    | .error error => .error error
    | .ok sanitizedIdentities =>
        if hexpected : ExpectedFit outcomes
            (if expectedCaseIds = [] then outcomes.map CaseOutcome.caseId else expectedCaseIds) then
          match hwarnings : sanitizeWarnings "report.warnings" warnings with
          | .error error => .error error
          | .ok sanitized =>
              match hmetadata : sanitizeMapping metadataFields "report.platform_metadata"
                  platformMetadata with
              | .error error => .error error
              | .ok frozenMetadata =>
                  .ok
                    { outcomes := outcomes
                      identities := sanitizedIdentities
                      expectedCaseIds := sortedSet
                        (if expectedCaseIds = [] then outcomes.map CaseOutcome.caseId
                        else expectedCaseIds)
                      warnings := sanitized
                      platformMetadata := frozenMetadata
                      outcomes_fit := houtcomes
                      identities_sanitized := ⟨identities, hidentities⟩
                      expected_sorted := ⟨_, hexpected, rfl⟩
                      warnings_sanitized := ⟨warnings, hwarnings⟩
                      metadata_frozen := ⟨platformMetadata, hmetadata⟩ }
        else reportError "report.expected_case_ids"
  else reportError "report.outcomes"

/-- `to_dict` -/
def toDict (report : ComplianceReport) : Value :=
  record
    [("schema_version", .int 1), ("connector_id", ofOptional report.identities.connectorId),
      ("manifest_version", ofOptional report.identities.manifestVersion),
      ("profile_version", ofOptional report.identities.profileVersion),
      ("fixture_fingerprint", ofOptional report.identities.fixtureFingerprint),
      ("contract_schema_version", ofOptional report.identities.contractSchemaVersion),
      ("generated_at", ofOptional report.identities.generatedAt),
      ("expected_case_ids", .list (report.expectedCaseIds.map .str)),
      ("outcomes", .list (report.outcomes.map CaseOutcome.toDict)),
      ("warnings", .list (report.warnings.map .str)),
      ("platform_metadata", thawJson (.proxy report.platformMetadata))]

def fields : List String :=
  ["schema_version", "connector_id", "manifest_version", "profile_version",
    "fixture_fingerprint", "contract_schema_version", "generated_at", "expected_case_ids",
    "outcomes", "warnings", "platform_metadata"]

/-- An identity that is read: a string or `None`. -/
def identityOf : Value → Except ReportError (Option String)
  | .none => .ok none
  | .str text => .ok (some text)
  | _ => reportError "report"

/-- A list of strings that is read. -/
def textsOf : Value → Except ReportError (List String)
  | .list items =>
      match items.mapM ArtifactProvenance.textOf with
      | none => reportError "report"
      | some texts => .ok texts
  | _ => reportError "report"

/-- `from_dict` -/
def fromDict (value : Value) : Except ReportError ComplianceReport :=
  match objectDict "report" value with
  | .error _ => reportError "report"
  | .ok data => do
      if !hasKeys fields data ∨ pyEq (fieldOf data "schema_version") (.int 1) = false then
        reportError "report"
      else
        let identities : Identities :=
          { connectorId := ← identityOf (fieldOf data "connector_id")
            manifestVersion := ← identityOf (fieldOf data "manifest_version")
            profileVersion := ← identityOf (fieldOf data "profile_version")
            fixtureFingerprint := ← identityOf (fieldOf data "fixture_fingerprint")
            contractSchemaVersion := ← identityOf (fieldOf data "contract_schema_version")
            generatedAt := ← identityOf (fieldOf data "generated_at") }
        let expectedCaseIds ← textsOf (fieldOf data "expected_case_ids")
        match fieldOf data "outcomes", fieldOf data "platform_metadata" with
        | .list outcomes, .dict metadata => do
            let warnings ← textsOf (fieldOf data "warnings")
            new (← outcomes.mapM CaseOutcome.fromDict) identities expectedCaseIds warnings
              (.dict metadata)
        | _, _ => reportError "report"

/-- `json.dumps` with sorted keys and no blanks, and the digest of it in hexadecimal. -/
structure Digests where
  codec : JsonCodec
  sha256 : List Char → String

/-- `fingerprint`; nothing where the envelope has no JSON text. -/
def fingerprint (digests : Digests) (report : ComplianceReport) : Option String :=
  (toJson digests.codec report.toDict).map fun tree => digests.sha256 (Json.render [] tree.sortKeys)

end ComplianceReport

end DataSluice.Contracts
