/-
# Mutations and their receipts

A mutation of a uData service runs through one of two functions, which differ in where the
request is prepared and in how the receipts are written. Behind an accepted policy both check
the credential, make one call that may not be repeated, and shape what it returns.

The receipts of a mutation can always be written: their metadata holds numbers, truth values
and the name of the mutation only, which redaction leaves as they are.
-/

import DataSluice.Catalog.UdataMutation

namespace DataSluice.Catalog.Udata

open DataSluice.Lib DataSluice.Lib.Url DataSluice.Domain DataSluice.Runtime
open DataSluice.Runtime.Transport

variable {Stream Locals T : Type} {environment : CallEnvironment Stream} {client : UDataClient}

/-! ## Outcomes of exceptions -/

section Outcomes

variable {error : Raised} {statusCode : Int} {response : Option RuntimeResponse}

/-- The exception has no status of its own. -/
def Uncoded (error : Raised) : Prop :=
  error.statusCode = none ∧ error.metadata.lookup (.text "status_code") = none

theorem errorStatus_of_uncoded (huncoded : Uncoded error) :
    errorStatus error response = .int ((response.map RuntimeResponse.statusCode).getD 0) := by
  unfold errorStatus
  rw [huncoded.1, huncoded.2]

theorem errorStatus_of_namesStatus (hnames : NamesStatus error statusCode) :
    errorStatus error response = .int statusCode := by
  unfold errorStatus
  rcases hnames with hattribute | ⟨hattribute, hmetadata, -⟩
  · rw [hattribute]
  · rw [hattribute, hmetadata]
    rfl

/-- The status of a receipt counts as an integer. -/
theorem isSome_errorStatus (error : Raised) (response : Option RuntimeResponse) :
    (integerOf (errorStatus error response)).isSome = true := by
  unfold errorStatus
  split
  · rfl
  · split
    · next hvalue => exact hvalue
    · rfl
  · rfl

/-- The exception ends the task, whatever it was doing. -/
def Interrupts (error : Raised) : Prop :=
  error.errorClass = .cancelled ∨ error.errorClass = .keyboardInterrupt ∨
    error.errorClass = .generatorExit

instance : Decidable (Interrupts error) :=
  inferInstanceAs (Decidable (_ ∨ _ ∨ _))

/-- The number that `_mutation_outcome` reads. -/
def statusNumber (error : Raised) (response : Option RuntimeResponse) : Int :=
  (integerOf (errorStatus error response)).getD 0

/-- The exception is marked as ambiguous. -/
def IsMarked (error : Raised) : Prop :=
  (error.metadata.lookup (.text "ambiguous")).any isTrue = true

instance : Decidable (IsMarked error) := inferInstanceAs (Decidable (_ = true))

/-- An outcome that does not say what became of the mutation. -/
def OpenOutcome (outcome : Outcome) : Prop := outcome = .cancelled ∨ outcome = .ambiguous

instance (outcome : Outcome) : Decidable (OpenOutcome outcome) :=
  inferInstanceAs (Decidable (_ ∨ _))

theorem openOutcome_iff (outcome : Outcome) (hsucceeded : outcome ≠ .succeeded)
    (hskipped : outcome ≠ .skipped) :
    OpenOutcome outcome ↔ outcome ≠ .rejected ∧ outcome ≠ .failed := by
  cases outcome <;> simp_all [OpenOutcome]

theorem mutationOutcome_eq (dispatched : Bool) :
    mutationOutcome error response dispatched =
      if Interrupts error then .cancelled
      else if IsMarked error then .ambiguous
      else if 200 ≤ statusNumber error response ∧ statusNumber error response < 300 then .ambiguous
      else if dispatched = true ∧ error.isTransport = true then .ambiguous
      else if 300 ≤ statusNumber error response ∧ statusNumber error response < 400 then .ambiguous
      else if statusNumber error response = 0 ∧ (error.errorClass = .unauthenticated ∨
        error.errorClass = .forbidden ∨ error.errorClass = .validation) then .rejected
      else .failed :=
  rfl

/-- The outcome of an exception behind a dispatch is left open exactly for these. -/
theorem openOutcome_mutationOutcome_iff :
    OpenOutcome (mutationOutcome error response true) ↔
      Interrupts error ∨ IsMarked error ∨ error.isTransport = true ∨
        (200 ≤ statusNumber error response ∧ statusNumber error response < 400) := by
  rw [mutationOutcome_eq]
  split_ifs with hinterrupts hmarked hsuccess htransport hredirect hrejected
  · exact iff_of_true (.inl rfl) (.inl hinterrupts)
  · exact iff_of_true (.inr rfl) (.inr (.inl hmarked))
  · exact iff_of_true (.inr rfl) (.inr (.inr (.inr ⟨hsuccess.1, by omega⟩)))
  · exact iff_of_true (.inr rfl) (.inr (.inr (.inl htransport.2)))
  · exact iff_of_true (.inr rfl) (.inr (.inr (.inr ⟨by omega, hredirect.2⟩)))
  all_goals
    apply iff_of_false
    · rintro (houtcome | houtcome) <;> cases houtcome
    · rintro (hany | hany | hany | hany)
      · exact hinterrupts hany
      · exact hmarked hany
      · exact htransport ⟨rfl, hany⟩
      · omega

end Outcomes

/-! ## Metadata that is kept -/

section Plain

variable {redaction : MetadataRedaction}

/-- A key that redaction keeps with its value. -/
def isPlainKey (key : String) : Bool := key != "" && !isSensitiveRecordKey key

/-- A value that redaction leaves as it is: a number, a truth value, a text that is not
redacted, or a short dictionary of such values under keys that are not sensitive. -/
inductive PlainValue (redaction : MetadataRedaction) : Nat → Value → Prop
  | int {levels : Nat} (value : Int) : PlainValue redaction levels (.int value)
  | bool {levels : Nat} (value : Bool) : PlainValue redaction levels (.bool value)
  | str {levels : Nat} {text : String} (kept : redaction.redactString text = text) :
      PlainValue redaction levels (.str text)
  | dict {levels : Nat} {entries : List (String × Value)}
      (length_le : entries.length ≤ maxMetadataEntries)
      (keys : (entries.map Prod.fst).all isPlainKey = true)
      (plain : ∀ entry ∈ entries, PlainValue redaction levels entry.2) :
      PlainValue redaction (levels + 1) (record entries)

theorem isPlainKey_iff {key : String} :
    isPlainKey key = true ↔ key ≠ "" ∧ isSensitiveRecordKey key = false := by
  rw [isPlainKey, Bool.and_eq_true, bne_iff_ne, Bool.not_eq_true']

theorem PlainValue.of_integer {levels : Nat} {value : Value}
    (hinteger : (integerOf value).isSome = true) : PlainValue redaction levels value := by
  cases value with
  | int number => exact .int number
  | bool flag => exact .bool flag
  | _ => cases hinteger

theorem PlainValue.renderUnsupported {levels : Nat} {value : Value}
    (hplain : PlainValue redaction levels value) : renderUnsupported redaction value = value := by
  cases hplain <;> rfl

/-- The entries of a dictionary whose values are kept. -/
theorem redactEntries_of_kept {depth : Nat} (entries : List (String × Value)) {limit : Nat}
    (hlength : entries.length ≤ limit) (hkeys : (entries.map Prod.fst).all isPlainKey = true)
    (hkept : ∀ entry ∈ entries, renderUnsupported redaction
      (redactValue redaction (depth + 1) entry.2) = entry.2) :
    redactEntries redaction depth limit
        (entries.map fun entry => (Key.text entry.1, entry.2)) =
      entries.map fun entry => (Key.text entry.1, entry.2) := by
  induction entries generalizing limit with
  | nil => cases limit <;> rfl
  | cons entry entries ih =>
      cases limit with
      | zero => cases hlength
      | succ limit =>
          rw [List.map_cons, List.all_cons, Bool.and_eq_true] at hkeys
          obtain ⟨hne, hinsensitive⟩ := isPlainKey_iff.mp hkeys.1
          rw [List.map_cons, redactEntries, if_neg hne,
            if_neg (by rw [hinsensitive]; exact Bool.false_ne_true),
            hkept entry List.mem_cons_self, ih (Nat.le_of_succ_le_succ hlength) hkeys.2]
          exact fun other hother => hkept other (List.mem_cons_of_mem _ hother)

theorem truncateEntries_of_le {length : Nat} {entries : List (Key × Value)}
    (hlength : length ≤ maxMetadataEntries) : truncateEntries length entries = entries :=
  if_neg (Nat.not_lt.mpr hlength)

theorem PlainValue.redactValue {levels : Nat} {value : Value}
    (hplain : PlainValue redaction levels value) {depth : Nat}
    (hdepth : depth + levels ≤ maxMetadataDepth) :
    redactValue redaction depth value = value := by
  induction hplain generalizing depth with
  | int value => rfl
  | bool value => rfl
  | str hkept => rw [Domain.redactValue, hkept]
  | dict hlength hkeys hplain ih =>
      rw [record, Domain.redactValue, if_neg (by omega), List.length_map,
        truncateEntries_of_le hlength, redactEntries_of_kept _ hlength hkeys]
      intro entry hentry
      rw [ih entry hentry (by omega)]
      exact (hplain entry hentry).renderUnsupported

theorem PlainValue.redactMapping {levels : Nat} {entries : List (String × Value)}
    (hplain : PlainValue redaction levels (record entries)) (hlevels : levels ≤ maxMetadataDepth) :
    redactMapping redaction (entries.map fun entry => (Key.text entry.1, entry.2)) =
      entries.map fun entry => (Key.text entry.1, entry.2) := by
  have hkept : Domain.redactValue redaction 0 (record entries) = record entries :=
    hplain.redactValue (by omega)
  rw [record, Domain.redactValue, if_neg (by decide)] at hkept
  exact Value.dict.inj hkept

/-- Short metadata of plain values is bounded as it is. -/
theorem boundedMetadata_of_plain (entries : List (String × Value))
    (hlength : entries.length ≤ maxMetadataEntries)
    (hkeys : (entries.map Prod.fst).all isPlainKey = true)
    (hplain : ∀ entry ∈ entries, PlainValue redaction 0 entry.2) :
    boundedMetadata redaction (entries.map fun entry => (Key.text entry.1, entry.2)) =
      entries.map fun entry => (Key.text entry.1, entry.2) := by
  rw [boundedMetadata, (PlainValue.dict hlength hkeys hplain).redactMapping (by decide)]
  clear hlength
  induction entries with
  | nil => rfl
  | cons entry entries ih =>
      obtain ⟨key, value⟩ := entry
      rw [List.map_cons, List.all_cons, Bool.and_eq_true] at hkeys
      have hvalue : freezeMetadataNode redaction value = value := by
        have hscalar : PlainValue redaction 0 value := hplain (key, value) List.mem_cons_self
        cases hscalar <;> rfl
      have hrest := ih hkeys.2 fun other hother => hplain other (List.mem_cons_of_mem _ hother)
      rw [List.map_cons, freezeMetadataEntries, if_neg (isPlainKey_iff.mp hkeys.1).1, hvalue,
        hrest]

/-- The values pass the check of a receipt, whatever their path. -/
def Validates (redaction : MetadataRedaction) (value : Value) : Prop :=
  ∀ path, ∃ frozen, validateRedactedMetadata redaction.toRedaction path value = .ok frozen ∧
    freezeJson path value = .ok frozen

theorem exists_freeze_of_validates (entries : List (String × Value))
    (hkeys : (entries.map Prod.fst).all isPlainKey = true)
    (hvalidates : ∀ entry ∈ entries, Validates redaction entry.2) (path : String) :
    validateRedactedEntries redaction.toRedaction path
        (entries.map fun entry => (Key.text entry.1, entry.2)) = .ok () ∧
      ∃ frozen, freezeJsonObject path
        (entries.map fun entry => (Key.text entry.1, entry.2)) = .ok frozen := by
  induction entries with
  | nil => exact ⟨rfl, [], rfl⟩
  | cons entry entries ih =>
      rw [List.map_cons, List.all_cons, Bool.and_eq_true] at hkeys
      obtain ⟨frozen, hvalid, hfrozen⟩ :=
        hvalidates entry List.mem_cons_self (path ++ "." ++ entry.1)
      obtain ⟨hentries, copied, hcopied⟩ := ih hkeys.2
        (fun other hother => hvalidates other (List.mem_cons_of_mem _ hother))
      rw [List.map_cons, validateRedactedEntries, (isPlainKey_iff.mp hkeys.1).2, hvalid,
        freezeJsonObject, hfrozen, hcopied]
      exact ⟨hentries, _, rfl⟩

/-- What is kept passes the check of a receipt. -/
theorem PlainValue.validates {levels : Nat} {value : Value}
    (hplain : PlainValue redaction levels value) : Validates redaction value := by
  induction hplain with
  | int value => exact fun path => ⟨.int value, rfl, rfl⟩
  | bool value => exact fun path => ⟨.bool value, rfl, rfl⟩
  | @str levels text hkept =>
      refine fun path => ⟨.str text, ?_, rfl⟩
      rw [validateRedactedMetadata, hkept, bne_self_eq_false, Bool.and_false,
        if_neg Bool.false_ne_true]
      rfl
  | dict hlength hkeys hplain ih =>
      intro path
      obtain ⟨hentries, frozen, hfrozen⟩ := exists_freeze_of_validates _ hkeys ih path
      refine ⟨.proxy frozen, ?_, ?_⟩
      · rw [record, validateRedactedMetadata, hentries]
        simp only [freezeJson, hfrozen]
        rfl
      · rw [record, freezeJson, hfrozen]
        rfl

end Plain

/-! ## Receipts that are always written -/

namespace ReceiptContext

variable (context : ReceiptContext)

/-- A receipt is built from metadata that redaction keeps. -/
theorem exists_buildMutationReceipt (operation : OperationId) (target : CatalogId)
    (policy : MutationPolicy) (outcome : Outcome) (entries : List (String × Value))
    (hplain : PlainValue context.redaction 2 (record entries)) :
    ∃ receipt, context.buildMutationReceipt operation target policy outcome
      (entries.map fun entry => (.text entry.1, entry.2)) = .ok receipt ∧
        receipt.outcome = outcome := by
  have hkept : context.redactEventMetadata
      (entries.map fun entry => (Key.text entry.1, entry.2)) =
        entries.map fun entry => (Key.text entry.1, entry.2) := by
    unfold redactEventMetadata
    rw [hplain.redactMapping (by decide), ite_self]
  obtain ⟨frozen, hvalid, -⟩ := hplain.validates auditMetadataPath
  have hbuilt : ∃ receipt, context.buildMutationReceipt operation target policy outcome
      (entries.map fun entry => (.text entry.1, entry.2)) = .ok receipt := by
    unfold buildMutationReceipt
    split
    · next receipt _ => exact ⟨receipt, rfl⟩
    · next error herror =>
        have htext : operation.text ≠ "" := by
          intro hempty
          have hlength := congrArg String.length hempty
          simp [OperationId.text] at hlength
        have hindependent : Atomicity.ofText "independent" = some .independent := rfl
        unfold MutationReceipt.new at herror
        rw [dif_neg htext, Outcome.ofText_text, hindependent] at herror
        simp only at herror
        rw [dif_neg fun hatomic => Atomicity.noConfusion hatomic.1] at herror
        split at herror
        · next other hother =>
            rw [hkept, freezeAuditMetadata] at hother
            rw [record] at hvalid
            rw [hvalid] at hother
            cases hother
        · cases herror
  obtain ⟨receipt, hreceipt⟩ := hbuilt
  exact ⟨receipt, hreceipt, (context.buildMutationReceipt_fields hreceipt).2⟩

/-- How a service writes the receipts of a mutation. It never fails to. -/
structure ReceiptWriter where
  write : Text → Outcome → Value → Except Raised context.Receipt
  writes : ∀ target outcome status, (integerOf status).isSome = true →
    ∃ receipt, write target outcome status = .ok receipt ∧ receipt.outcome = outcome

/-- The operation of the mutation is well formed, and redaction leaves its name as it is. -/
structure Recorded (mutation : CatalogMutation) : Prop where
  operation : ∃ operation, serviceOperationId mutation.operation = .ok operation
  name : context.redaction.redactString mutation.mutation = mutation.mutation

/-- The keys of the metadata of a receipt are kept. -/
theorem plain_receiptKeys :
    ["mutation", "status_code", "target_valid"].all isPlainKey = true := by decide

theorem exists_receipt {mutation : CatalogMutation} (hrecorded : context.Recorded mutation)
    (target : Text) (outcome : Outcome) {status : Value}
    (hstatus : (integerOf status).isSome = true) :
    ∃ receipt, context.receipt mutation target outcome status = .ok receipt ∧
      receipt.outcome = outcome := by
  obtain ⟨operation, hoperation⟩ := hrecorded.operation
  unfold ReceiptContext.receipt
  rw [hoperation]
  apply context.exists_buildMutationReceipt operation _ _ outcome
    [("mutation", .str mutation.mutation), ("status_code", status),
      ("target_valid", .bool (decide (target ≠ [])))]
  apply PlainValue.dict (Nat.le_of_ble_eq_true rfl)
  · exact plain_receiptKeys
  intro entry hentry
  simp only [List.mem_cons, List.not_mem_nil, or_false] at hentry
  rcases hentry with rfl | rfl | rfl
  · exact .str hrecorded.name
  · exact .of_integer hstatus
  · exact .bool _

/-- `_receipt` and `_org_receipt`, which write the same texts. -/
def writer (mutation : CatalogMutation) (hrecorded : context.Recorded mutation) :
    context.ReceiptWriter where
  write := context.receipt mutation
  writes target outcome _ hstatus := context.exists_receipt hrecorded target outcome hstatus

/-- `_policy_metadata` -/
def policyMetadata : Option MutationPolicy → List (String × Value)
  | none => [("provided", .bool false)]
  | some policy =>
      [("provided", .bool true), ("destructive", .bool policy.destructive),
        ("confirmed", .bool (policy.confirmation.any ConfirmationPolicy.confirmed)),
        ("overwrite", .bool (policy.concurrency.any ConcurrencyPolicy.overwrite)),
        ("concurrency_provided", .bool policy.concurrency.isSome),
        ("retry_safe", .bool policy.idempotency.safe),
        ("retry_opt_in", .bool policy.idempotency.explicitRetryOptIn),
        ("idempotency_provided", .bool policy.idempotency.key.isSome),
        ("dry_run", .bool policy.dryRun.requested)]

theorem plain_policyKeys :
    ["provided", "destructive", "confirmed", "overwrite", "concurrency_provided", "retry_safe",
      "retry_opt_in", "idempotency_provided", "dry_run"].all isPlainKey = true := by
  decide

/-- What a receipt says of the policy is kept. -/
theorem plain_policyMetadata (policy : Option MutationPolicy) :
    PlainValue context.redaction 1 (record (policyMetadata policy)) := by
  cases policy with
  | none =>
      apply PlainValue.dict (Nat.le_of_ble_eq_true rfl) (by decide)
      intro entry hentry
      rw [policyMetadata, List.mem_singleton] at hentry
      rw [hentry]
      exact .bool _
  | some policy =>
      apply PlainValue.dict (Nat.le_of_ble_eq_true rfl)
      · exact plain_policyKeys
      intro entry hentry
      simp only [policyMetadata, List.mem_cons, List.not_mem_nil, or_false] at hentry
      rcases hentry with rfl | rfl | rfl | rfl | rfl | rfl | rfl | rfl | rfl <;> exact .bool _

theorem ofList_hashedTarget_ne (target : Text) :
    String.ofList (context.hashedTarget target) ≠ "" := by
  intro hempty
  have hnil : context.hashedTarget target = [] := String.ofList_eq_empty_iff.mp hempty
  exact absurd hnil (List.append_ne_nil_of_left_ne_nil (by decide) _)

/-- `_receipt_target` of the dataset service. An opaque target is never kept in clear. -/
def receiptTarget (kind : ResourceKind) (opaqueTarget : Bool) (target : Text) : CatalogId :=
  if opaqueTarget = true then
    { platform := udataPlatform
      resourceKind := kind
      value := .ofList (context.hashedTarget target)
      nonempty := context.ofList_hashedTarget_ne target }
  else context.safeTarget kind target

/-- `_build_receipt` of the dataset service -/
def buildReceipt (mutation : CatalogMutation) (opaqueTarget : Bool) (target : Text)
    (outcome : Outcome) (status : Value) : Except Raised context.Receipt := do
  let operation ← serviceOperationId mutation.operation
  context.buildMutationReceipt operation
    (context.receiptTarget mutation.kind opaqueTarget target) (receiptPolicy mutation.policy)
    outcome
    [(.text "mutation", .str mutation.mutation), (.text "status_code", status),
      (.text "policy", record (policyMetadata mutation.policy))]

theorem plain_datasetKeys : ["mutation", "status_code", "policy"].all isPlainKey = true := by
  decide

/-- The receipts of the dataset service. A success is written without hiding its target. -/
def datasetWriter (mutation : CatalogMutation) (hrecorded : context.Recorded mutation)
    (opaqueTarget : Bool) : context.ReceiptWriter where
  write target outcome status :=
    context.buildReceipt mutation (opaqueTarget && outcome != .succeeded) target outcome status
  writes target outcome status hstatus := by
    obtain ⟨operation, hoperation⟩ := hrecorded.operation
    unfold buildReceipt
    rw [hoperation]
    apply context.exists_buildMutationReceipt operation _ _ outcome
      [("mutation", .str mutation.mutation), ("status_code", status),
        ("policy", record (policyMetadata mutation.policy))]
    apply PlainValue.dict (Nat.le_of_ble_eq_true rfl)
    · exact plain_datasetKeys
    intro entry hentry
    simp only [List.mem_cons, List.not_mem_nil, or_false] at hentry
    rcases hentry with rfl | rfl | rfl
    · exact .str hrecorded.name
    · exact .of_integer hstatus
    · exact context.plain_policyMetadata mutation.policy

end ReceiptContext

/-! ## Mutations of the services -/

/-- The methods whose requests change nothing. -/
def readMethods : List Text := ["GET".toList, "HEAD".toList, "OPTIONS".toList]

/-- A request that changes something. -/
structure MutatingRequest extends MutationRequest where
  mutating : method ∉ readMethods

/-- `_settle_ambiguous`: an error that may come from a transfer that was made is marked. -/
def settleAmbiguous (redaction : MetadataRedaction) (error : Raised) : Raised :=
  let status := statusNumber error none
  if Interrupts error ∨ error.isTransport = true ∨ mutationOutcome error none true = .rejected then
    error
  else if status = 0 ∨ (400 ≤ status ∧ status < 500) then error
  else attachCatalogMetadata redaction error [(.text "ambiguous", .bool true)]

/-- What a service puts into the dispatch of a mutation: the operation of the route, the
permissions, what is checked before the credential is read, and the parts that are uploaded. -/
structure MutationDispatch (Stream : Type) where
  operation : String
  permissions : Option MutationPermissions
  admin : Bool := false
  /-- `_create_report`: without permissions nothing is required of the credential. -/
  permissionsOptional : Bool := false
  /-- A transfer, whose dispatch is `_guarded`. -/
  isTransfer : Bool := false
  checked : Except Raised Unit := .ok ()
  parts : Except Raised (List (UploadPart Stream)) := .ok []

/-- How a result is made of a receipt and of what was read, and where its receipt is. What is
raised on the way has no status. -/
structure ResultShape (context : ReceiptContext) (Source T : Type) where
  build : context.Receipt → Source → Except Raised T
  receipt : T → context.Receipt
  receipt_build : ∀ {written source result}, build written source = .ok result →
    receipt result = written
  uncoded : ∀ {written source error}, build written source = .error error → Uncoded error

namespace MutationDispatch

variable (context : ReceiptContext) (dispatch : MutationDispatch Stream)
  (policy : Option MutationPolicy)

/-- The credential that the request is sent with, once it is checked. -/
def credential (resolved : Option Credential) : Except Raised (Option Credential) :=
  if dispatch.permissionsOptional = true ∧ dispatch.permissions.isNone = true then .ok resolved
  else some <$> context.requireMutationPermission resolved dispatch.operation dispatch.permissions
    dispatch.admin

/-- The call of `_dataset_mutate` and of `_dataset_upload`. -/
def call (credential : Option Credential) (request : MutationRequest) (parts : List (UploadPart Stream)) :
    DatasetCall Stream :=
  { (mutationCall credential dispatch.permissions policy dispatch.operation request :
      DatasetCall Stream) with files := parts }

/-- What is checked of a resolved credential, and the call that is prepared behind the checks. -/
def prepared (request : Except Raised MutationRequest) (resolved : Option Credential) :
    Except Raised (DatasetCall Stream) := do
  let credential ← dispatch.credential context resolved
  let route ← request
  let parts ← dispatch.parts
  return dispatch.call policy credential route parts

/-- What `_guarded` makes of an exception: in a transfer, one that is settled is marked. -/
def guarded (settles : ErrorClass → Bool) (error : Raised) : Raised :=
  if dispatch.isTransfer = true ∧ settles error.errorClass = true then
    settleAmbiguous context.redaction error
  else error

/-- The dispatch of a mutation. The guard of a synchronous transfer is around the reading of the
credential too; an asynchronous one awaits the credential before it. -/
def send (settles : ErrorClass → Bool) (guardsCredential : Bool)
    (environment : CallEnvironment Stream)
    (call : DatasetCall Stream → CallEffect Stream Locals CallResult)
    (request : Except Raised MutationRequest) : CallEffect Stream Locals CallResult := do
  Effect.ofExcept dispatch.checked
  let resolved ← (refreshedCredential environment).mapError fun error =>
    if guardsCredential = true then dispatch.guarded context settles error else error
  Effect.mapError (dispatch.guarded context settles) do
    let prepared ← Effect.ofExcept (dispatch.prepared context policy request resolved)
    call prepared

end MutationDispatch

namespace ReceiptContext

variable (context : ReceiptContext)

/-- `_run_receipted_mutation`, and `_run_receipted_mutation_async`, which awaits its dispatch. -/
def runReceiptedMutation (settles : ErrorClass → Bool)
    (failureReceipt : Raised → Option RuntimeResponse → Except Raised context.Receipt)
    (completed : CallResult → Except Raised T) (precondition : Option (Except Raised Unit))
    (dispatch : CallEffect Stream Locals CallResult) : context.Settling Stream Locals T := do
  let result ← context.settling settles (fun error => failureReceipt error none)
    (context.unreceipted do
      Effect.ofExcept (precondition.getD (.ok ()))
      dispatch)
  context.settling settles (fun error => failureReceipt error (some result.response))
    (context.unreceipted (Effect.ofExcept (completed result)))

/-- `_run_mutation` is the same behind the request, which it prepares itself. -/
theorem runMutation_eq (settles : ErrorClass → Bool)
    (build : context.Receipt → Option Value → Except Raised T) (mutation : CatalogMutation)
    (request : Except Raised MutationRequest)
    (dispatch : MutationRequest → CallEffect Stream Locals CallResult)
    (successTarget : Option (Payload → Text)) :
    context.runMutation settles build mutation request dispatch successTarget =
      (context.settling settles (context.rejectedReceipt mutation)
        (context.unreceipted (Effect.ofExcept request))).bind fun prepared =>
          context.runReceiptedMutation settles
            (fun error response => context.failureReceipt mutation response error)
            (context.succeeded build mutation successTarget)
            (some (enforceMutationPolicy mutation.operation mutation.target mutation.policy
              mutation.destructive)) (dispatch prepared) :=
  rfl

end ReceiptContext

/-- What all mutations of the services have: what is said of the mutation, and its dispatch. -/
structure ServiceMutation (context : ReceiptContext) (Stream : Type) where
  mutation : CatalogMutation
  recorded : context.Recorded mutation
  dispatch : MutationDispatch Stream

/-- A mutation of a service, by the function that runs it. -/
inductive MutationRun (context : ReceiptContext) (Stream T : Type)
  | /-- Through `_run_mutation`. -/
    run (service : ServiceMutation context Stream)
      (shape : ResultShape context (Option Value) T) (request : Except Raised MutatingRequest)
      (successTarget : Option (Payload → Text))
  | /-- Through `_run_receipted_mutation`, with the policy checked before the dispatch or within
    it. The receipts of the uploads of a resource leave an `OSError` open. -/
    receipted (service : ServiceMutation context Stream) (writer : context.ReceiptWriter)
      (shape : ResultShape context Payload T) (request : Except Raised MutatingRequest)
      (locate : Payload → Except Raised Text)
      (located : ∀ payload error, locate payload = .error error → Uncoded error)
      (enforcesFirst uploadsResource : Bool)

/-- The outcome of an exception. The uploads of a resource leave an `OSError` open. -/
def failedOutcome (uploadsResource : Bool) (error : Raised) (response : Option RuntimeResponse) :
    Outcome :=
  if uploadsResource = true ∧ error.errorClass = .osError then .ambiguous
  else mutationOutcome error response true

namespace MutationRun

variable {context : ReceiptContext}

/-- What is said of the mutation. -/
def service : MutationRun context Stream T → ServiceMutation context Stream
  | run service _ _ _ => service
  | receipted service _ _ _ _ _ _ _ => service

/-- The receipt of a result. -/
def receiptOf : MutationRun context Stream T → T → context.Receipt
  | run _ shape _ _ => shape.receipt
  | receipted _ _ shape _ _ _ _ _ => shape.receipt

/-- The mutation uploads a resource. -/
def uploadsResource : MutationRun context Stream T → Bool
  | run _ _ _ _ => false
  | receipted _ _ _ _ _ _ _ uploadsResource => uploadsResource

/-- What the dispatch of the mutation makes of an exception. -/
def guarded (settles : ErrorClass → Bool) (mutation : MutationRun context Stream T)
    (error : Raised) : Raised :=
  mutation.service.dispatch.guarded context settles error

/-- What the policy of the mutation is checked for. -/
def enforced (mutation : MutationRun context Stream T) : Except Raised Unit :=
  enforceMutationPolicy mutation.service.mutation.operation mutation.service.mutation.target
    mutation.service.mutation.policy mutation.service.mutation.destructive

/-- What is completed behind a response for a receipted mutation. -/
def completed (writer : context.ReceiptWriter)
    (shape : ResultShape context Payload T) (locate : Payload → Except Raised Text)
    (result : CallResult) : Except Raised T := do
  let target ← locate result.payload
  let receipt ← writer.write target .succeeded (.int result.statusCode)
  shape.build receipt result.payload

/-- The mutation, with the errors that are settled and the path that its call takes. -/
def program (settles : ErrorClass → Bool) (guardsCredential : Bool)
    (environment : CallEnvironment Stream)
    (call : DatasetCall Stream → CallEffect Stream Locals CallResult)
    (mutation : MutationRun context Stream T) : context.Settling Stream Locals T :=
  let policy := mutation.service.mutation.policy
  let dispatch := mutation.service.dispatch.send context policy settles guardsCredential
    environment call
  match mutation with
  | run service shape request successTarget =>
      context.runMutation settles shape.build service.mutation
        (request.map MutatingRequest.toMutationRequest) (fun prepared => dispatch (.ok prepared))
        successTarget
  | receipted service writer shape request locate _ enforcesFirst uploadsResource =>
      context.runReceiptedMutation settles
        (fun error response => writer.write service.mutation.target
          (failedOutcome uploadsResource error response) (errorStatus error response))
        (completed writer shape locate)
        (if enforcesFirst = true then some mutation.enforced else none)
        (dispatch (if enforcesFirst = true then request.map MutatingRequest.toMutationRequest
          else mutation.enforced.bind fun _ => request.map MutatingRequest.toMutationRequest))

/-- The mutation of a synchronous service. -/
def sync (environment : CallEnvironment Stream) (client : UDataClient)
    (mutation : MutationRun context Stream T) : context.Settling Stream RequestAttempt T :=
  mutation.program settlementErrors true environment (datasetCall environment client)

/-- The mutation of an asynchronous service. -/
def async (environment : CallEnvironment Stream) (client : UDataClient)
    (mutation : MutationRun context Stream T) : context.Settling Stream AsyncAttempt T :=
  mutation.program asyncSettlementErrors false environment (datasetCallAsync environment client)

end MutationRun

end DataSluice.Catalog.Udata
