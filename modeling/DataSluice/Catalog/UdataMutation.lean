/-
# Mutations that settle with a receipt

A mutation of a uData service prepares its request, has its policy checked, dispatches the
request, and builds a receipt. Whichever of these raises an exception that the service settles,
a receipt of the failure is attached to the exception on its way out. The outcome of that
receipt is read off the exception and off the response, if there was one.

What a receipt names as its target is not the identifier itself but a text that is safe to
keep: the identifier, if redaction leaves it alone and it is short and printable, and else the
start of a digest.
-/

import DataSluice.Catalog.UdataRequests
import DataSluice.Catalog.UdataWaits
import DataSluice.Domain.Receipts

namespace DataSluice.Catalog.Udata

open DataSluice.Lib DataSluice.Lib.Url DataSluice.Domain DataSluice.Runtime
open DataSluice.Runtime.Transport

/-! ## Receipts -/

/-- What the receipts of a process are made with. -/
structure ReceiptContext where
  redaction : MetadataRedaction
  /-- `str.isprintable` of one character. -/
  isPrintable : Char → Bool
  /-- The first 24 hexadecimal digits of the SHA-256 digest of a text. -/
  digest : Text → Text
  /-- The environment turns redaction off. -/
  noRedact : Bool
  /-- `isinstance(credential, UDataCredential)` -/
  isUDataCredential : Credential → Bool

/-- The text of the platform identity matches its pattern. -/
theorem matchesValueRe_udata : matchesValueRe "udata" = true := by decide

/-- `CatalogPlatform.UDATA` -/
def udataPlatform : CatalogPlatform where
  value := "udata"
  valid := matchesValueRe_udata

/-- `_operation_id` of the services -/
def serviceOperationId (operation : String) : Except Raised OperationId :=
  let (platform, _, tail) := partition '/' operation.toList
  let (service, _, method) := partition '.' tail
  newOperationId platform (if service = [] then "native".toList else service)
    (if method = [] then tail else method)

/-- `ConcurrencyPolicy(overwrite=True)` -/
def overwritePolicy : ConcurrencyPolicy where
  token := none
  overwrite := true
  token_ne := IdempotencyPolicy.none_ne_empty

/-- `_receipt_policy` -/
def receiptPolicy : Option MutationPolicy → MutationPolicy
  | none =>
      { destructive := false
        confirmation := none
        concurrency := some overwritePolicy
        idempotency := { key_ne := IdempotencyPolicy.none_ne_empty }
        dryRun := ⟨false⟩ }
  | some policy =>
      { destructive := policy.destructive
        confirmation := none
        concurrency := some overwritePolicy
        idempotency :=
          { safe := policy.idempotency.safe
            explicitRetryOptIn := policy.idempotency.explicitRetryOptIn
            key_ne := IdempotencyPolicy.none_ne_empty }
        dryRun := policy.dryRun }

/-- The error of a contract, as the services see it. -/
def contractFailure (error : ContractError) : Raised :=
  { errorClass := .exception, message := error.message }

/-- `isinstance(value, int)`, with the number: `True` counts as one. -/
def integerOf : Value → Option Int
  | .int value => some value
  | .bool value => some (if value = true then 1 else 0)
  | _ => none

/-- `value is True` -/
def isTrue : Value → Bool
  | .bool value => value
  | _ => false

/-- `_error_status`, as it stands in a receipt. -/
def errorStatus (error : Raised) (response : Option RuntimeResponse) : Value :=
  match error.statusCode, error.metadata.lookup (.text "status_code") with
  | some status, _ => .int status
  | none, some value =>
      if (integerOf value).isSome = true then value
      else .int ((response.map RuntimeResponse.statusCode).getD 0)
  | none, none => .int ((response.map RuntimeResponse.statusCode).getD 0)

/-- `_mutation_outcome` -/
def mutationOutcome (error : Raised) (response : Option RuntimeResponse) (dispatched : Bool) :
    Outcome :=
  let status := (integerOf (errorStatus error response)).getD 0
  if error.errorClass = .cancelled ∨ error.errorClass = .keyboardInterrupt ∨
      error.errorClass = .generatorExit then .cancelled
  else if (error.metadata.lookup (.text "ambiguous")).any isTrue = true then .ambiguous
  else if 200 ≤ status ∧ status < 300 then .ambiguous
  else if dispatched = true ∧ error.isTransport = true then .ambiguous
  else if 300 ≤ status ∧ status < 400 then .ambiguous
  else if status = 0 ∧ (error.errorClass = .unauthenticated ∨ error.errorClass = .forbidden ∨
      error.errorClass = .validation) then .rejected
  else .failed

/-- An error is never a success. -/
theorem mutationOutcome_ne (error : Raised) (response : Option RuntimeResponse)
    (dispatched : Bool) : mutationOutcome error response dispatched ≠ .succeeded := by
  unfold mutationOutcome
  simp only
  split_ifs <;> exact Outcome.noConfusion

/-- An exception, with the receipt that is attached to it. -/
structure Failure (redaction : Redaction) where
  error : Raised
  receipt : Option (MutationReceipt redaction) := none

namespace ReceiptContext

variable (context : ReceiptContext)

/-- The receipts of the process. -/
abbrev Receipt : Type := MutationReceipt context.redaction.toRedaction

/-- The exceptions of the process, with their receipts. -/
abbrev Error : Type := Failure context.redaction.toRedaction

/-- `request:` and the start of the digest of the identifier. -/
def hashedTarget (targetId : Text) : Text := "request:".toList ++ context.digest targetId

/-- What redaction makes of an identifier. -/
def scrubbedTarget (targetId : Text) : Text :=
  (context.redaction.redactString (.ofList targetId)).toList

/-- `_safe_target_value` of an identifier that may be kept in clear. -/
def safeTargetValue (targetId : Text) : Text :=
  if context.redaction.containsCredentialContent (.ofList targetId) = true ∨
      context.scrubbedTarget targetId = [] ∨ 64 < (context.scrubbedTarget targetId).length ∨
      ((context.scrubbedTarget targetId).any fun character => !context.isPrintable character) = true
  then context.hashedTarget targetId
  else context.scrubbedTarget targetId

/-- The text is never empty. -/
theorem ofList_safeTargetValue_ne (targetId : Text) :
    String.ofList (context.safeTargetValue targetId) ≠ "" := by
  intro hempty
  have hnil : context.safeTargetValue targetId = [] := String.ofList_eq_empty_iff.mp hempty
  unfold safeTargetValue hashedTarget at hnil
  split at hnil
  · exact absurd hnil (List.append_ne_nil_of_left_ne_nil (by decide) _)
  · next hkept => exact hkept (.inr (.inl hnil))

/-- The target of the receipts of an identifier. -/
def safeTarget (kind : ResourceKind) (targetId : Text) : CatalogId where
  platform := udataPlatform
  resourceKind := kind
  value := .ofList (context.safeTargetValue targetId)
  nonempty := context.ofList_safeTargetValue_ne targetId

/-- `redact_event_metadata` -/
def redactEventMetadata (metadata : List (Key × Value)) : List (Key × Value) :=
  if context.noRedact = true then metadata else redactMapping context.redaction metadata

/-- `build_mutation_receipt` -/
def buildMutationReceipt (operation : OperationId) (target : CatalogId) (policy : MutationPolicy)
    (outcome : Outcome) (metadata : List (Key × Value)) : Except Raised context.Receipt :=
  match MutationReceipt.new operation.text outcome.text target
      (policy.concurrency.bind ConcurrencyPolicy.token) none "independent" "independent"
      (.dict (context.redactEventMetadata metadata)) with
  | .ok receipt => .ok receipt
  | .error error => .error (contractFailure error)

/-- A receipt keeps its target and its outcome. -/
theorem buildMutationReceipt_fields {operation : OperationId} {target : CatalogId}
    {policy : MutationPolicy} {outcome : Outcome} {metadata : List (Key × Value)}
    {receipt : context.Receipt}
    (hreceipt : context.buildMutationReceipt operation target policy outcome metadata =
      .ok receipt) : receipt.target = target ∧ receipt.outcome = outcome := by
  unfold buildMutationReceipt at hreceipt
  split at hreceipt
  · next built hbuilt =>
      cases hreceipt
      unfold MutationReceipt.new at hbuilt
      rw [Outcome.ofText_text] at hbuilt
      split at hbuilt
      · cases hbuilt
      · simp only at hbuilt
        split at hbuilt
        · split at hbuilt
          · cases hbuilt
          · split at hbuilt
            · cases hbuilt
            · cases hbuilt
              exact ⟨rfl, rfl⟩
        · cases hbuilt
  · cases hreceipt

/-- `_attach_receipt` -/
def attachReceipt (error : Raised) (receipt : context.Receipt) : context.Error where
  error := attachCatalogMetadata context.redaction error [(.text "receipt", receipt.toDict)]
  receipt := some receipt

/-- An exception that leaves a block: it is given a receipt if it is one of those that are
settled. When the receipt cannot be built, the exception that says so replaces it. -/
def settled (settles : ErrorClass → Bool) (build : Raised → Except Raised context.Receipt)
    (failure : context.Error) : context.Error :=
  if settles failure.error.errorClass = true then
    match build failure.error with
    | .ok receipt => context.attachReceipt failure.error receipt
    | .error other => { error := other }
  else failure

/-- A receipt that is there behind the settlement was built, or was there before. -/
theorem receipt_settled {settles : ErrorClass → Bool}
    {build : Raised → Except Raised context.Receipt} {failure : context.Error}
    {receipt : context.Receipt}
    (hreceipt : (context.settled settles build failure).receipt = some receipt) :
    build failure.error = .ok receipt ∨ failure.receipt = some receipt := by
  unfold settled at hreceipt
  split at hreceipt
  · split at hreceipt
    · next built hbuilt =>
        cases hreceipt
        exact .inl hbuilt
    · cases hreceipt
  · exact .inr hreceipt

end ReceiptContext

/-! ## Permissions -/

/-- `EffectivePermissions`, with the identity of the credential they were made for. -/
structure MutationPermissions extends EffectivePermissions where
  credentialScope : Option String

/-- `EffectivePermissions.require` with roles. -/
def EffectivePermissions.requireRoles (permissions : EffectivePermissions) (operation : String)
    (roles : List String) : Except Raised Unit :=
  match permissions.require operation with
  | .error error => .error error
  | .ok () =>
      if (roles.any fun role => !permissions.roles.contains role) = true then
        .error
          { errorClass := .forbidden
            message := "Known credentials do not include the required catalog permission."
            operation := some operation
            platform := some permissions.platform
            capabilityState := some "forbidden"
            safeAction := some "Use credentials with the required scope or role." }
      else .ok ()

namespace ReceiptContext

variable (context : ReceiptContext)

/-- `_require_mutation_permission` -/
def requireMutationPermission (resolved : Option Credential) (operation : String)
    (permissions : Option MutationPermissions) (admin : Bool) : Except Raised Credential :=
  match resolved.filter context.isUDataCredential, permissions with
  | none, _ =>
      .error
        { errorClass := .unauthenticated
          message := "Dataset mutations require an explicitly resolved uData API credential."
          operation := some operation
          platform := some "udata"
          capabilityState := some "unauthorized"
          safeAction := some
            "Construct the client with UDataCredential or a resolver yielding one." }
  | some _, none =>
      .error (rejectMutation operation
        "Dataset mutations require explicit effective-permission evidence."
        "Pass EffectivePermissions.for_credential for the resolved credential identity.")
  | some credential, some permissions =>
      if permissions.platform ≠ platform then
        .error (rejectMutation operation
          "Dataset mutation permission evidence must declare the uData platform."
          "Pass EffectivePermissions for the uData platform.")
      else if permissions.authenticated = false then
        .error (rejectMutation operation
          "Dataset mutation permission evidence must be authenticated."
          "Pass authenticated EffectivePermissions derived from the resolved credential.")
      else if permissions.credentialScope ≠ some credential.scope then
        .error (rejectMutation operation
          "Dataset mutation permission evidence does not match the resolved credential identity."
          ("Build permission evidence with EffectivePermissions.for_credential using this " ++
            "credential."))
      else
        match permissions.requireRoles operation (if admin = true then ["admin"] else []) with
        | .error error => .error error
        | .ok () => .ok credential

end ReceiptContext

/-! ## Requests -/

/-- A prepared request: its method, path, headers and JSON body. -/
structure MutationRequest where
  method : Text
  path : Text
  headers : List (String × String) := []
  body : Option Value := none

variable {Stream Locals : Type}

/-- The call that `_dataset_mutate` makes for a request. -/
def mutationCall (credential : Option Credential) (permissions : Option MutationPermissions)
    (policy : Option MutationPolicy) (operation : String) (request : MutationRequest) :
    DatasetCall Stream where
  method := request.method
  path := request.path
  owningOperation := operation
  headers := request.headers
  jsonBody := request.body
  permissions := permissions.map MutationPermissions.toEffectivePermissions
  credential := credential
  idempotencyPolicy := policy.map MutationPolicy.idempotency

/-- `_dataset_mutate` -/
def datasetMutate (context : ReceiptContext)
    (call : DatasetCall Stream → CallEffect Stream Locals CallResult)
    (credential : Option Credential) (permissions : Option MutationPermissions)
    (policy : Option MutationPolicy) (operation : String) (request : MutationRequest)
    (admin : Bool) : CallEffect Stream Locals CallResult := do
  let resolved ← Effect.ofExcept
    (context.requireMutationPermission credential operation permissions admin)
  call (mutationCall (some resolved) permissions policy operation request)

/-! ## Mutations -/

/-- The classes of `SETTLEMENT_ERRORS`. -/
def settlementErrors : ErrorClass → Bool
  | .cancelled | .baseException => false
  | _ => true

/-- The classes of `ASYNC_SETTLEMENT_ERRORS`. -/
def asyncSettlementErrors : ErrorClass → Bool
  | .baseException => false
  | _ => true

/-- What a service says of a mutation. -/
structure CatalogMutation where
  kind : ResourceKind
  target : Text
  policy : Option MutationPolicy
  mutation : String
  operation : String
  destructive : Bool := false

/-- `_mutation_record`, by its payload. -/
def mutationRecord : Payload → Except Raised (Option Value)
  | .headers [] | .raw _ | .value (.dict []) | .value (.proxy []) => .ok none
  | .headers headers =>
      some <$> mappingRecord (record (headers.map fun header => (header.1, .str header.2)))
  | .value (.dict entries) => some <$> mappingRecord (.dict entries)
  | .value (.proxy entries) => some <$> mappingRecord (.proxy entries)
  | .value _ => .ok none

namespace ReceiptContext

variable (context : ReceiptContext)

/-- `_receipt` -/
def receipt (mutation : CatalogMutation) (target : Text) (outcome : Outcome) (status : Value) :
    Except Raised context.Receipt := do
  let operation ← serviceOperationId mutation.operation
  context.buildMutationReceipt operation (context.safeTarget mutation.kind target)
    (receiptPolicy mutation.policy) outcome
    [(.text "mutation", .str mutation.mutation), (.text "status_code", status),
      (.text "target_valid", .bool (decide (target ≠ [])))]

theorem receipt_fields {mutation : CatalogMutation} {target : Text} {outcome : Outcome}
    {status : Value} {receipt : context.Receipt}
    (hreceipt : context.receipt mutation target outcome status = .ok receipt) :
    receipt.target = context.safeTarget mutation.kind target ∧ receipt.outcome = outcome := by
  unfold ReceiptContext.receipt at hreceipt
  cases hoperation : serviceOperationId mutation.operation with
  | error error =>
      rw [hoperation] at hreceipt
      cases hreceipt
  | ok operation =>
      rw [hoperation] at hreceipt
      exact context.buildMutationReceipt_fields hreceipt

/-- The receipt that `_reject` attaches. -/
def rejectedReceipt (mutation : CatalogMutation) (error : Raised) :
    Except Raised context.Receipt :=
  context.receipt mutation mutation.target .rejected (errorStatus error none)

/-- The receipt that `_failed` attaches. -/
def failureReceipt (mutation : CatalogMutation) (response : Option RuntimeResponse)
    (error : Raised) : Except Raised context.Receipt :=
  context.receipt mutation mutation.target (mutationOutcome error response true)
    (errorStatus error response)

/-- `_succeeded` -/
def succeeded {T : Type} (build : context.Receipt → Option Value → Except Raised T)
    (mutation : CatalogMutation) (successTarget : Option (Payload → Text))
    (result : CallResult) : Except Raised T := do
  let target := (successTarget.map fun read => read result.payload).getD mutation.target
  let receipt ← context.receipt mutation target .succeeded (.int result.statusCode)
  let record ← mutationRecord result.payload
  build receipt record

/-- What `_succeeded` returns was built from the receipt of a success. -/
theorem succeeded_eq_ok {T : Type} {build : context.Receipt → Option Value → Except Raised T}
    {mutation : CatalogMutation} {successTarget : Option (Payload → Text)} {result : CallResult}
    {value : T} (hvalue : context.succeeded build mutation successTarget result = .ok value) :
    ∃ receipt record,
      receipt.target = context.safeTarget mutation.kind
        ((successTarget.map fun read => read result.payload).getD mutation.target) ∧
      receipt.outcome = .succeeded ∧ build receipt record = .ok value := by
  simp only [succeeded, bind, Except.bind] at hvalue
  split at hvalue
  · cases hvalue
  · next receipt hreceipt =>
      split at hvalue
      · cases hvalue
      · next record _ =>
          obtain ⟨htarget, houtcome⟩ := context.receipt_fields hreceipt
          exact ⟨receipt, record, htarget, houtcome, hvalue⟩

/-- The programs whose exceptions may carry a receipt. -/
abbrev Settling (Stream Locals α : Type) : Type :=
  Effect (CallWorld Stream Locals) context.Error α

/-- The program raises without a receipt. -/
def unreceipted {α : Type} (program : CallEffect Stream Locals α) :
    context.Settling Stream Locals α := program.mapError fun error => { error := error }

/-- `try: … except settlement_errors as error: …` with a receipt for the error. -/
def settling {α : Type} (settles : ErrorClass → Bool)
    (build : Raised → Except Raised context.Receipt)
    (program : context.Settling Stream Locals α) : context.Settling Stream Locals α :=
  program.tryExcept fun failure => Effect.raise (context.settled settles build failure)

/-- `_run_mutation`, and `_run_mutation_async`, which awaits its dispatch. -/
def runMutation {T : Type} (settles : ErrorClass → Bool)
    (build : context.Receipt → Option Value → Except Raised T) (mutation : CatalogMutation)
    (request : Except Raised MutationRequest)
    (dispatch : MutationRequest → CallEffect Stream Locals CallResult)
    (successTarget : Option (Payload → Text)) : context.Settling Stream Locals T := do
  let prepared ← context.settling settles (context.rejectedReceipt mutation)
    (context.unreceipted (Effect.ofExcept request))
  -- The response is known to the `except` clause once the dispatch has returned.
  let result ← context.settling settles (context.failureReceipt mutation none)
    (context.unreceipted do
      Effect.ofExcept (enforceMutationPolicy mutation.operation mutation.target mutation.policy
        mutation.destructive)
      dispatch prepared)
  context.settling settles (context.failureReceipt mutation (some result.response))
    (context.unreceipted (Effect.ofExcept
      (context.succeeded build mutation successTarget result)))

section Rules

variable {α T : Type} {P : CallWorld Stream Locals → Prop}
  {settles : ErrorClass → Bool}

/-- What holds of the settled exception holds behind the settlement. -/
theorem ends_settling {Q : α → CallWorld Stream Locals → Prop}
    {E : context.Error → CallWorld Stream Locals → Prop}
    {build : Raised → Except Raised context.Receipt} {program : CallEffect Stream Locals α}
    (hprogram : Effect.Ends P program Q fun error =>
      E (context.settled settles build { error := error })) :
    Effect.Ends P (context.settling settles build (context.unreceipted program)) Q E := by
  apply Effect.Ends.tryExcept
    (F := fun failure => E (context.settled settles build failure))
  · exact Effect.Ends.mapError hprogram
  · exact fun failure => .raise fun _ => id

/-- How a mutation ends: with what is built behind a response, or with an exception that is
settled in one of four places. -/
theorem ends_runMutation {build : context.Receipt → Option Value → Except Raised T}
    {mutation : CatalogMutation} {request : Except Raised MutationRequest}
    {dispatch : MutationRequest → CallEffect Stream Locals CallResult}
    {successTarget : Option (Payload → Text)} {R : CallResult → CallWorld Stream Locals → Prop}
    {F : Raised → CallWorld Stream Locals → Prop} {Q : T → CallWorld Stream Locals → Prop}
    {E : context.Error → CallWorld Stream Locals → Prop}
    (hrequest : ∀ error world, P world → request = .error error →
      E (context.settled settles (context.rejectedReceipt mutation) { error := error }) world)
    (hpolicy : ∀ error world, P world →
      enforceMutationPolicy mutation.operation mutation.target mutation.policy
        mutation.destructive = .error error →
      E (context.settled settles (context.failureReceipt mutation none) { error := error }) world)
    (hdispatch : ∀ prepared, request = .ok prepared →
      enforceMutationPolicy mutation.operation mutation.target mutation.policy
        mutation.destructive = .ok () → Effect.Ends P (dispatch prepared) R F)
    (hraised : ∀ error world, F error world →
      E (context.settled settles (context.failureReceipt mutation none) { error := error }) world)
    (hbuild : ∀ result error world, R result world →
      context.succeeded build mutation successTarget result = .error error →
      E (context.settled settles (context.failureReceipt mutation (some result.response))
        { error := error }) world)
    (hreturned : ∀ result value world, R result world →
      context.succeeded build mutation successTarget result = .ok value → Q value world) :
    Effect.Ends P
      (context.runMutation settles build mutation request dispatch successTarget) Q E := by
  apply Effect.Ends.bind (R := fun prepared world => request = .ok prepared ∧ P world)
  · apply context.ends_settling
    apply Effect.Ends.ofExcept
    · exact fun prepared hprepared world hworld => ⟨hprepared, hworld⟩
    · exact fun error herror world hworld => hrequest error world hworld herror
  intro prepared
  apply Effect.Ends.assume fun _ hworld => hworld.1
  intro hprepared
  apply Effect.Ends.bind (R := R)
  · apply context.ends_settling
    apply Effect.Ends.bind (R := fun _ world =>
      enforceMutationPolicy mutation.operation mutation.target mutation.policy
        mutation.destructive = .ok () ∧ P world)
    · apply Effect.Ends.ofExcept
      · exact fun _ hok world hworld => ⟨hok, hworld.2⟩
      · exact fun error herror world hworld => hpolicy error world hworld.2 herror
    intro _
    apply Effect.Ends.assume fun _ hworld => hworld.1
    exact fun hok => (hdispatch prepared hprepared hok).weaken (fun _ hworld => hworld.2)
      (fun _ _ => id) hraised
  · intro result
    apply context.ends_settling
    apply Effect.Ends.ofExcept
    · exact fun value hvalue world hworld => hreturned result value world hworld hvalue
    · exact fun error herror world hworld => hbuild result error world hworld herror

end Rules

end ReceiptContext

end DataSluice.Catalog.Udata
