/-
# The request paths of the uData clients

`SyncUDataClient._dataset_call` and `AsyncUDataClient._dataset_call_async`, with the methods
of `_UDataClientCore` that both call. The source writes the two bodies apart: the synchronous
one keeps its attempt in a `_RequestAttempt` with context managers around it, the
asynchronous one keeps one flag and writes the `try` blocks out. They are apart here too.

A clock, the site gate, the credential provider, the capability cache, the breakers, the
transport, the callables of the request and the event sinks are operations of an environment
that may answer anything and may raise anything. An `await` is where other tasks run; what
they do shows in the answers.
-/

import DataSluice.Lib.Dict
import DataSluice.Runtime.Capability
import DataSluice.Runtime.RetryLoop
import DataSluice.Runtime.Transport

namespace DataSluice.Catalog.Udata

open DataSluice.Lib DataSluice.Lib.Url DataSluice.Domain DataSluice.Runtime
open DataSluice.Runtime.Transport

/-! ## Requests and clients -/

/-- What a call reads of a credential: `_credential_scope` and `_auth_headers` of it. -/
structure Credential where
  scope : String
  authHeaders : List (String × String)

/-- `_credential_scope` of a resolved credential. -/
def credentialScope : Option Credential → String
  | none => "anonymous"
  | some credential => credential.scope

/-- `EffectivePermissions` -/
structure EffectivePermissions where
  platform : String
  scopes : List String
  roles : List String
  authenticated : Bool
  operationScopes : List (String × List String)

/-- `EffectivePermissions.require` without further scopes or roles. -/
def EffectivePermissions.require (permissions : EffectivePermissions) (operation : String) :
    Except Raised Unit :=
  if permissions.authenticated = false ∧ permissions.scopes = [] ∧ permissions.roles = [] then
    .error
      { errorClass := .unauthenticated
        message := "Credentials are required for this catalog operation."
        operation := some operation
        platform := some permissions.platform
        capabilityState := some "unauthorized"
        safeAction := some "Provide valid credentials and retry the operation." }
  else if ((permissions.operationScopes.lookup operation).getD []).any
      fun scope => !permissions.scopes.contains scope then
    .error
      { errorClass := .forbidden
        message := "Known credentials do not include the required catalog permission."
        operation := some operation
        platform := some permissions.platform
        capabilityState := some "forbidden"
        safeAction := some "Use credentials with the required scope or role." }
  else .ok ()

/-- The `form_body` of a call. -/
inductive FormBody
  | bytes (data : List UInt8)
  | callable

def FormBody.isCallable : FormBody → Bool
  | .bytes _ => false
  | .callable => true

variable {Stream : Type}

/-- The request of a catalog client. -/
abbrev Request (Stream : Type) : Type := RuntimeRequest Stream DeadlineMonitor

/-- The arguments of a call, with its overrides. -/
structure DatasetCall (Stream : Type) where
  method : Text
  path : Text
  owningOperation : String
  headers : List (String × String) := []
  jsonBody : Option Value := none
  permissions : Option EffectivePermissions := none
  credential : Option Credential := none
  idempotencyPolicy : Option IdempotencyPolicy := none
  maxResponseBytes : Option Int := some 1048576
  files : List (UploadPart Stream) := []
  formBody : Option FormBody := none
  rawText : Bool := false
  redirectMode : Bool := false
  emitSuccess : Bool := true
  /-- An `accept_status` is given. -/
  acceptStatus : Bool := false
  omitCredential : Bool := false
  deadline : Option DeadlineMonitor := none
  /-- The text of the list of the overrides that are not known. -/
  unknownOverrides : Option String := none

/-- The functions of `json` that a call uses. They have no result where they raise a
`TypeError` or a `ValueError`. -/
structure JsonModule where
  /-- `json.dumps(value, allow_nan=False).encode()` -/
  dumps : Value → Option (List UInt8)
  /-- `json.loads` with hooks that refuse numbers that are not finite -/
  loads : List UInt8 → Option Value
  /-- `json.loads` -/
  loadsAny : List UInt8 → Option Value

/-- What `_UDataClientCore` keeps. -/
structure UDataClient where
  unicode : UnicodeData
  json : JsonModule
  redaction : MetadataRedaction
  origin : Text
  declaredProfile : DeclaredCapabilityProfile
  /-- `_credential_scope(self._credentials)` -/
  credentialsScope : String
  budget : TimeBudget
  maxAttempts : Nat
  closed : Bool
  maxAttempts_pos : 1 ≤ maxAttempts

/-! ## What is outside -/

/-- A runtime event. -/
structure Event where
  operationId : String
  outcome : String
  metadata : List (String × Value) := []

/-- The operations of a call that are answered from outside. -/
inductive CallOp (Stream : Type)
  | readClock
  | /-- `require_current` of the site gate. -/
    requireCurrent
  | /-- `_refreshed_credential(self._credentials)` -/
    refreshedCredential
  | /-- Read `self._credential_scope`. -/
    credentialScope
  | invalidateCapabilities
  | invalidateSiteGate
  | /-- Assign `self._credential_scope`. -/
    setCredentialScope (scope : String)
  | /-- `resolve` of the capability cache. -/
    resolve (operation : OperationId) (scope : String)
  | /-- `record_response` of the capability cache. -/
    recordCapability (operation : OperationId) (responseClass : ProbeResponseClass)
      (scope : String)
  | admitTrial (key : CircuitKey)
  | inspect (key : CircuitKey)
  | recordTransportFailure (key : CircuitKey)
  | recordResponse (key : CircuitKey) (statusCode : Int)
  | releaseTrial (key : CircuitKey)
  | /-- Call `form_body`. -/
    formBody
  | send (request : Request Stream)
  | /-- Send through the gate of controlled dispatches. -/
    dispatchControlled (request : Request Stream) (credential : Option Credential)
      (body : Option Value)
  | sleep (delay : ℚ)
  | /-- Call `accept_status`. -/
    acceptStatus (statusCode : Int)
  | emit (event : Event)

/-- What an operation returns, when it does not raise. -/
def CallOp.Reply : CallOp Stream → Type
  | .readClock => ℚ
  | .refreshedCredential => Option Credential
  | .credentialScope => String
  | .resolve _ _ => EffectiveCapabilityProfile
  | .admitTrial _ | .acceptStatus _ => Bool
  | .inspect _ | .recordTransportFailure _ | .recordResponse _ _ => CircuitState
  | .formBody => List UInt8
  | .send _ | .dispatchControlled _ _ _ => RuntimeResponse
  | .requireCurrent | .invalidateCapabilities | .invalidateSiteGate | .setCredentialScope _
  | .recordCapability _ _ _ | .releaseTrial _ | .sleep _ | .emit _ => Unit

/-- What an operation answers. -/
abbrev CallOp.Answer (op : CallOp Stream) : Type := Except Raised op.Reply

/-- The environment of the calls. -/
abbrev CallEnvironment (Stream : Type) : Type := @Environment (CallOp Stream) CallOp.Answer

/-- An operation of a call, with its answer. -/
abbrev CallHappening (Stream : Type) : Type := @Happening (CallOp Stream) CallOp.Answer

/-- What happened in a call. -/
abbrev CallHistory (Stream : Type) : Type := List (CallHappening Stream)

/-- What happened, and the variables of a call. -/
abbrev CallWorld (Stream Locals : Type) : Type := @World (CallOp Stream) CallOp.Answer Locals

/-- A program of the client with the given variables. -/
abbrev CallEffect (Stream Locals α : Type) : Type := Effect (CallWorld Stream Locals) Raised α

/-! ## Functions without effects -/

/-- `PLATFORM.value` -/
def platform : String := "udata"

/-- `NativeCatalogError` of an operation. -/
def nativeError (operation : OperationId) (message : String) (statusCode : Option Int)
    (metadata : List (Key × Value)) : Raised where
  errorClass := .nativeCatalogError
  message := message
  operation := some operation.text
  platform := some platform
  safeAction := some
    "Inspect the native catalog response and retry when the deployment is ready."
  statusCode := statusCode
  metadata := metadata

/-- `_OPERATION_PART.fullmatch` -/
def isOperationPart (part : Text) : Bool :=
  match part with
  | [] => false
  | first :: rest =>
      ('a' ≤ first && first ≤ 'z') && rest.all fun character =>
        ('a' ≤ character && character ≤ 'z') || character.isDigit || character == '_' ||
          character == '-'

/-- The constructor of `OperationId`. -/
def newOperationId (platform service method : Text) : Except Raised OperationId :=
  if isOperationPart platform = false then
    .error (.valueError "Operation platform must be a lowercase vendor identifier.")
  else if isOperationPart service = false then
    .error (.valueError "Operation service must be a lowercase vendor identifier.")
  else if isOperationPart method = false then
    .error (.valueError "Operation method must be a lowercase vendor identifier.")
  else .ok ⟨.ofList platform, .ofList service, .ofList method⟩

/-- `_operation_id_from` -/
def operationIdFrom (value : String) : Except Raised OperationId :=
  let (platform, _, tail) := partition '/' value.toList
  let (service, dot, method) := partition '.' tail
  if dot = false then newOperationId platform "native".toList tail
  else newOperationId platform service method

/-- `_dataset_idempotency` -/
def datasetIdempotency (policy : Option IdempotencyPolicy) (method : Text)
    (files : List (UploadPart Stream)) : IdempotencyPolicy :=
  if files.any UploadPart.isStream then { safe := false, key_ne := IdempotencyPolicy.none_ne_empty }
  else policy.getD { safe := decide (method = "GET".toList), key_ne := IdempotencyPolicy.none_ne_empty }

/-- `_dataset_retry_idempotency` -/
def datasetRetryIdempotency (formBody : Option FormBody) (policy : Option IdempotencyPolicy)
    (method : Text) (files : List (UploadPart Stream)) : IdempotencyPolicy :=
  if formBody.any FormBody.isCallable then { safe := false, key_ne := IdempotencyPolicy.none_ne_empty }
  else datasetIdempotency policy method files

/-- `_dataset_redirect_policy` -/
def datasetRedirectPolicy (redirectMode : Bool) (files : List (UploadPart Stream)) :
    RedirectPolicy :=
  if redirectMode = true ∨ files ≠ [] then .noFollow else .follow

/-- `_AUTH_FAILURES` -/
def authFailures : List (String × String) :=
  [("Invalid API token", "invalid"), ("Revoked API token", "revoked"),
    ("Expired API token", "expired"), ("Inactive user", "inactive-user")]

/-- `_response_header` -/
def responseHeader (unicode : UnicodeData) (response : RuntimeResponse) (name : Text) :
    Option String :=
  (response.headers.find? fun header =>
    unicode.lower header.1.toList == unicode.lower name).map Prod.snd

/-- The statuses of a redirect. -/
def redirectStatuses : List Int := [301, 302, 303, 307, 308]

/-- `_STATUS_RESPONSE_CLASSES` -/
def statusResponseClass (statusCode : Int) : Option ProbeResponseClass :=
  if statusCode = 401 then some .unauthorized
  else if statusCode = 403 then some .forbidden
  else if statusCode = 423 then some .deploymentDisabled
  else none

/-- The payload of a result: the headers of a redirect, the bytes of a text, or a value. -/
inductive Payload
  | headers (headers : List (String × String))
  | raw (body : List UInt8)
  | value (value : Value)

/-- What a call returns. -/
structure CallResult where
  statusCode : Int
  payload : Payload
  response : RuntimeResponse

namespace UDataClient

variable (client : UDataClient)

/-- `_auth_failure_reason` -/
def authFailureReason (body : List UInt8) : Option String :=
  if 512 < body.length then none
  else
    match client.json.loadsAny body with
    | some (.dict entries) =>
        match entries.lookup (.text "message") with
        | some (.str message) => authFailures.lookup message
        | _ => none
    | _ => none

/-- `_settle_dataset_budget_error`, with the error as it leaves it. -/
def settleDatasetBudgetError (error : Raised) (request : Request Stream)
    (response : Option RuntimeResponse) : Raised :=
  if request.method ∈ ["GET".toList, "HEAD".toList, "OPTIONS".toList] then error
  else
    attachCatalogMetadata client.redaction error
      [(.text "ambiguous", .bool true),
        (.text "status_code", .int ((response.map RuntimeResponse.statusCode).getD 0))]

/-- `_controlled_origin` -/
def controlledOrigin : Except Raised Bool :=
  match urlsplit client.unicode client.origin with
  | .error error => .error (.valueError error.message)
  | .ok parsed =>
      .ok ((parsed.hostname client.unicode).any fun host =>
        ["127.0.0.1", "::1", "localhost"].any fun name => host == name.toList)

/-- `_require_dispatchable` -/
def requireDispatchable (operation : OperationId) (effective : EffectiveCapabilityProfile)
    (permissions : Option EffectivePermissions) : Except Raised Unit := do
  if (← client.controlledOrigin) = false ∧
      ((client.declaredProfile.operations operation).map OperationSpec.mutationClass) ≠
        some .read then
    throw
      { errorClass := .validation
        message := "uData mutations, administration, and uploads require a controlled local " ++
          "deployment."
        operation := some operation.text
        platform := some platform
        safeAction := some <|
          "Point the client at a loopback uData deployment before dispatching this route." }
  Capability.requireAllowed operation effective
  match permissions with
  | none => .ok ()
  | some permissions => permissions.require operation.text

/-- `_json_body` -/
def jsonBody (body : Option Value) (operation : OperationId) :
    Except Raised (Option (List UInt8)) :=
  match body with
  | none => .ok none
  | some value =>
      match client.json.dumps value with
      | some bytes => .ok (some bytes)
      | none => .error (nativeError operation
          "Catalog mutation input could not be serialized as JSON." none
          [(.text "phase", .str "serialization")])

/-- `_dataset_body` -/
def datasetBody (call : DatasetCall Stream) (operation : OperationId) :
    Except Raised (Option (List UInt8)) :=
  if call.formBody.isSome ∧ (call.jsonBody.isSome ∨ call.files ≠ []) then
    .error (nativeError operation
      "Catalog requests cannot combine a form body with a JSON body or multipart parts." none [])
  else if call.jsonBody.isSome ∧ call.files ≠ [] then
    .error (nativeError operation
      "Catalog dataset requests cannot combine a JSON body with multipart parts." none [])
  else if call.files ≠ [] then .ok none
  else
    match call.formBody with
    | some .callable => .ok none
    | some (.bytes data) => .ok (some data)
    | none => client.jsonBody call.jsonBody operation

/-- The headers given for a request, those of its credential, and its idempotency key. -/
def keyedHeaders (call : DatasetCall Stream) (credential : Option Credential) :
    List (String × String) :=
  let given := setAll ((credential.map Credential.authHeaders).getD []) (setAll call.headers [])
  match call.idempotencyPolicy.bind IdempotencyPolicy.key with
  | some key => setItem given "Idempotency-Key" key
  | none => given

/-- `_request_headers`, entry by entry. -/
def requestHeaders (call : DatasetCall Stream) (credential : Option Credential)
    (body : Option (List UInt8)) : List (String × String) :=
  let headers := keyedHeaders call credential
  if body.isSome ∧ call.formBody.isNone ∧ call.files = [] ∧
      (headers.all fun header =>
        client.unicode.lower header.1.toList != "content-type".toList) = true then
    setItem headers "Content-Type" "application/json"
  else headers

theorem nodup_keys_requestHeaders (call : DatasetCall Stream) (credential : Option Credential)
    (body : Option (List UInt8)) :
    ((client.requestHeaders call credential body).map Prod.fst).Nodup := by
  have hgiven : ((setAll ((credential.map Credential.authHeaders).getD [])
      (setAll call.headers [])).map Prod.fst).Nodup :=
    nodup_keys_setAll (nodup_keys_setAll List.nodup_nil)
  have hkeyed : ((keyedHeaders call credential).map Prod.fst).Nodup := by
    unfold keyedHeaders
    cases call.idempotencyPolicy.bind IdempotencyPolicy.key with
    | some key => exact nodup_keys_setItem hgiven _ _
    | none => exact hgiven
  simp only [requestHeaders]
  split
  · exact nodup_keys_setItem hkeyed _ _
  · exact hkeyed

/-- The headers of a request, as a mapping. -/
def headersOf (entries : List (String × String)) (hnodup : (entries.map Prod.fst).Nodup) :
    Headers where
  entries := entries.map fun header => (header.1.toList, header.2.toList)
  nodup := by
    have hnames := hnodup.map (f := String.toList) fun _ _ => String.toList_injective
    rw [List.map_map] at hnames ⊢
    exact hnames

/-- A `ValueError` that nothing catches. -/
def raiseValueError {α : Type} : Except ValueError α → Except Raised α
  | .ok value => .ok value
  | .error error => .error (.valueError error.message)

/-- The body and the request of a call, up to the check of the deadline. -/
def newRequest (call : DatasetCall Stream) (operation : OperationId)
    (credential : Option Credential) (deadline : DeadlineMonitor) :
    Except Raised (Request Stream) := do
  let body ← client.datasetBody call operation
  raiseValueError (RuntimeRequest.create call.method (client.origin ++ call.path)
    (headersOf (client.requestHeaders call credential body)
      (client.nodup_keys_requestHeaders call credential body))
    body call.files (datasetRedirectPolicy call.redirectMode call.files)
    (some (call.maxResponseBytes.getD 1048576)) (some deadline))

/-- `replace(request, body=body)` -/
def withBody (request : Request Stream) (body : List UInt8) : Except Raised (Request Stream) :=
  raiseValueError (RuntimeRequest.create request.method request.url request.headers (some body)
    request.files request.redirectPolicy request.maxResponseBytes request.deadline)

/-- `_circuit_key` -/
def circuitKey (request : Request Stream) : Except Raised CircuitKey := do
  let parsed ← raiseValueError (urlsplit client.unicode request.url)
  return ⟨.ofList (parsed.scheme ++ "://".toList ++ parsed.netloc), client.credentialsScope⟩

/-- The error for a circuit that is open. -/
def circuitOpen (operation : OperationId) : Raised where
  errorClass := .unavailable
  message := "The catalog origin circuit is open after consecutive transport failures."
  operation := some operation.text
  platform := some platform
  capabilityState := some "unavailable"
  safeAction := some
    "Wait for the circuit cool-down or explicitly reset the circuit before retrying."

/-- The error of `_validate_status` for a response. -/
def statusError (operation : OperationId) (response : RuntimeResponse) : Raised :=
  mapCatalogError
    { message := "Catalog operation returned an unsuccessful HTTP status."
      operation := operation.text
      platform := platform
      statusCode := some response.statusCode
      metadata :=
        match (if response.statusCode = 401 then client.authFailureReason response.body
          else none) with
        | some reason => [(.text "reason_code", .str reason)]
        | none => [] }

/-- `_decode_dataset_response` behind the checks of the status and of the length. -/
def decodeBody (call : DatasetCall Stream) (operation : OperationId)
    (response : RuntimeResponse) : Except Raised CallResult :=
  if call.redirectMode = true ∧ response.statusCode ∈ redirectStatuses then
    match responseHeader client.unicode response "location".toList with
    | none | some "" => .error (nativeError operation
        "The uData redirect response omits its Location header." (some response.statusCode) [])
    | some _ => .ok ⟨response.statusCode, .headers response.headers, response⟩
  else if call.rawText = true then .ok ⟨response.statusCode, .raw response.body, response⟩
  else if response.body = [] then .ok ⟨response.statusCode, .value .none, response⟩
  else
    match client.json.loads response.body with
    | none => .error (nativeError operation "Catalog operation returned an invalid JSON result."
        (some response.statusCode)
        [(.text "ambiguous", .bool (decide (call.method ≠ "GET".toList)))])
    | some payload => .ok ⟨response.statusCode, .value payload, response⟩

end UDataClient

/-! ## The methods that both paths call -/

section Shared

variable {Locals : Type} (environment : CallEnvironment Stream) (client : UDataClient)

/-- The clock that a deadline reads. -/
def readClock : CallEffect Stream Locals ℚ := ask environment .readClock

/-- `require_current` of the site gate. -/
def requireCurrent : CallEffect Stream Locals Unit := ask environment .requireCurrent

/-- `_refreshed_credential(self._credentials)` -/
def refreshedCredential : CallEffect Stream Locals (Option Credential) :=
  ask environment .refreshedCredential

/-- `self._credential_scope` -/
def knownScope : CallEffect Stream Locals String := ask environment .credentialScope

/-- `self._credential_scope = scope` behind the two invalidations, for another scope. -/
def changeScope (known scope : String) : CallEffect Stream Locals Unit :=
  if scope ≠ known then do
    ask environment .invalidateCapabilities
    ask environment .invalidateSiteGate
    ask environment (.setCredentialScope scope)
  else pure ()

/-- `resolve` of the capability cache. -/
def resolve (operation : OperationId) (scope : String) :
    CallEffect Stream Locals EffectiveCapabilityProfile :=
  ask environment (.resolve operation scope)

/-- `admit` of the breakers. -/
def admitTrial (key : CircuitKey) : CallEffect Stream Locals Bool := ask environment (.admitTrial key)

/-- `inspect` of the breakers. -/
def inspect (key : CircuitKey) : CallEffect Stream Locals CircuitState :=
  ask environment (.inspect key)

/-- `record_transport_failure` of the breakers. -/
def recordTransportFailure (key : CircuitKey) : CallEffect Stream Locals CircuitState :=
  ask environment (.recordTransportFailure key)

/-- `record_response` of the breakers. -/
def recordResponse (key : CircuitKey) (statusCode : Int) :
    CallEffect Stream Locals CircuitState :=
  ask environment (.recordResponse key statusCode)

/-- `release_trial` of the breakers. -/
def releaseTrial (key : CircuitKey) : CallEffect Stream Locals Unit :=
  ask environment (.releaseTrial key)

/-- The body that a callable `form_body` returns. -/
def formBody : CallEffect Stream Locals (List UInt8) := ask environment .formBody

/-- The wait between two attempts. -/
def sleep (delay : ℚ) : CallEffect Stream Locals Unit := ask environment (.sleep delay)

/-- `_emit` -/
def emit (operation : OperationId) (outcome : String) (metadata : List (String × Value)) :
    CallEffect Stream Locals Unit :=
  ask environment (.emit ⟨operation.text, outcome, metadata⟩)

/-- `_emit_breaker_change` -/
def emitBreakerChange (operation : OperationId) (before after : Bool) :
    CallEffect Stream Locals Unit :=
  if before ≠ after then
    emit environment operation "breaker_state_change" [("breaker_open", .bool after)]
  else pure ()

/-- `_emit_dataset_failure` -/
def emitDatasetFailure (operation : OperationId) (error : Raised) (emitSuccess : Bool) :
    CallEffect Stream Locals Unit :=
  if emitSuccess = true then
    emit environment operation
      (if error.errorClass = .budgetExhausted then "budget_exhausted" else "failed") []
  else pure ()

/-- The event of a call that succeeded. -/
def emitDatasetSuccess (operation : OperationId) (emitSuccess : Bool) :
    CallEffect Stream Locals Unit :=
  if emitSuccess = true then emit environment operation "succeeded" [] else pure ()

/-- `_refresh_credential_scope` -/
def refreshCredentialScope (credential : Option Credential) :
    CallEffect Stream Locals String := do
  let known ← knownScope environment
  changeScope environment known (credentialScope credential)
  return credentialScope credential

/-- `_admit_request` -/
def admitRequest (operation : OperationId) (request : Request Stream) :
    CallEffect Stream Locals CircuitKey := do
  let key ← Effect.ofExcept (client.circuitKey request)
  let admitted ← admitTrial environment key
  if admitted = true then return key
  else do
    emit environment operation "breaker_open" []
    Effect.raise (UDataClient.circuitOpen operation)

/-- Whether a given `accept_status` accepts a status. -/
def acceptsStatus (call : DatasetCall Stream) (statusCode : Int) : CallEffect Stream Locals Bool :=
  if call.acceptStatus = true then ask environment (.acceptStatus statusCode) else pure false

/-- What the capability cache records of an unsuccessful status. -/
def recordStatus (operation : OperationId) (statusCode : Int) (scope : String) :
    CallEffect Stream Locals Unit :=
  match statusResponseClass statusCode with
  | some responseClass => ask environment (.recordCapability operation responseClass scope)
  | none => pure ()

/-- `_validate_status` -/
def validateStatus (call : DatasetCall Stream) (operation : OperationId)
    (response : RuntimeResponse) (scope : String) : CallEffect Stream Locals Unit :=
  if call.redirectMode = true ∧ response.statusCode ∈ redirectStatuses then pure ()
  else do
    let accepted ← acceptsStatus environment call response.statusCode
    if accepted = true then pure ()
    else if 200 ≤ response.statusCode ∧ response.statusCode < 300 then pure ()
    else do
      recordStatus environment operation response.statusCode scope
      Effect.raise (client.statusError operation response)

/-- `_decode_dataset_response` -/
def decodeDatasetResponse (call : DatasetCall Stream) (operation : OperationId)
    (response : RuntimeResponse) (maxResponseBytes : Option Int) (scope : String) :
    CallEffect Stream Locals CallResult := do
  validateStatus environment client call operation response scope
  if maxResponseBytes.any (· < (response.body.length : Int)) then
    Effect.raise (nativeError operation
      "Catalog operation returned a response larger than its configured byte limit."
      (some response.statusCode) [])
  else Effect.ofExcept (client.decodeBody call operation response)

/-- `request.deadline.assert_dispatchable()` where there is a deadline. -/
def checkDeadline (request : Request Stream) : CallEffect Stream Locals Unit :=
  match request.deadline with
  | some deadline => deadline.assertDispatchable (readClock environment)
  | none => pure ()

/-- The transport or the gate of controlled dispatches. -/
def sendRequest (controlled : Bool) (credential : Option Credential) (body : Option Value)
    (request : Request Stream) : CallEffect Stream Locals RuntimeResponse :=
  if controlled = true then ask environment (.dispatchControlled request credential body)
  else ask environment (.send request)

/-- The request of one attempt: its body is asked for where `form_body` is callable. -/
def attemptRequest (callable : Bool) (request : Request Stream) :
    CallEffect Stream Locals (Request Stream) :=
  if callable = true then do
    let body ← formBody environment
    Effect.ofExcept (UDataClient.withBody request body)
  else pure request

/-- The credential of a call. -/
def resolvedCredential (call : DatasetCall Stream) : CallEffect Stream Locals (Option Credential) :=
  if call.omitCredential = true then pure none
  else
    match call.credential with
    | some credential => pure (some credential)
    | none => refreshedCredential environment

/-- The deadline of a call: its own, or a new one. -/
def callDeadline (call : DatasetCall Stream) : CallEffect Stream Locals DeadlineMonitor :=
  match call.deadline with
  | some deadline => pure deadline
  | none => do
      let now ← readClock environment
      return { budget := client.budget, startedAt := now }

end Shared

/-- The error for overrides that are not known. -/
def unknownOverridesError (names : String) : Raised where
  errorClass := .typeError
  message := "Unknown dataset call overrides: " ++ names ++ "."

/-- `SET_SITE_OPERATION` -/
def setSiteOperation : String := "udata/api-v1.set_site"

/-- The loop that a call runs, but for its sleep. -/
def retryLoop (client : UDataClient) (call : DatasetCall Stream) (deadline : DeadlineMonitor) :
    RetryLoop where
  budget := client.budget
  idempotency :=
    datasetRetryIdempotency call.formBody call.idempotencyPolicy call.method call.files
  deadline := deadline
  maxAttempts := client.maxAttempts
  maxAttempts_pos := client.maxAttempts_pos

/-! ## The synchronous path -/

/-- The variables of a `_RequestAttempt`, with `completed` of its method `dispatch`. -/
structure RequestAttempt where
  recorded : Bool := false
  attempts : Nat := 0
  response : Option RuntimeResponse := none
  completed : Bool := false

section Synchronous

variable (environment : CallEnvironment Stream) (client : UDataClient)
  (call : DatasetCall Stream)

/-- `_dataset_deadline` -/
def datasetDeadline : CallEffect Stream RequestAttempt (OperationId × DeadlineMonitor) :=
  match call.unknownOverrides with
  | some names => Effect.raise (unknownOverridesError names)
  | none =>
      if client.closed = true then
        Effect.raise (.runtimeError "The synchronous uData client is closed.")
      else do
        let operation ← Effect.ofExcept (operationIdFrom call.owningOperation)
        let deadline ← callDeadline environment client call
        let deadline := deadline.named operation.text platform
        deadline.assertDispatchable (readClock environment)
        return (operation, deadline)

/-- `_require_site_version` -/
def requireSiteVersion : CallEffect Stream RequestAttempt Unit := requireCurrent environment

/-- `_dataset_request` -/
def datasetRequest (operation : OperationId) (deadline : DeadlineMonitor)
    (credential : Option Credential) : CallEffect Stream RequestAttempt (Request Stream) := do
  deadline.assertDispatchable (readClock environment)
  Effect.ofExcept (client.newRequest call operation credential deadline)

/-- The `except` clauses of `_RequestAttempt.dispatch`. -/
def RequestAttempt.handle {α : Type} (operation : OperationId) (key : CircuitKey)
    (before : CircuitState) (request : Request Stream) (error : Raised) :
    CallEffect Stream RequestAttempt α :=
  if error.errorClass = .budgetExhausted then do
    let attempt ← readLocals
    Effect.raise (client.settleDatasetBudgetError error request attempt.response)
  else if error.isTransport = true then do
    setLocals fun attempt => { attempt with recorded := true }
    let after ← recordTransportFailure environment key
    emitBreakerChange environment operation before.isOpen after.isOpen
    Effect.raise error
  else Effect.raise error

/-- What a completed attempt records of its response. -/
def RequestAttempt.record (operation : OperationId) (key : CircuitKey) (before : CircuitState)
    (response : RuntimeResponse) : CallEffect Stream RequestAttempt Unit := do
  let after ← recordResponse environment key response.statusCode
  setLocals fun attempt => { attempt with recorded := true }
  emitBreakerChange environment operation before.isOpen after.isOpen

/-- `_RequestAttempt.dispatch` around a block that is given the request. -/
def RequestAttempt.dispatch (operation : OperationId) (key : CircuitKey)
    (request : Request Stream) (block : Request Stream → CallEffect Stream RequestAttempt Unit) :
    CallEffect Stream RequestAttempt Unit := do
  setLocals fun attempt =>
    { attempt with attempts := attempt.attempts + 1, recorded := false, response := none }
  let before ← inspect environment key
  let request ← attemptRequest environment (call.formBody.any FormBody.isCallable) request
  checkDeadline environment request
  setLocals fun attempt => { attempt with completed := false }
  Effect.tryFinally
    (Effect.tryExcept
      (do
        block request
        checkDeadline environment request
        setLocals fun attempt => { attempt with completed := true })
      (RequestAttempt.handle environment client operation key before request))
    (do
      let attempt ← readLocals
      if attempt.completed = true then
        match attempt.response with
        | none => Effect.raise { errorClass := .exception }
        | some response => RequestAttempt.record environment operation key before response
      else pure ())

/-- The response of an attempt, behind its `assert`. -/
def RequestAttempt.answer : CallEffect Stream RequestAttempt RuntimeResponse := do
  let attempt ← readLocals
  match attempt.response with
  | some response => return response
  | none => Effect.raise { errorClass := .exception }

/-- `_send_dataset_attempt` -/
def sendDatasetAttempt (operation : OperationId) (key : CircuitKey) (request : Request Stream)
    (credential : Option Credential) : CallEffect Stream RequestAttempt RuntimeResponse := do
  RequestAttempt.dispatch environment client call operation key request fun request => do
    let response ← sendRequest environment (decide (call.owningOperation = setSiteOperation))
      credential call.jsonBody request
    setLocals fun attempt => { attempt with response := some response }
  RequestAttempt.answer

/-- `_RequestAttempt.release_trial` -/
def RequestAttempt.release (key : CircuitKey) : CallEffect Stream RequestAttempt Unit := do
  let attempt ← readLocals
  if attempt.recorded = false then releaseTrial environment key else pure ()

/-- `_dataset_retry` around a block. -/
def datasetRetry {α : Type} (operation : OperationId) (key : CircuitKey)
    (block : CallEffect Stream RequestAttempt α) : CallEffect Stream RequestAttempt α :=
  Effect.tryFinally
    (Effect.tryExcept block fun error =>
      if error.isException = true then do
        emitDatasetFailure environment operation error call.emitSuccess
        Effect.raise error
      else Effect.raise error)
    (RequestAttempt.release environment key)

/-- `_finish_dataset_call` -/
def finishDatasetCall (operation : OperationId) (response : RuntimeResponse)
    (request : Request Stream) (scope : String) : CallEffect Stream RequestAttempt CallResult := do
  let result ← Effect.tryExcept
    (decodeDatasetResponse environment client call operation response request.maxResponseBytes
      scope)
    fun error =>
      if error.isException = true then do
        emitDatasetFailure environment operation error call.emitSuccess
        Effect.raise error
      else Effect.raise error
  emitDatasetSuccess environment operation call.emitSuccess
  return result

/-- What `_dataset_call` knows when it asks for the admission of its request. -/
structure PreparedCall (Stream : Type) where
  operation : OperationId
  deadline : DeadlineMonitor
  credential : Option Credential
  scope : String
  request : Request Stream

/-- `SyncUDataClient._dataset_call` up to the admission of its request. -/
def prepareDatasetCall : CallEffect Stream RequestAttempt (PreparedCall Stream) := do
  let (operation, deadline) ← datasetDeadline environment client call
  requireSiteVersion environment
  let credential ← resolvedCredential environment call
  let scope ← refreshCredentialScope environment credential
  let effective ← resolve environment operation scope
  Effect.ofExcept (client.requireDispatchable operation effective call.permissions)
  let request ← datasetRequest environment client call operation deadline credential
  return ⟨operation, deadline, credential, scope, request⟩

/-- `SyncUDataClient._dataset_call` -/
def datasetCall : CallEffect Stream RequestAttempt CallResult := do
  let ⟨operation, deadline, credential, scope, request⟩ ←
    prepareDatasetCall environment client call
  let key ← admitRequest environment client operation request
  setLocals fun _ => {}
  let response ← datasetRetry environment call operation key
    ((retryLoop client call deadline).run (readClock environment)
      (sendDatasetAttempt environment client call operation key request credential)
      (sleep environment))
  finishDatasetCall environment client call operation response request scope

end Synchronous

/-! ## The asynchronous path -/

section Asynchronous

variable (environment : CallEnvironment Stream) (client : UDataClient)
  (call : DatasetCall Stream)

/-- The variables of an asynchronous call: `recorded[0]`, and `response` of its attempt. -/
structure AsyncAttempt where
  recorded : Bool := false
  response : Option RuntimeResponse := none

/-- `site_version` -/
def siteVersion : CallEffect Stream AsyncAttempt Unit :=
  if client.closed = true then
    Effect.raise (.runtimeError "The asynchronous uData client is closed.")
  else requireCurrent environment

/-- The `except` clauses of `_send_dataset_attempt`. -/
def AsyncAttempt.handle {α : Type} (operation : OperationId) (key : CircuitKey)
    (before : CircuitState) (request : Request Stream) (error : Raised) :
    CallEffect Stream AsyncAttempt α :=
  if error.errorClass = .budgetExhausted then do
    let attempt ← readLocals
    Effect.raise (client.settleDatasetBudgetError error request attempt.response)
  else if error.isTransport = true then do
    setLocals fun attempt => { attempt with recorded := true }
    let after ← recordTransportFailure environment key
    emitBreakerChange environment operation before.isOpen after.isOpen
    Effect.raise error
  else Effect.raise error

/-- `AsyncUDataClient._send_dataset_attempt` -/
def sendDatasetAttemptAsync (operation : OperationId) (key : CircuitKey)
    (request : Request Stream) (credential : Option Credential) :
    CallEffect Stream AsyncAttempt RuntimeResponse := do
  setLocals fun _ => {}
  let before ← inspect environment key
  let request ← attemptRequest environment (call.formBody.any FormBody.isCallable) request
  checkDeadline environment request
  Effect.tryExcept
    (do
      let response ← sendRequest environment (decide (call.owningOperation = setSiteOperation))
        credential call.jsonBody request
      setLocals fun attempt => { attempt with response := some response }
      checkDeadline environment request)
    (AsyncAttempt.handle environment client operation key before request)
  let attempt ← readLocals
  match attempt.response with
  | none => Effect.raise { errorClass := .exception }
  | some response => do
      let after ← recordResponse environment key response.statusCode
      setLocals fun attempt => { attempt with recorded := true }
      emitBreakerChange environment operation before.isOpen after.isOpen
      return response

/-- `AsyncUDataClient._dataset_call_async` -/
def datasetCallAsync : CallEffect Stream AsyncAttempt CallResult :=
  match call.unknownOverrides with
  | some names => Effect.raise (unknownOverridesError names)
  | none =>
      if client.closed = true then
        Effect.raise (.runtimeError "The asynchronous uData client is closed.")
      else do
        let operation ← Effect.ofExcept (operationIdFrom call.owningOperation)
        let deadline ← callDeadline environment client call
        let deadline := deadline.named operation.text platform
        deadline.assertDispatchable (readClock environment)
        siteVersion environment client
        let credential ← resolvedCredential environment call
        let scope ← refreshCredentialScope environment credential
        let effective ← resolve environment operation scope
        Effect.ofExcept (client.requireDispatchable operation effective call.permissions)
        deadline.assertDispatchable (readClock environment)
        let request ← Effect.ofExcept (client.newRequest call operation credential deadline)
        let key ← admitRequest environment client operation request
        setLocals fun _ => {}
        let response ← Effect.tryFinally
          (Effect.tryExcept
            ((retryLoop client call deadline).runAsync (readClock environment)
              (sendDatasetAttemptAsync environment client call operation key request credential)
              (sleep environment))
            fun error =>
              if error.isException = true then do
                emitDatasetFailure environment operation error call.emitSuccess
                Effect.raise error
              else Effect.raise error)
          (do
            let attempt ← readLocals
            if attempt.recorded = false then releaseTrial environment key else pure ())
        let result ← Effect.tryExcept
          (decodeDatasetResponse environment client call operation response
            (some (call.maxResponseBytes.getD 1048576)) scope)
          fun error =>
            if error.isException = true then do
              emitDatasetFailure environment operation error call.emitSuccess
              Effect.raise error
            else Effect.raise error
        emitDatasetSuccess environment operation call.emitSuccess
        return result

end Asynchronous

end DataSluice.Catalog.Udata
