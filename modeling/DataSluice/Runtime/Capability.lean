/-
# The capability cache

What `EffectiveCapabilityCache` computes without its lock: the key of an entry, the checks
of probe evidence, the profile made of evidence or of a response, and the entries after
storing or looking up a profile. The cache is a bounded cache with timestamps; what is kept
beside the profile of an entry is left open, for the properties of runs.
-/

import DataSluice.Domain.Profiles
import DataSluice.Lib.TimedCache
import DataSluice.Lib.Url
import DataSluice.Runtime.Errors

namespace DataSluice.Runtime.Capability

open DataSluice.Lib DataSluice.Lib.Url DataSluice.Domain

/-- `_MAX_CACHE_ENTRIES` -/
def maxCacheEntries : Nat := 1024

/-- What the constructor of `EffectiveCapabilityCache` keeps. The declared profile is that
of the baseline. -/
structure CacheConfig where
  baseline : EffectiveCapabilityProfile
  /-- A synchronous probe runner is attached. -/
  probeRunner : Bool
  /-- An asynchronous probe runner is attached. -/
  asyncProbeRunner : Bool
  cacheNamespace : String := "default"
  deploymentOrigin : Option String := none
  ttlSeconds : ℚ
  unicode : UnicodeData
  cacheNamespace_ne : cacheNamespace ≠ "" := by decide
  ttlSeconds_nonneg : 0 ≤ ttlSeconds

/-- The key of an entry: the tuple of `_cache_key`. -/
structure CacheKey where
  cacheNamespace : String
  deploymentOrigin : String
  credentialScope : String
  operationId : OperationId
  deriving DecidableEq

namespace CacheConfig

variable (config : CacheConfig)

/-- `_declared_profile` -/
def declaredProfile : DeclaredCapabilityProfile := config.baseline.declaredProfile

/-- `_cache_key` -/
def cacheKey (operation : OperationId) (credentialScope : String) : CacheKey where
  cacheNamespace := config.cacheNamespace
  deploymentOrigin := config.deploymentOrigin.getD ""
  credentialScope := credentialScope
  operationId := operation

/-! ## Evidence -/

/-- `_origin_from_evidence` -/
def originFromEvidence (deploymentUrl : String) : Except Raised Text :=
  match urlsplit config.unicode deploymentUrl.toList with
  | .error _ =>
      .error (.valueError "Capability probe evidence must contain a valid deployment URL.")
  | .ok parsed =>
      if parsed.scheme ≠ "https".toList ∨ parsed.netloc = [] ∨ parsed.username.isSome ∨
          parsed.password.isSome ∨ parsed.query ≠ [] ∨ parsed.fragment ≠ [] then
        .error (.valueError
          "Capability probe evidence must contain a sanitized HTTPS deployment URL.")
      else
        .ok (urlunsplit ⟨config.unicode.lower parsed.scheme, config.unicode.lower parsed.netloc,
          [], [], []⟩)

/-- `_validate_credential_evidence` -/
def validateCredentialEvidence (evidence : ProbeEvidence) (credentialScope : String) :
    Except Raised Unit :=
  if credentialScope ≠ "anonymous" ∧ evidence.credentialScope ≠ some credentialScope then
    .error (.valueError "Capability probe evidence must match the resolved credential scope.")
  else if credentialScope = "anonymous" ∧ evidence.credentialScope ≠ none ∧
      evidence.credentialScope ≠ some "anonymous" then
    .error (.valueError
      "Anonymous capability probes cannot carry authenticated credential evidence.")
  else if credentialScope = "anonymous" ∧ evidence.credentialClassification ≠ .anonymous then
    .error (.valueError "Anonymous capability probes must carry anonymous credential evidence.")
  else if credentialScope ≠ "anonymous" ∧ evidence.credentialClassification = .anonymous then
    .error (.valueError
      "Authenticated capability probes must carry authenticated credential evidence.")
  else if credentialScope ≠ "anonymous" ∧ evidence.roleClassification = .anonymous then
    .error (.valueError "Authenticated capability probes cannot carry anonymous role evidence.")
  else .ok ()

/-- `_validate_evidence` of evidence that is a `ProbeEvidence`. -/
def validateEvidence (operation : OperationId) (evidence : ProbeEvidence)
    (credentialScope : String) : Except Raised Unit := do
  if evidence.operationId ≠ operation then
    throw (.valueError "Capability probe evidence must match the requested operation.")
  validateCredentialEvidence evidence credentialScope
  let origin ← config.originFromEvidence evidence.deploymentUrl
  if config.deploymentOrigin.isSome ∧ config.deploymentOrigin.map String.toList ≠ some origin then
    throw (.valueError "Capability probe evidence must match the configured deployment origin.")

/-- `_invalid_evidence_error` -/
def invalidEvidenceError (operation : OperationId) : Raised where
  errorClass := .validation
  message := "Capability probe returned invalid evidence."
  operation := some operation.text
  platform := some operation.platform
  capabilityState := some "invalid-probe-evidence"
  safeAction := some "Fix the probe runner to return sanitized HTTPS evidence before retrying."

/-- `_profile_from_evidence` -/
def profileFromEvidence (operation : OperationId) (evidence : ProbeEvidence) :
    Except Raised EffectiveCapabilityProfile :=
  match hdeclared : config.baseline.declaredProfile.operations operation with
  | none =>
      .error (.valueError
        ("Probe evidence references undeclared operation " ++ operation.text ++ "."))
  | some spec =>
      .ok (config.baseline.withCapability operation spec hdeclared
        (effectiveState spec (some evidence)) (some evidence))

/-- `isinstance(error, (TypeError, ValueError))` -/
def isInvalid (error : Raised) : Bool :=
  decide (error.errorClass = .typeError ∨ error.errorClass = .valueError ∨
    error.errorClass = .unicodeDecodeError)

/-- What `_resolve_from_runner` and `_resolve_from_async_runner` make of what a probe came
to: evidence, or the exception it raised. -/
def resolveFromRunner (operation : OperationId) (credentialScope : String)
    (answer : Except Raised ProbeEvidence) : Except Raised EffectiveCapabilityProfile :=
  let checked := answer.bind fun evidence =>
    (config.validateEvidence operation evidence credentialScope).map fun _ => evidence
  match checked with
  | .ok evidence => config.profileFromEvidence operation evidence
  | .error error =>
      if isInvalid error then .error (invalidEvidenceError operation) else .error error

/-! ## Responses -/

/-- `_declared_state` -/
def declaredState (operation : OperationId) : EffectiveCapabilityState :=
  match config.declaredProfile.operations operation with
  | none => .unsupported
  | some spec => spec.capabilityClass.state

/-- `_profile_with_state` -/
def profileWithState (operation : OperationId) (state : EffectiveCapabilityState) :
    EffectiveCapabilityProfile :=
  match hdeclared : config.baseline.declaredProfile.operations operation with
  | none => config.baseline
  | some spec => config.baseline.withCapability operation spec hdeclared state none

/-- The profile that `record_response` stores. -/
def responseProfile (operation : OperationId) (responseClass : ProbeResponseClass) :
    EffectiveCapabilityProfile :=
  config.profileWithState operation
    (responseClass.refusedState.getD (config.declaredState operation))

/-! ## Entries -/

variable {Payload : Type}

/-- `_store_entry` -/
def storeEntry (entries : List (CacheKey × TimedCache.Entry Payload)) (key : CacheKey)
    (payload : Payload) (timestamp : ℚ) : List (CacheKey × TimedCache.Entry Payload) :=
  TimedCache.store maxCacheEntries
    (fun entry => decide (timestamp - entry.timestamp ≤ 2 * config.ttlSeconds)) entries key
    ⟨payload, timestamp⟩

/-- `_fresh_entry`, when the clock shows `now`. -/
def freshEntry (entries : List (CacheKey × TimedCache.Entry Payload)) (key : CacheKey) (now : ℚ) :
    Option (TimedCache.Entry Payload) × List (CacheKey × TimedCache.Entry Payload) :=
  TimedCache.fresh config.ttlSeconds now entries key

end CacheConfig

/-! ## Errors of shared probes -/

/-- `_invalidation_error` -/
def invalidationError (operation : OperationId) : Raised where
  errorClass := .unavailable
  message := "Capability evidence was invalidated before the probe completed."
  operation := some operation.text
  platform := some operation.platform
  capabilityState := some "unavailable"
  safeAction := some
    "Retry the operation to obtain fresh deployment and credential evidence."

/-- The error that a failed probe becomes for those who waited for it. -/
def probeError (operation : OperationId) (message : String) : Raised where
  errorClass := .unavailable
  message := message
  operation := some operation.text
  platform := some operation.platform
  capabilityState := some "unavailable"
  safeAction := some "Retry the operation once the catalog deployment is reachable."

/-- `_follower_failure` -/
def followerFailure (operation : OperationId) (error : Raised) : Raised :=
  if error.errorClass = .cancelled then
    probeError operation "The capability probe was cancelled before it completed."
  else error

/-- `_async_follower_failure` -/
def asyncFollowerFailure (operation : OperationId) (error : Raised) : Raised :=
  if error.errorClass = .cancelled then
    probeError operation "The capability probe was cancelled before it completed."
  else probeError operation "The capability probe failed before it completed."

/-! ## The guard -/

/-- `require_allowed` of the guard that `build_catalog_operation_guard` builds for a profile
without permissions. -/
def requireAllowed (operation : OperationId) (profile : EffectiveCapabilityProfile) :
    Except Raised Unit :=
  let decision := profile.guard operation
  if decision.allowed then .ok ()
  else .error
    { errorClass :=
        if decision.state = .unauthorized then .unauthenticated
        else if decision.state = .forbidden then .forbidden
        else .unsupportedCapability
      message := "The catalog operation is " ++ decision.state.value ++ "."
      operation := some operation.text
      platform := some operation.platform
      capabilityState := some decision.state.value
      safeAction := some (decision.remedy.getD
        "Inspect the deployment capability profile before retrying.") }

end DataSluice.Runtime.Capability
