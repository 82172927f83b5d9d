/-
# Exceptions

The exception classes that the runtime and the connectors tell apart, and what they read
of an exception: its class, its message, a `status_code` attribute, a metadata mapping, and
what a `BudgetExhaustedError` says about the time. A class that nothing tells apart from its
siblings counts with them.
-/

import Mathlib.Algebra.Order.Ring.Rat
import DataSluice.Domain.Metadata

namespace DataSluice.Runtime

open DataSluice.Domain

/-- The class of an exception. -/
inductive ErrorClass
  | transportError
  | budgetExhausted
  | unauthenticated
  | forbidden
  | notFound
  | validation
  | conflict
  | rateLimit
  | unavailable
  | unsupportedCapability
  | versionError
  | nativeCatalogError
  | valueError
  | unicodeDecodeError
  | typeError
  | runtimeError
  | osError
  | /-- Any other subclass of `Exception`. -/
    exception
  | exceptionGroup
  | cancelled
  | keyboardInterrupt
  | generatorExit
  | systemExit
  | /-- Any other subclass of `BaseException`. -/
    baseException
  deriving DecidableEq

/-- `isinstance(error, Exception)` -/
def ErrorClass.isException : ErrorClass → Bool
  | .exceptionGroup | .cancelled | .keyboardInterrupt | .generatorExit | .systemExit
  | .baseException => false
  | _ => true

/-- Why a retry was under consideration when the time ran out. -/
structure RetryWait where
  delaySeconds : ℚ
  attempt : Nat
  maxAttempts : Nat
  reason : String

/-- The `retry_state` of a `BudgetExhaustedError`, told apart by its `phase`. -/
inductive RetryState
  | dispatch
  | retryWait (wait : RetryWait)

/-- What a `BudgetExhaustedError` says beside its message. -/
structure Exhaustion where
  elapsedSeconds : ℚ
  budgetSeconds : ℚ
  retryState : RetryState

/-- An exception. -/
structure Raised where
  errorClass : ErrorClass
  message : String := ""
  operation : Option String := none
  platform : Option String := none
  capabilityState : Option String := none
  safeAction : Option String := none
  /-- The attribute `status_code`, when it is an integer. -/
  statusCode : Option Int := none
  /-- The attribute `metadata`, when it is a mapping. -/
  metadata : List (Key × Value) := []
  exhaustion : Option Exhaustion := none

namespace Raised

/-- `TransportError(message)` -/
def transportError (message : String) : Raised := { errorClass := .transportError, message }

/-- `ValueError(message)` -/
def valueError (message : String) : Raised := { errorClass := .valueError, message }

/-- `RuntimeError(message)` -/
def runtimeError (message : String) : Raised := { errorClass := .runtimeError, message }

/-- `isinstance(error, TransportError)` -/
def isTransport (error : Raised) : Bool := decide (error.errorClass = .transportError)

/-- `isinstance(error, Exception)` -/
def isException (error : Raised) : Bool := error.errorClass.isException

end Raised

/-! ## Metadata -/

/-- `attach_catalog_metadata` -/
def attachCatalogMetadata (redaction : MetadataRedaction) (error : Raised)
    (additions : List (Key × Value)) : Raised :=
  { error with metadata := boundedMetadata redaction (mergeEntries error.metadata additions) }

/-! ## Native failures -/

/-- What `map_catalog_error` reads of a `NativeCatalogError`. -/
structure NativeFailure where
  message : String
  operation : String
  platform : String
  statusCode : Option Int := none
  metadata : List (Key × Value) := []

/-- The class, capability state and safe action that a status stands for. -/
def nativeErrorOf (statusCode : Option Int) : ErrorClass × Option String × String :=
  if statusCode = some 401 then
    (.unauthenticated, some "unauthorized", "Provide valid credentials and retry the operation.")
  else if statusCode = some 403 then
    (.forbidden, some "forbidden", "Use credentials with the required scope or role.")
  else if statusCode = some 404 then
    (.notFound, none, "Confirm the target identifier and deployment.")
  else if statusCode = some 409 then
    (.conflict, none, "Refresh the target version token before retrying.")
  else if statusCode = some 410 then
    (.conflict, some "unavailable",
      "The target is deleted or retired; recreate it or address the archived resource.")
  else if statusCode = some 423 then
    (.unavailable, some "deployment-disabled",
      "The deployment is read-only; mutations require a writable deployment.")
  else if statusCode = some 422 then
    (.validation, none, "Correct the request according to the platform validation details.")
  else if statusCode = some 429 then
    (.rateLimit, none, "Wait for Retry-After before retrying a safe operation.")
  else if statusCode.all fun code => decide (500 ≤ code) then
    (.unavailable, some "unavailable", "Retry after the deployment is available.")
  else (.validation, none, "Correct the request before retrying.")

/-- `map_catalog_error` -/
def mapCatalogError (native : NativeFailure) : Raised :=
  let (errorClass, capabilityState, safeAction) := nativeErrorOf native.statusCode
  { errorClass
    message := native.message
    operation := some native.operation
    platform := some native.platform
    capabilityState
    safeAction := some safeAction
    metadata := native.metadata.filter (fun entry => decide (entry.1 ≠ .text "status_code")) ++
      [(.text "status_code", (native.statusCode.map Value.int).getD .none)] }

end DataSluice.Runtime
