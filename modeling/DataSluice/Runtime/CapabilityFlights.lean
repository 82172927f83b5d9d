/-
# Flights of the capability cache

`EffectiveCapabilityCache` under an adversarial scheduler. A step is one section that holds
the lock, or one of the things that happen outside it: a probe starts or ends, a follower
wakes up, the callback of a cancelled flight runs, the clock moves. The two dictionaries of
flights are one here, told apart by the mode of the calls that share it.

For the properties of runs the model keeps what the code does not: what a profile was made
for, and how many invalidations had covered an operation when a probe of it started and when
the result of a call was decided.
-/

import DataSluice.Lib.Transition
import DataSluice.Runtime.Capability

namespace DataSluice.Runtime.Capability

open DataSluice.Lib DataSluice.Domain

/-- A profile and where it comes from. -/
structure Result where
  profile : EffectiveCapabilityProfile
  operation : OperationId
  credentialScope : String
  /-- For a profile that a probe of the cache came to: the number of invalidations that had
  covered the operation when the probe started. -/
  probe : Option Nat

/-- A result, and how many invalidations had covered its operation when it was decided. -/
structure Decided where
  result : Result
  decidedAt : Nat

/-- `resolve` is synchronous, `resolve_async` is not. -/
inductive Mode
  | sync
  | async
  deriving DecidableEq

/-- `_SyncFlight` -/
structure SyncFlight where
  event : Bool := false
  profile : Option Decided := none
  error : Option Raised := none
  cancelled : Bool := false

/-- `_AsyncFlight`, whose future holds a value once it is done. The callback is the exception
that `_cancel_async_flight` asked the loop to set. -/
structure AsyncFlight where
  loop : Nat
  future : Option (Except Raised Decided) := none
  cancelled : Bool := false
  callback : Option Raised := none

/-- A flight of either kind. -/
inductive Flight
  | sync (flight : SyncFlight)
  | async (flight : AsyncFlight)

namespace Flight

/-- The flight that a leader of the given mode creates. -/
def create (mode : Mode) (loop : Nat) : Flight :=
  match mode with
  | .sync => .sync {}
  | .async => .async { loop }

def cancelled : Flight → Bool
  | .sync flight => flight.cancelled
  | .async flight => flight.cancelled

/-- What a follower gets if it looks at the flight: nothing yet, an error or a profile. -/
def outcome : Flight → Option (Except Raised Decided)
  | .sync flight =>
      if flight.event then
        match flight.error, flight.profile with
        | some error, _ => some (.error error)
        | none, none => some (.error
            (.runtimeError "Capability probe completed without an effective profile."))
        | none, some decided => some (.ok decided)
      else none
  | .async flight => flight.future

/-- What `_fail_sync_leader` and `_fail_async_leader` publish. -/
def fail (operation : OperationId) (error : Raised) : Flight → Flight
  | .sync flight =>
      .sync { flight with error := some (followerFailure operation error), event := true }
  | .async flight =>
      .async { flight with
        future := some (flight.future.getD (.error (asyncFollowerFailure operation error))) }

/-- What `_complete_sync_leader` and `_complete_async_leader` leave of a cancelled flight. -/
def refuse (operation : OperationId) : Flight → Flight
  | .sync flight =>
      .sync { flight with
        error := some (flight.error.getD (invalidationError operation)), event := true }
  | .async flight => .async flight

/-- The error that the leader of a cancelled flight raises. -/
def refusal (operation : OperationId) : Flight → Raised
  | .sync flight => flight.error.getD (invalidationError operation)
  | .async _ => invalidationError operation

/-- What `_complete_sync_leader` and `_complete_async_leader` publish. -/
def publish (decided : Decided) : Flight → Flight
  | .sync flight => .sync { flight with profile := some decided, event := true }
  | .async flight => .async { flight with future := some (flight.future.getD (.ok decided)) }

/-- What `invalidate` makes of a flight: `_cancel_async_flight` for an asynchronous one, whose
loop may be closed. -/
def cancel (error : Raised) (closed : Nat → Bool) : Flight → Flight
  | .sync flight => .sync { flight with cancelled := true, error := some error, event := true }
  | .async flight =>
      .async { flight with
        cancelled := true
        callback := if closed flight.loop then flight.callback else some error }

/-- The callback `complete` of `_cancel_async_flight` runs on its loop. -/
def settle : Flight → Flight
  | .sync flight => .sync flight
  | .async flight =>
      match flight.callback with
      | none => .async flight
      | some error =>
          .async { flight with future := some (flight.future.getD (.error error)) }

/-- A task that awaits the future is cancelled, which cancels the future unless it is done. -/
def abandon (error : Raised) : Flight → Flight
  | .sync flight => .sync flight
  | .async flight => .async { flight with future := some (flight.future.getD (.error error)) }

end Flight

/-- How far a call has come. -/
inductive CallPhase
  | idle
  | /-- The cache held no fresh entry, and the call goes on to its flight. -/
    missed
  | /-- The call leads a flight and has not started its probe. -/
    leading (flight : Nat)
  | /-- The probe runs; it started after so many invalidations of its operation. -/
    probing (flight epoch : Nat)
  | /-- The probe has ended, and the completing section has not run. -/
    probed (flight epoch : Nat) (answer : Except Raised EffectiveCapabilityProfile)
      (completedAt : ℚ)
  | following (flight : Nat)
  | /-- The call returned the profile of an entry that it read at a time. -/
    served (entry : TimedCache.Entry Result) (now : ℚ)
  | ended (outcome : Except Raised Decided)

/-- The flight that a call leads. -/
def CallPhase.leads : CallPhase → Option Nat
  | .leading flight | .probing flight _ | .probed flight _ _ _ => some flight
  | _ => none

/-- A call of `resolve`, `resolve_async` or `peek`, and how many invalidations had covered
its operation when it started. -/
structure ResolveCall where
  mode : Mode
  operation : OperationId
  credentialScope : String
  startedAt : Nat
  phase : CallPhase

/-- A dictionary of flights and a key in it. -/
abbrev Slot := Mode × CacheKey

/-- The cache and the calls on it. -/
structure Cache where
  entries : List (CacheKey × TimedCache.Entry Result)
  /-- `_sync_flights` and `_async_flights` -/
  flights : Slot → Option Nat
  flight : Nat → Flight
  /-- The slot a flight was created for. -/
  flightSlot : Nat → Slot
  /-- How many flights were created; the next one's number. -/
  flightCount : Nat
  calls : Nat → ResolveCall
  clock : ℚ
  /-- The invalidations that have covered an operation. -/
  epoch : OperationId → Nat
  /-- The results of probes that were stored, with their timestamps. -/
  stores : List (CacheKey × ℚ)

/-- The scheduler's choices. -/
inductive CacheEvent
  | tick (now : ℚ)
  | check (call : Nat) (mode : Mode) (operation : OperationId) (credentialScope : String)
  | elect (call loop : Nat)
  | startProbe (call : Nat)
  | endProbe (call : Nat) (answer : Except Raised ProbeEvidence)
  | complete (call : Nat)
  | wake (call : Nat)
  | abandon (call : Nat)
  | settle (flight : Nat)
  | peek (call : Nat) (operation : OperationId) (credentialScope : String)
  | recordResponse (operation : OperationId) (responseClass : ProbeResponseClass)
      (credentialScope : String)
  | recordEvidence (evidence : ProbeEvidence) (credentialScope : String)
  | invalidate (target : Option OperationId) (closed : Nat → Bool)

/-- Whether an invalidation of a target covers an operation. -/
def covers (target : Option OperationId) (operation : OperationId) : Bool :=
  match target with
  | none => true
  | some covered => decide (operation = covered)

/-- The exception of a cancelled task. -/
def cancelledError : Raised := { errorClass := .cancelled }

namespace CacheConfig

variable (config : CacheConfig)

/-- Whether a probe runner for calls of the mode is attached. -/
def hasRunner : Mode → Bool
  | .sync => config.probeRunner
  | .async => config.asyncProbeRunner

/-- The dictionary and key of a call's flight. -/
def slot (call : ResolveCall) : Slot :=
  (call.mode, config.cacheKey call.operation call.credentialScope)

@[simp] theorem slot_operationId (call : ResolveCall) :
    (config.slot call).2.operationId = call.operation := rfl

@[simp] theorem slot_credentialScope (call : ResolveCall) :
    (config.slot call).2.credentialScope = call.credentialScope := rfl

end CacheConfig

namespace Cache

variable (config : CacheConfig) (cache : Cache)

/-- Put one call into a new phase. -/
def goto (call : Nat) (phase : CallPhase) : Cache :=
  { cache with
    calls := Function.update cache.calls call { cache.calls call with phase := phase } }

/-- Start a call. -/
def start (call : Nat) (mode : Mode) (operation : OperationId) (credentialScope : String)
    (phase : CallPhase) : Cache :=
  { cache with
    calls := Function.update cache.calls call
      ⟨mode, operation, credentialScope, cache.epoch operation, phase⟩ }

/-- `_store_entry` -/
def storeEntry (key : CacheKey) (result : Result) (timestamp : ℚ) : Cache :=
  { cache with entries := config.storeEntry cache.entries key result timestamp }

/-- `_discard_sync_flight` and `_discard_async_flight` -/
def discard (slot : Slot) (flight : Nat) : Cache :=
  { cache with
    flights := fun other =>
      if other = slot ∧ cache.flights other = some flight then none else cache.flights other }

/-- Change one flight. -/
def putFlight (flight : Nat) (change : Flight → Flight) : Cache :=
  { cache with
    flight := Function.update cache.flight flight (change (cache.flight flight)) }

@[simp] theorem putFlight_flight_self (flight : Nat) (change : Flight → Flight) :
    (cache.putFlight flight change).flight flight = change (cache.flight flight) :=
  Function.update_self _ _ _

theorem putFlight_flight_of_ne {flight other : Nat} (hother : other ≠ flight)
    (change : Flight → Flight) :
    (cache.putFlight flight change).flight other = cache.flight other :=
  Function.update_of_ne hother _ _

/-- The leader of a new flight. -/
def lead (call loop : Nat) : Cache :=
  { cache.goto call (.leading cache.flightCount) with
    flights := Function.update cache.flights (config.slot (cache.calls call))
      (some cache.flightCount)
    flight := Function.update cache.flight cache.flightCount
      (Flight.create (cache.calls call).mode loop)
    flightSlot := Function.update cache.flightSlot cache.flightCount
      (config.slot (cache.calls call))
    flightCount := cache.flightCount + 1 }

/-- The profile that a call gets when nothing is to be probed. -/
def baselineResult (operation : OperationId) (credentialScope : String) : Decided where
  result := ⟨config.baseline, operation, credentialScope, none⟩
  decidedAt := cache.epoch operation

/-- What a call of `resolve` or `resolve_async` finds in its first section, and what it does
when it finds nothing. -/
def check (call : Nat) (mode : Mode) (operation : OperationId) (credentialScope : String) :
    Cache :=
  let (found, entries) :=
    config.freshEntry cache.entries (config.cacheKey operation credentialScope) cache.clock
  let checked := { cache with entries := entries }
  match found with
  | some entry => checked.start call mode operation credentialScope (.served entry cache.clock)
  | none =>
      if (config.declaredProfile.operations operation).isNone ∨ config.hasRunner mode = false then
        checked.start call mode operation credentialScope
          (.ended (.ok (cache.baselineResult config operation credentialScope)))
      else checked.start call mode operation credentialScope .missed

/-- `peek` -/
def peek (call : Nat) (operation : OperationId) (credentialScope : String) : Cache :=
  let (found, entries) :=
    config.freshEntry cache.entries (config.cacheKey operation credentialScope) cache.clock
  let checked := { cache with entries := entries }
  match found with
  | some entry => checked.start call .sync operation credentialScope (.served entry cache.clock)
  | none =>
      checked.start call .sync operation credentialScope
        (.ended (.ok (cache.baselineResult config operation credentialScope)))

/-- The last section of a leader whose probe failed: `_fail_sync_leader` and
`_fail_async_leader`. -/
def failLeader (call flight : Nat) (error : Raised) : Cache :=
  let record := cache.calls call
  ((cache.putFlight flight (Flight.fail record.operation error)).discard (config.slot record)
    flight).goto call (.ended (.error error))

/-- The last section of a leader whose probe succeeded: `_complete_sync_leader` and
`_complete_async_leader`. -/
def completeLeader (call flight epoch : Nat) (profile : EffectiveCapabilityProfile)
    (completedAt : ℚ) : Cache :=
  let record := cache.calls call
  let slot := config.slot record
  let result : Result := ⟨profile, record.operation, record.credentialScope, some epoch⟩
  let decided : Decided := ⟨result, cache.epoch record.operation⟩
  if (cache.flight flight).cancelled then
    ((cache.putFlight flight (Flight.refuse record.operation)).discard slot flight).goto call
      (.ended (.error ((cache.flight flight).refusal record.operation)))
  else
    { (((cache.storeEntry config slot.2 result completedAt).putFlight flight
        (Flight.publish decided)).discard slot flight).goto call (.ended (.ok decided)) with
      stores := (slot.2, completedAt) :: cache.stores }

/-- `record_response` -/
def recordResponse (operation : OperationId) (responseClass : ProbeResponseClass)
    (credentialScope : String) : Cache :=
  cache.storeEntry config (config.cacheKey operation credentialScope)
    ⟨config.responseProfile operation responseClass, operation, credentialScope, none⟩ cache.clock

/-- `record_evidence`; evidence that is refused leaves the cache alone. -/
def recordEvidence (evidence : ProbeEvidence) (credentialScope : String) : Cache :=
  let operation := evidence.operationId
  match (config.validateEvidence operation evidence credentialScope).bind
      fun _ => config.profileFromEvidence operation evidence with
  | .error _ => cache
  | .ok profile =>
      cache.storeEntry config (config.cacheKey operation credentialScope)
        ⟨profile, operation, credentialScope, none⟩ cache.clock

/-- Whether an invalidation finds a flight in its dictionary and covers its operation. -/
def cancels (target : Option OperationId) (flight : Nat) : Bool :=
  covers target (cache.flightSlot flight).2.operationId &&
    decide (cache.flights (cache.flightSlot flight) = some flight)

/-- `invalidate` -/
def invalidate (target : Option OperationId) (closed : Nat → Bool) : Cache :=
  { cache with
    entries := cache.entries.filter fun entry => !covers target entry.1.operationId
    flights := fun slot =>
      if covers target slot.2.operationId then none else cache.flights slot
    flight := fun flight =>
      if cache.cancels target flight then
        (cache.flight flight).cancel
          (invalidationError (cache.flightSlot flight).2.operationId) closed
      else cache.flight flight
    epoch := fun operation =>
      if covers target operation then cache.epoch operation + 1 else cache.epoch operation }

/-- One scheduled step. A credential scope that is empty makes a call raise before it does
anything. -/
def step : CacheEvent → Option Cache
  | .tick now => if cache.clock ≤ now then some { cache with clock := now } else none
  | .check call mode operation credentialScope =>
      match (cache.calls call).phase with
      | .idle =>
          if credentialScope = "" then none
          else some (cache.check config call mode operation credentialScope)
      | _ => none
  | .elect call loop =>
      match (cache.calls call).phase with
      | .missed =>
          match cache.flights (config.slot (cache.calls call)) with
          | some flight => some (cache.goto call (.following flight))
          | none => some (cache.lead config call loop)
      | _ => none
  | .startProbe call =>
      match (cache.calls call).phase with
      | .leading flight =>
          some (cache.goto call (.probing flight (cache.epoch (cache.calls call).operation)))
      | _ => none
  | .endProbe call answer =>
      match (cache.calls call).phase with
      | .probing flight epoch =>
          some (cache.goto call (.probed flight epoch
            (config.resolveFromRunner (cache.calls call).operation
              (cache.calls call).credentialScope answer) cache.clock))
      | _ => none
  | .complete call =>
      match (cache.calls call).phase with
      | .probed flight _ (.error error) _ => some (cache.failLeader config call flight error)
      | .probed flight epoch (.ok profile) completedAt =>
          some (cache.completeLeader config call flight epoch profile completedAt)
      | _ => none
  | .wake call =>
      match (cache.calls call).phase with
      | .following flight =>
          (cache.flight flight).outcome.map fun outcome => cache.goto call (.ended outcome)
      | _ => none
  | .abandon call =>
      match (cache.calls call).phase with
      | .following flight =>
          some ((cache.putFlight flight (Flight.abandon cancelledError)).goto call
            (.ended (.error cancelledError)))
      | _ => none
  | .settle flight => some (cache.putFlight flight Flight.settle)
  | .peek call operation credentialScope =>
      match (cache.calls call).phase with
      | .idle =>
          if credentialScope = "" then none
          else some (cache.peek config call operation credentialScope)
      | _ => none
  | .recordResponse operation responseClass credentialScope =>
      if credentialScope = "" then none
      else some (cache.recordResponse config operation responseClass credentialScope)
  | .recordEvidence evidence credentialScope =>
      if credentialScope = "" then none
      else some (cache.recordEvidence config evidence credentialScope)
  | .invalidate target closed => some (cache.invalidate target closed)

/-- A cache that no call has used yet. -/
def fresh (clock : ℚ) : Cache where
  entries := []
  flights _ := none
  flight _ := .sync {}
  flightSlot _ := (.sync, ⟨"", "", "", ⟨"", "", ""⟩⟩)
  flightCount := 0
  calls _ := ⟨.sync, ⟨"", "", ""⟩, "", 0, .idle⟩
  clock := clock
  epoch _ := 0
  stores := []

/-- The interleavings of calls on one cache. -/
def system : System Cache CacheEvent where
  init cache := ∃ clock, cache = fresh clock
  step cache := step config cache

end Cache

end DataSluice.Runtime.Capability
