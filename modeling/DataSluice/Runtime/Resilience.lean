/-
# Circuit snapshots and half-open trials

The registry of `runtime/resilience.py`. Every origin and credential scope has
an immutable circuit snapshot; a key never seen reads as the registry's initial
snapshot, so the `setdefault` dictionary is a total function here. The time a
circuit opened and the set of keys with a half-open trial in flight stand beside
the snapshots, exactly as in the source: the trial set holds keys, not owners.

A clock is whatever values it returned. `admit` reads it twice when the circuit
is open, once for the default of a missing opening time and once for the
comparison, so both readings are arguments.
-/

import Mathlib.Algebra.Order.Ring.Rat
import Mathlib.Data.Finset.Basic
import Mathlib.Logic.Function.Basic

namespace DataSluice.Runtime

/-- One circuit snapshot. The constructor's checks are fields. -/
structure CircuitState where
  failureCount : Nat := 0
  failureThreshold : Nat
  cooldown : ℚ
  isOpen : Bool := false
  threshold_pos : 0 < failureThreshold
  cooldown_pos : 0 < cooldown

namespace CircuitState

/-- The snapshot after one failed request. -/
def recordFailure (state : CircuitState) : CircuitState :=
  { state with
    failureCount := state.failureCount + 1
    isOpen := decide (state.failureThreshold ≤ state.failureCount + 1) }

/-- The closed snapshot with the same bounds. -/
def reset (state : CircuitState) : CircuitState :=
  { state with failureCount := 0, isOpen := false }

end CircuitState

/-- The identity of one circuit: an origin and a credential scope. -/
structure CircuitKey where
  origin : String
  credentialScope : String
  deriving DecidableEq

/-- The statuses `record_response` accepts. -/
def validStatus (status : Int) : Bool := decide (100 ≤ status) && decide (status ≤ 599)

/-- A status that is an HTTP status. -/
abbrev HttpStatus := { status : Int // validStatus status = true }

/-- What one valid response status says about the origin. -/
inductive Health
  | failure
  | success
  | neutral
  deriving DecidableEq

/-- Server errors are failures and 2xx and 3xx are successes; every other
status leaves the snapshot alone. -/
def healthOf (status : Int) : Health :=
  if 500 ≤ status then .failure
  else if 200 ≤ status ∧ status < 400 then .success
  else .neutral

/-- The registry shared by the dispatches of one runtime. -/
structure BreakerRegistry (Key : Type) where
  states : Key → CircuitState
  openedAt : Key → Option ℚ
  trialInFlight : Finset Key

namespace BreakerRegistry

variable {Key : Type} [DecidableEq Key]

/-- A registry that has seen no key yet: every circuit is closed. -/
def initial (failureThreshold : Nat) (cooldown : ℚ) (threshold_pos : 0 < failureThreshold)
    (cooldown_pos : 0 < cooldown) : BreakerRegistry Key where
  states _ := { failureThreshold, cooldown, threshold_pos, cooldown_pos }
  openedAt _ := none
  trialInFlight := ∅

/-- Whether the cool-down of an open circuit has passed for the two readings
of the clock that `admit` takes. -/
def CooledDown (registry : BreakerRegistry Key) (key : Key) (default now : ℚ) : Prop :=
  ¬ now - (registry.openedAt key).getD default < (registry.states key).cooldown

instance (registry : BreakerRegistry Key) (key : Key) (default now : ℚ) :
    Decidable (registry.CooledDown key default now) :=
  inferInstanceAs (Decidable (¬ _ < _))

/-- `admit`: whether one dispatch may proceed, and the registry after deciding it. -/
def admitCall (registry : BreakerRegistry Key) (key : Key) (default now : ℚ) :
    Bool × BreakerRegistry Key :=
  if (registry.states key).isOpen = false then (true, registry)
  else if ¬ registry.CooledDown key default now ∨ key ∈ registry.trialInFlight then
    (false, registry)
  else (true, { registry with trialInFlight := insert key registry.trialInFlight })

/-- Close a circuit and clear its failures. -/
def recordSuccess (registry : BreakerRegistry Key) (key : Key) : BreakerRegistry Key where
  states := Function.update registry.states key (registry.states key).reset
  openedAt := Function.update registry.openedAt key none
  trialInFlight := registry.trialInFlight.erase key

/-- Record one transport-level or server failure read at `now`. -/
def recordTransportFailure (registry : BreakerRegistry Key) (key : Key) (now : ℚ) :
    BreakerRegistry Key where
  states := Function.update registry.states key (registry.states key).recordFailure
  openedAt :=
    if (registry.states key).recordFailure.isOpen then
      Function.update registry.openedAt key (some now)
    else registry.openedAt
  trialInFlight := registry.trialInFlight.erase key

/-- Release a half-open trial without a verdict on the origin. -/
def releaseTrial (registry : BreakerRegistry Key) (key : Key) : BreakerRegistry Key :=
  { registry with trialInFlight := registry.trialInFlight.erase key }

/-- Record the health a response shows; a status that is no HTTP status raises
before anything changes. -/
def recordResponse (registry : BreakerRegistry Key) (key : Key) (status : Int) (now : ℚ) :
    Except String (BreakerRegistry Key) :=
  if validStatus status = false then
    .error "Circuit response statuses must be valid HTTP status codes."
  else
    match healthOf status with
    | .failure => .ok (registry.recordTransportFailure key now)
    | .success => .ok (registry.recordSuccess key)
    | .neutral => .ok (registry.releaseTrial key)

/-- Recording an HTTP status always succeeds, and its effect is that of the
health it shows. -/
theorem recordResponse_eq_ok (registry : BreakerRegistry Key) (key : Key) (status : HttpStatus)
    (now : ℚ) :
    registry.recordResponse key status.1 now =
      match healthOf status.1 with
      | .failure => .ok (registry.recordTransportFailure key now)
      | .success => .ok (registry.recordSuccess key)
      | .neutral => .ok (registry.releaseTrial key) := by
  simp [recordResponse, status.2]

/-- A dispatch is turned away exactly when the circuit is open and either the
cool-down has not passed or a trial is in flight. -/
theorem admit_fst_eq_false_iff (registry : BreakerRegistry Key) (key : Key) (default now : ℚ) :
    (registry.admitCall key default now).1 = false ↔
      (registry.states key).isOpen = true ∧
        (¬ registry.CooledDown key default now ∨ key ∈ registry.trialInFlight) := by
  unfold admitCall
  by_cases hopen : (registry.states key).isOpen = false
  · simp [hopen]
  · by_cases hblocked :
        ¬ registry.CooledDown key default now ∨ key ∈ registry.trialInFlight
    · rw [if_neg hopen, if_pos hblocked]
      exact ⟨fun _ => ⟨by simpa using hopen, hblocked⟩, fun _ => rfl⟩
    · rw [if_neg hopen, if_neg hblocked]
      exact ⟨fun h => Bool.noConfusion h, fun h => absurd h.2 hblocked⟩

/-- Admission through a closed circuit changes nothing. -/
theorem admit_of_closed (registry : BreakerRegistry Key) (key : Key) (default now : ℚ)
    (hclosed : (registry.states key).isOpen = false) :
    registry.admitCall key default now = (true, registry) := by
  rw [admitCall, if_pos hclosed]

/-- Admission through an open circuit marks the key and changes nothing else. -/
theorem admit_of_open {registry : BreakerRegistry Key} {key : Key} {default now : ℚ}
    (hopen : (registry.states key).isOpen = true)
    (hadmitted : (registry.admitCall key default now).1 = true) :
    (registry.admitCall key default now).2 =
      { registry with trialInFlight := insert key registry.trialInFlight } := by
  unfold admitCall at hadmitted ⊢
  by_cases hblocked : ¬ registry.CooledDown key default now ∨ key ∈ registry.trialInFlight
  · simp [hopen, if_pos hblocked] at hadmitted
  · simp [hopen, if_neg hblocked]

/-- A refused admission changes nothing. -/
theorem admit_of_refused {registry : BreakerRegistry Key} {key : Key} {default now : ℚ}
    (hrefused : (registry.admitCall key default now).1 = false) :
    (registry.admitCall key default now).2 = registry := by
  obtain ⟨hopen, hblocked⟩ := (registry.admit_fst_eq_false_iff key default now).mp hrefused
  simp [admitCall, hopen, if_pos hblocked]

end BreakerRegistry

end DataSluice.Runtime
