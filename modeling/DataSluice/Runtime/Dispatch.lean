/-
# Admitted calls and the trials they hold

Two copies of the admit-then-settle protocol share one breaker registry. The
catalog clients run their sends inside `_dispatch_guard`, whose `finally` clause
releases the trial of a call whose last send was not recorded. The refreshing
credential provider settles in typed `except` clauses instead.

Each copy is a small control automaton, `CallState.advance`, whose moves name the
registry operation they perform. The retry loop decides how many sends a client
call makes; here any number is allowed, and a guarded call may leave between
sends by a return or by any exception. The sync and async forms of a call share
one automaton, since an `await` only adds places where a `BaseException` appears.

`Circuit` interleaves any number of calls. It carries two ghost components that
the program does not have: the calls whose trial is still outstanding, and the
call whose admission put a key into the trial set.
-/

import DataSluice.Lib.Transition
import DataSluice.Runtime.Resilience

namespace DataSluice.Runtime

open DataSluice.Lib

/-- The four callers of `BreakerRegistry.admit`. -/
inductive CallKind
  | syncDispatch
  | asyncDispatch
  | refreshSync
  | refreshAsync
  deriving DecidableEq

/-- How one `transport.send` ends. Cancellation and interrupts are
`BaseException`s that are not `Exception`s. -/
inductive SendResult
  | response (status : Int)
  | transportError
  | budgetExhausted
  | otherException
  | baseException
  deriving DecidableEq

/-- Where a call stands. The first three active states belong to the clients,
the rest to the refreshing provider. -/
inductive CallState (Key : Type)
  | idle
  | /-- Inside `_dispatch_guard` with no send in flight. -/
    guarded (key : Key) (recorded : Bool)
  | /-- Inside `transport.send`, with `recorded` reset. -/
    guardedSend (key : Key)
  | /-- Admitted by `_refresh_admission`; the deadline is not built yet. -/
    admission (key : Key)
  | /-- Inside the `try` block, before the send. -/
    refreshing (key : Key)
  | /-- Inside the token endpoint's `transport.send`. -/
    refreshSend (key : Key)
  | /-- A response arrived; the second deadline check is still ahead. -/
    refreshed (key : Key) (status : HttpStatus)
  | ended (key : Key)
  deriving DecidableEq

/-- What happens next to one call. -/
inductive Signal
  | send
  | sent (result : SendResult)
  | leave
  | deadlineBuilt
  | deadlineRaises
  | exhausted
  | settle
  deriving DecidableEq

/-- The registry operation a move performs. -/
inductive Verdict
  | nothing
  | response (status : HttpStatus)
  | transportFailure
  | release
  deriving DecidableEq

/-- Every verdict but `nothing` discards the key from the trial set. -/
def Verdict.discards : Verdict → Bool
  | .nothing => false
  | _ => true

/-- The verdicts that close the circuit. -/
def Verdict.closes : Verdict → Bool
  | .response status => decide (healthOf status.1 = .success)
  | _ => false

/-- One move of one call. -/
structure Move (Key : Type) where
  next : CallState Key
  key : Key
  verdict : Verdict

/-- The state a call enters when it is admitted. -/
def CallKind.entry {Key : Type} (kind : CallKind) (key : Key) : CallState Key :=
  match kind with
  | .syncDispatch | .asyncDispatch => .guarded key false
  | .refreshSync | .refreshAsync => .admission key

namespace CallState

variable {Key : Type}

/-- The control flow of one admitted call. -/
def advance : CallState Key → Signal → Option (Move Key)
  | .guarded key _, .send => some ⟨.guardedSend key, key, .nothing⟩
  | .guarded key recorded, .leave =>
      some ⟨.ended key, key, if recorded then .nothing else .release⟩
  | .guardedSend key, .sent (.response status) =>
      if valid : validStatus status = true then
        some ⟨.guarded key true, key, .response ⟨status, valid⟩⟩
      else some ⟨.ended key, key, .release⟩
  | .guardedSend key, .sent .transportError => some ⟨.guarded key true, key, .transportFailure⟩
  | .guardedSend key, .sent .budgetExhausted => some ⟨.ended key, key, .release⟩
  | .guardedSend key, .sent .otherException => some ⟨.ended key, key, .release⟩
  | .guardedSend key, .sent .baseException => some ⟨.ended key, key, .release⟩
  | .admission key, .deadlineBuilt => some ⟨.refreshing key, key, .nothing⟩
  | .admission key, .deadlineRaises => some ⟨.ended key, key, .nothing⟩
  | .refreshing key, .send => some ⟨.refreshSend key, key, .nothing⟩
  | .refreshing key, .exhausted => some ⟨.ended key, key, .release⟩
  | .refreshSend key, .sent (.response status) =>
      if valid : validStatus status = true then
        some ⟨.refreshed key ⟨status, valid⟩, key, .nothing⟩
      else some ⟨.ended key, key, .transportFailure⟩
  | .refreshSend key, .sent .transportError => some ⟨.ended key, key, .transportFailure⟩
  | .refreshSend key, .sent .otherException => some ⟨.ended key, key, .transportFailure⟩
  | .refreshSend key, .sent .budgetExhausted => some ⟨.ended key, key, .release⟩
  | .refreshSend key, .sent .baseException => some ⟨.ended key, key, .nothing⟩
  | .refreshed key _, .exhausted => some ⟨.ended key, key, .release⟩
  | .refreshed key status, .settle => some ⟨.ended key, key, .response status⟩
  | _, _ => none

/-- The key a call in flight was admitted for. -/
def inFlight : CallState Key → Option Key
  | .guarded key _ | .guardedSend key | .admission key | .refreshing key
  | .refreshSend key | .refreshed key _ => some key
  | .idle | .ended _ => none

/-- The key whose trial a call may still hold. A guarded call whose last send
was recorded holds nothing: the recording discarded the key. -/
def holds : CallState Key → Option Key
  | .guarded _ true => none
  | state => state.inFlight

/-- The exits that settle nothing: a `BaseException` out of the token endpoint,
and a deadline that cannot be built. -/
def leaks : CallState Key → Signal → Bool
  | .refreshSend _, .sent .baseException => true
  | .admission _, .deadlineRaises => true
  | _, _ => false

theorem inFlight_of_holds {state : CallState Key} {key : Key}
    (hholds : state.holds = some key) : state.inFlight = some key := by
  cases state with
  | guarded other recorded => cases recorded <;> simp_all [holds, inFlight]
  | idle | ended => simp [holds, inFlight] at hholds
  | guardedSend | admission | refreshing | refreshSend | refreshed => exact hholds

theorem entry_holds (kind : CallKind) (key : Key) : (kind.entry key).holds = some key := by
  cases kind <;> rfl

/-- A move is made by a call in flight, under that call's key. -/
theorem inFlight_of_advance {state : CallState Key} {signal : Signal} {move : Move Key}
    (hmove : state.advance signal = some move) : state.inFlight = some move.key := by
  unfold advance at hmove
  split at hmove
  all_goals first
    | (split at hmove <;> cases hmove <;> rfl)
    | (cases hmove <;> rfl)

/-- A move that settles nothing either keeps holding the key, or held nothing
before, or is one of the two leaking exits. -/
theorem holds_of_silent_advance {state : CallState Key} {signal : Signal} {move : Move Key}
    (hmove : state.advance signal = some move) (hsilent : move.verdict = .nothing) :
    move.next.holds = some move.key ∨ state.holds = none ∨ state.leaks signal = true := by
  unfold advance at hmove
  split at hmove
  all_goals try split at hmove
  all_goals try cases hmove
  all_goals try cases hsilent
  all_goals simp_all [holds, inFlight, leaks]

/-- A leaking exit settles nothing. -/
theorem silent_of_leaks {state : CallState Key} {signal : Signal} {move : Move Key}
    (hmove : state.advance signal = some move) (hleaks : state.leaks signal = true) :
    move.verdict = .nothing := by
  unfold leaks at hleaks
  split at hleaks
  all_goals cases hleaks
  all_goals cases hmove
  all_goals rfl

/-- A leaking exit ends its call. -/
theorem ended_of_leaks {state : CallState Key} {signal : Signal} {move : Move Key}
    (hmove : state.advance signal = some move) (hleaks : state.leaks signal = true) :
    move.next = .ended move.key := by
  unfold leaks at hleaks
  split at hleaks
  all_goals cases hleaks
  all_goals cases hmove
  all_goals rfl

/-- A call ends under the key it was admitted for. -/
theorem key_of_ended {state : CallState Key} {signal : Signal} {move : Move Key} {key : Key}
    (hmove : state.advance signal = some move) (hended : move.next = .ended key) :
    move.key = key := by
  unfold advance at hmove
  split at hmove
  all_goals try split at hmove
  all_goals first
    | (cases hmove; cases hended; rfl)
    | (cases hmove; cases hended)
    | cases hmove

end CallState

/-- Any number of calls over one registry, with the two ghost components. -/
structure Circuit (Key : Type) where
  registry : BreakerRegistry Key
  calls : Nat → CallState Key
  /-- Ghost: the key of a call that was admitted while the circuit was open, has
  neither recorded a verdict nor released, and whose circuit no success closed. -/
  trial : Nat → Option Key
  /-- Ghost: the call whose admission put the key into the trial set. -/
  marker : Key → Option Nat

/-- The scheduler's choices: a call asks for admission, or a call moves. Every
reading of the clock is part of the choice. -/
inductive CircuitEvent (Key : Type)
  | admitCall (call : Nat) (kind : CallKind) (key : Key) (default now : ℚ)
  | advance (call : Nat) (signal : Signal) (now : ℚ)

namespace Circuit

variable {Key : Type} [DecidableEq Key]

/-- The registry after the operation of one move. -/
def recordVerdict (registry : BreakerRegistry Key) (key : Key) (now : ℚ) :
    Verdict → BreakerRegistry Key
  | .nothing => registry
  | .response status =>
      match registry.recordResponse key status.1 now with
      | .ok recorded => recorded
      | .error _ => registry
  | .transportFailure => registry.recordTransportFailure key now
  | .release => registry.releaseTrial key

/-- The circuit after a call was admitted as a half-open trial. -/
def enterTrial (circuit : Circuit Key) (call : Nat) (kind : CallKind) (key : Key) :
    Circuit Key where
  registry :=
    { circuit.registry with trialInFlight := insert key circuit.registry.trialInFlight }
  calls := Function.update circuit.calls call (kind.entry key)
  trial := Function.update circuit.trial call (some key)
  marker := Function.update circuit.marker key (some call)

/-- Admit an idle call, or end it with the circuit-open error. -/
def stepAdmit (circuit : Circuit Key) (call : Nat) (kind : CallKind) (key : Key)
    (default now : ℚ) : Option (Circuit Key) :=
  if circuit.calls call = .idle then
    if (circuit.registry.admitCall key default now).1 then
      some
        { registry := (circuit.registry.admitCall key default now).2
          calls := Function.update circuit.calls call (kind.entry key)
          trial :=
            if (circuit.registry.states key).isOpen then
              Function.update circuit.trial call (some key)
            else circuit.trial
          marker :=
            if (circuit.registry.states key).isOpen then
              Function.update circuit.marker key (some call)
            else circuit.marker }
    else some { circuit with calls := Function.update circuit.calls call (.ended key) }
  else none

/-- Carry out one move of a call. -/
def settle (circuit : Circuit Key) (call : Nat) (move : Move Key) (now : ℚ) : Circuit Key where
  registry := recordVerdict circuit.registry move.key now move.verdict
  calls := Function.update circuit.calls call move.next
  trial := fun other =>
    if move.verdict.discards ∧ other = call ∨
        move.verdict.closes ∧ circuit.trial other = some move.key then none
    else circuit.trial other
  marker :=
    if move.verdict.discards then Function.update circuit.marker move.key none
    else circuit.marker

/-- One scheduled step. -/
def step (circuit : Circuit Key) : CircuitEvent Key → Option (Circuit Key)
  | .admitCall call kind key default now => circuit.stepAdmit call kind key default now
  | .advance call signal now =>
      ((circuit.calls call).advance signal).map fun move => circuit.settle call move now

/-- A fresh registry and no call yet. -/
def fresh (registry : BreakerRegistry Key) : Circuit Key where
  registry := registry
  calls _ := .idle
  trial _ := none
  marker _ := none

/-- The interleavings of calls over one new registry. -/
def system (Key : Type) [DecidableEq Key] : System (Circuit Key) (CircuitEvent Key) where
  init circuit := ∃ failureThreshold cooldown threshold_pos cooldown_pos,
    circuit = fresh (BreakerRegistry.initial failureThreshold cooldown threshold_pos cooldown_pos)
  step := step

end Circuit

end DataSluice.Runtime
