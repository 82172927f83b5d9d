/-
# Deadlines and the retry loop

`DeadlineMonitor`, `RetryDecision.for_response` and the two loops of `RetryLoop`, over any
effects: a clock to read, a send and a sleep. An `await` is where other tasks may run, so in
both loops what a clock, a send or a sleep does is up to the environment.

Numbers of seconds are rational here and are computed with exactly. The clock is read where
the source calls it: once for each check, and once more for the elapsed time of a
`BudgetExhaustedError`.
-/

import Mathlib.Data.Nat.Cast.Order.Ring
import DataSluice.Lib.Agreement
import DataSluice.Runtime.Errors
import DataSluice.Runtime.Resilience

namespace DataSluice.Runtime

open DataSluice.Lib

/-! ## Responses, budgets and policies -/

/-- `RuntimeResponse`, with what its constructor makes sure of. -/
structure RuntimeResponse where
  statusCode : Int
  headers : List (String × String)
  body : List UInt8
  retryAfter : Option ℚ
  statusCode_valid : validStatus statusCode = true
  names_ne : ∀ header ∈ headers, header.1 ≠ ""
  retryAfter_nonneg : ∀ delay ∈ retryAfter, 0 ≤ delay

/-- `TimeBudget`, with the checks of its constructor. -/
structure TimeBudget where
  connect : ℚ
  read : ℚ
  write : ℚ
  total : ℚ
  connect_pos : 0 < connect
  read_pos : 0 < read
  write_pos : 0 < write
  total_pos : 0 < total
  le_total : max connect (max read write) ≤ total

/-- `IdempotencyPolicy` -/
structure IdempotencyPolicy where
  safe : Bool := false
  key : Option String := none
  explicitRetryOptIn : Bool := false
  key_ne : key ≠ some "" := by decide

theorem IdempotencyPolicy.none_ne_empty : (none : Option String) ≠ some "" := nofun

/-- Whether a repeated request cannot silently repeat work. -/
def IdempotencyPolicy.allowsRetry (policy : IdempotencyPolicy) : Bool :=
  policy.safe || policy.key.isSome || policy.explicitRetryOptIn

/-! ## Deadlines -/

/-- `DeadlineMonitor`: a budget, when it started, and the names its errors carry. -/
structure DeadlineMonitor where
  budget : TimeBudget
  startedAt : ℚ
  operation : Option String := none
  platform : Option String := none

namespace DeadlineMonitor

variable {State : Type} (clock : Effect State Raised ℚ) (monitor : DeadlineMonitor)

/-- The time that is left when the clock shows `now`. -/
def left (now : ℚ) : ℚ := monitor.budget.total - (now - monitor.startedAt)

/-- `remaining` -/
def remaining : Effect State Raised ℚ := do return monitor.left (← clock)

/-- The names that `assert_dispatchable(operation, platform)` leaves on the monitor. -/
def named (operation platform : String) : DeadlineMonitor :=
  { monitor with operation := some operation, platform := some platform }

/-- The error of `_raise_exhausted` for one reading of the clock. -/
def exhausted (retryState : RetryState) (now : ℚ) : Raised :=
  let operation := monitor.operation.getD "runtime.dispatch"
  let platform := monitor.platform.getD "runtime"
  { errorClass := .budgetExhausted
    message := "Catalog operation " ++ operation ++ " on " ++ platform ++
      " exhausted its total time budget."
    operation := some operation
    platform := some platform
    capabilityState := some "unavailable"
    safeAction := some
      "Increase the operation budget or retry after the deployment is available."
    exhaustion := some
      { elapsedSeconds := max 0 (now - monitor.startedAt)
        budgetSeconds := monitor.budget.total
        retryState := retryState } }

/-- `_raise_exhausted` -/
def raiseExhausted {α : Type} (retryState : RetryState) : Effect State Raised α := do
  Effect.raise (monitor.exhausted retryState (← clock))

/-- `assert_dispatchable` without names. -/
def assertDispatchable : Effect State Raised Unit := do
  if (← monitor.remaining clock) ≤ 0 then monitor.raiseExhausted clock .dispatch

/-- `check_wait` -/
def checkWait (delay : ℚ) (wait : RetryWait) : Effect State Raised Unit :=
  if delay < 0 then Effect.raise (.valueError "Retry delays must be non-negative numbers.")
  else do
    if (← monitor.remaining clock) < delay then
      monitor.raiseExhausted clock (.retryWait { wait with delaySeconds := delay })

end DeadlineMonitor

/-! ## Decisions -/

/-- `RetryDecision`, with the checks of its constructor. -/
structure RetryDecision where
  retry : Bool
  delay : Option ℚ
  reason : String
  reason_ne : reason ≠ ""
  delay_nonneg : ∀ seconds ∈ delay, 0 ≤ seconds
  declined : retry = false → delay = none

/-- A declined retry. -/
def RetryDecision.decline (reason : String) (reason_ne : reason ≠ "") : RetryDecision where
  retry := false
  delay := none
  reason := reason
  reason_ne := reason_ne
  delay_nonneg := by simp
  declined _ := rfl

/-- The statuses that may be tried again. -/
def retryableStatuses : List Int := [408, 425, 429, 500, 502, 503, 504]

/-- The wait before the next attempt: what the response asks for, or an exponential one. -/
def retryDelay (attempt : Nat) (retryAfter : Option ℚ) (budget : TimeBudget) : ℚ :=
  match retryAfter with
  | some delay => delay
  | none => min ((1 <<< (attempt - 1) : Nat) : ℚ) budget.total

/-- The delay is never negative, so that a wait moves the clock forward: the backoff is positive,
and the number of a `Retry-After` is taken to be none that is negative. -/
theorem retryDelay_nonneg (attempt : Nat) {retryAfter : Option ℚ} (budget : TimeBudget)
    (hafter : ∀ delay ∈ retryAfter, 0 ≤ delay) : 0 ≤ retryDelay attempt retryAfter budget := by
  cases retryAfter with
  | some delay => exact hafter delay rfl
  | none => exact le_min (Nat.cast_nonneg _) budget.total_pos.le

/-- `RetryDecision.for_response` -/
def RetryDecision.forResponse (attempt maxAttempts : Nat) (statusCode : Option Int)
    (retryAfter : Option ℚ) (idempotency : IdempotencyPolicy) (budget : TimeBudget) :
    Except Raised RetryDecision :=
  if attempt < 1 ∨ maxAttempts < attempt then
    .error (.valueError "Retry attempt counts must be positive and ordered.")
  else if statusCode.any fun status => !validStatus status then
    .error (.valueError "Retry status codes must be valid HTTP status codes.")
  else if hafter : retryAfter.any (· < 0) then
    .error (.valueError "Retry-After must be a non-negative number.")
  else if idempotency.allowsRetry = false then
    .ok (.decline "The operation is not safe to repeat." (by decide))
  else if maxAttempts ≤ attempt then
    .ok (.decline "The retry attempt limit is exhausted." (by decide))
  else if statusCode.any fun status => decide (status ∉ retryableStatuses) then
    .ok (.decline "The response is not retryable." (by decide))
  else if budget.total < retryDelay attempt retryAfter budget then
    .ok (.decline "Retry-After exceeds the total time budget." (by decide))
  else
    .ok
      { retry := true
        delay := some (retryDelay attempt retryAfter budget)
        reason := "The response is retryable within the configured budget."
        reason_ne := by decide
        delay_nonneg := by
          intro seconds hseconds
          cases hseconds
          exact retryDelay_nonneg attempt budget fun delay hdelay => by
            simp only [Option.any_eq_true, not_exists, not_and, decide_eq_true_eq] at hafter
            exact not_lt.mp (hafter delay hdelay)
        declined := by simp }

/-! ## The loop -/

/-- `RetryLoop`; the sleep is given to each run. -/
structure RetryLoop where
  budget : TimeBudget
  idempotency : IdempotencyPolicy
  deadline : DeadlineMonitor
  maxAttempts : Nat
  maxAttempts_pos : 1 ≤ maxAttempts

/-- What one attempt came to: a terminal response, or a wait before the next one. -/
inductive AttemptOutcome
  | response (response : RuntimeResponse)
  | wait (delay : ℚ)

namespace RetryLoop

variable {State : Type} (clock : Effect State Raised ℚ) (loop : RetryLoop)

/-- The `retry_state` of a wait that a decision asks for. -/
def waitState (attempt : Nat) (decision : RetryDecision) : RetryWait where
  delaySeconds := decision.delay.getD 0
  attempt := attempt
  maxAttempts := loop.maxAttempts
  reason := decision.reason

/-- `_settle_attempt` -/
def settleAttempt (attempt : Nat) (response : Option RuntimeResponse) (failure : Option Raised) :
    Effect State Raised AttemptOutcome := do
  let decision ← Effect.ofExcept (RetryDecision.forResponse attempt loop.maxAttempts
    (response.map RuntimeResponse.statusCode) (response.bind RuntimeResponse.retryAfter)
    loop.idempotency loop.budget)
  if decision.retry = false then
    match response, failure with
    | some response, _ => return .response response
    | none, none =>
        Effect.raise (.transportError
          "Runtime transport produced neither a response nor a failure.")
    | none, some failure => Effect.raise failure
  else
    let delay := decision.delay.getD 0
    loop.deadline.checkWait clock delay (loop.waitState attempt decision)
    return .wait delay

/-- `try: response = send() except TransportError as exc: failure = exc` -/
def attemptSend (send : Effect State Raised RuntimeResponse) :
    Effect State Raised (Option RuntimeResponse × Option Raised) :=
  Effect.tryExcept (do return (some (← send), none)) fun error =>
    if error.isTransport then return (none, some error) else Effect.raise error

/-- The iterations of `run` from an attempt on. -/
def runFrom (send : Effect State Raised RuntimeResponse) (sleep : ℚ → Effect State Raised Unit)
    (attempt : Nat) : Nat → Effect State Raised RuntimeResponse
  | 0 => Effect.raise (.runtimeError "Retry loop exhausted without a terminal runtime outcome.")
  | attempts + 1 => do
      loop.deadline.assertDispatchable clock
      let (response, failure) ← attemptSend send
      match ← loop.settleAttempt clock attempt response failure with
      | .response response => return response
      | .wait delay =>
          sleep delay
          runFrom send sleep (attempt + 1) attempts

/-- `run` -/
def run (send : Effect State Raised RuntimeResponse) (sleep : ℚ → Effect State Raised Unit) :
    Effect State Raised RuntimeResponse :=
  loop.runFrom clock send sleep 1 loop.maxAttempts

/-- The iterations of `run_async` from an attempt on. -/
def runAsyncFrom (send : Effect State Raised RuntimeResponse)
    (sleep : ℚ → Effect State Raised Unit) (attempt : Nat) :
    Nat → Effect State Raised RuntimeResponse
  | 0 => Effect.raise (.runtimeError "Retry loop exhausted without a terminal runtime outcome.")
  | attempts + 1 => do
      loop.deadline.assertDispatchable clock
      let (response, failure) ← attemptSend send
      match ← loop.settleAttempt clock attempt response failure with
      | .response response => return response
      | .wait delay =>
          sleep delay
          runAsyncFrom send sleep (attempt + 1) attempts

/-- `run_async` -/
def runAsync (send : Effect State Raised RuntimeResponse)
    (sleep : ℚ → Effect State Raised Unit) : Effect State Raised RuntimeResponse :=
  loop.runAsyncFrom clock send sleep 1 loop.maxAttempts

/-- The two loops do the same. -/
theorem runAsync_eq_run (send : Effect State Raised RuntimeResponse)
    (sleep : ℚ → Effect State Raised Unit) :
    loop.runAsync clock send sleep = loop.run clock send sleep := by
  have hfrom : ∀ attempts attempt, loop.runAsyncFrom clock send sleep attempt attempts =
      loop.runFrom clock send sleep attempt attempts := by
    intro attempts
    induction attempts with
    | zero => exact fun _ => rfl
    | succ attempts ih =>
        intro attempt
        simp only [runAsyncFrom, runFrom, ih]
  exact hfrom loop.maxAttempts 1

/-! ### Loops over other states -/

section Agreement

variable {State' : Type} {R : State → State' → Prop} {clock' : Effect State' Raised ℚ}
  {send : Effect State Raised RuntimeResponse} {send' : Effect State' Raised RuntimeResponse}
  {sleep : ℚ → Effect State Raised Unit} {sleep' : ℚ → Effect State' Raised Unit} {clock loop}

theorem agree_raiseExhausted {α : Type} (hclock : Effect.Agree R clock clock')
    (monitor : DeadlineMonitor) (retryState : RetryState) :
    Effect.Agree R (monitor.raiseExhausted (α := α) clock retryState)
      (monitor.raiseExhausted clock' retryState) :=
  hclock.bind fun _ => .raise _

theorem agree_assertDispatchable (hclock : Effect.Agree R clock clock')
    (monitor : DeadlineMonitor) :
    Effect.Agree R (monitor.assertDispatchable clock) (monitor.assertDispatchable clock') := by
  apply Effect.Agree.bind
  · exact hclock.bind fun _ => .pure _
  · exact fun _ => .ite (agree_raiseExhausted hclock monitor _) (.pure ())

theorem agree_checkWait (hclock : Effect.Agree R clock clock') (monitor : DeadlineMonitor)
    (delay : ℚ) (wait : RetryWait) :
    Effect.Agree R (monitor.checkWait clock delay wait) (monitor.checkWait clock' delay wait) := by
  apply Effect.Agree.ite
  · exact .raise _
  · apply Effect.Agree.bind
    · exact hclock.bind fun _ => .pure _
    · exact fun _ => .ite (agree_raiseExhausted hclock monitor _) (.pure ())

/-- What the loop decides behind an attempt depends on the clock and the answer only, so two loops
over related states decide alike. -/
theorem agree_settleAttempt (hclock : Effect.Agree R clock clock') (attempt : Nat)
    (response : Option RuntimeResponse) (failure : Option Raised) :
    Effect.Agree R (loop.settleAttempt clock attempt response failure)
      (loop.settleAttempt clock' attempt response failure) := by
  apply Effect.Agree.bind (.ofExcept _)
  intro decision
  apply Effect.Agree.ite
  · cases response with
    | some response => exact .pure _
    | none =>
        cases failure with
        | some failure => exact .raise _
        | none => exact .raise _
  · exact (agree_checkWait hclock _ _ _).bind fun _ => .pure _

theorem agree_attemptSend (hsend : Effect.Agree R send send') :
    Effect.Agree R (attemptSend send) (attemptSend send') := by
  apply Effect.Agree.tryExcept
  · exact hsend.bind fun _ => .pure _
  · exact fun _ => .ite (.pure _) (.raise _)

/-- Loops that are given what agrees agree. -/
theorem agree_run (hclock : Effect.Agree R clock clock') (hsend : Effect.Agree R send send')
    (hsleep : ∀ delay, Effect.Agree R (sleep delay) (sleep' delay)) :
    Effect.Agree R (loop.run clock send sleep) (loop.run clock' send' sleep') := by
  have hfrom : ∀ attempts attempt, Effect.Agree R
      (loop.runFrom clock send sleep attempt attempts)
      (loop.runFrom clock' send' sleep' attempt attempts) := by
    intro attempts
    induction attempts with
    | zero => exact fun _ => .raise _
    | succ attempts ih =>
        intro attempt
        apply (agree_assertDispatchable hclock _).bind
        intro _
        apply (agree_attemptSend hsend).bind
        intro outcome
        apply (agree_settleAttempt hclock _ _ _).bind
        intro settled
        cases settled with
        | response response => exact .pure _
        | wait delay => exact (hsleep delay).bind fun _ => ih _
  exact hfrom loop.maxAttempts 1

end Agreement

/-! ### Loops that do not repeat -/

/-- An operation that may not be repeated is declined behind its first attempt whatever its answer
was, since this is asked before the limit and the retryable statuses are. -/
theorem forResponse_of_refused {statusCode : Option Int} {retryAfter : Option ℚ}
    (hrefused : loop.idempotency.allowsRetry = false)
    (hstatus : ∀ status ∈ statusCode, validStatus status = true)
    (hafter : ∀ delay ∈ retryAfter, 0 ≤ delay) :
    RetryDecision.forResponse 1 loop.maxAttempts statusCode retryAfter loop.idempotency
      loop.budget = .ok (.decline "The operation is not safe to repeat." (by decide)) := by
  have hcount : ¬ ((1 : Nat) < 1 ∨ loop.maxAttempts < 1) := by
    have hpos := loop.maxAttempts_pos
    omega
  have hvalid : ¬ (statusCode.any fun status => !validStatus status) = true := by
    simpa [Option.any_eq_true] using hstatus
  have hdelay : ¬ (retryAfter.any (· < 0)) = true := by
    simpa [Option.any_eq_true] using hafter
  rw [RetryDecision.forResponse, if_neg hcount, if_neg hvalid, dif_neg hdelay, if_pos hrefused]

/-- A loop whose operation may not be repeated sends once, whatever comes of it. -/
theorem run_of_refused (hrefused : loop.idempotency.allowsRetry = false)
    (send : Effect State Raised RuntimeResponse) (sleep : ℚ → Effect State Raised Unit) :
    loop.run clock send sleep = (do
      loop.deadline.assertDispatchable clock
      send) := by
  obtain ⟨attempts, hattempts⟩ := Nat.exists_eq_add_of_le loop.maxAttempts_pos
  have hsettle : ∀ (response : Option RuntimeResponse) failure, loop.settleAttempt clock 1 response
      failure = match response, failure with
        | some response, _ => pure (.response response)
        | none, none => Effect.raise (.transportError
            "Runtime transport produced neither a response nor a failure.")
        | none, some failure => Effect.raise failure := by
    intro response failure
    unfold settleAttempt
    rw [forResponse_of_refused loop hrefused]
    · cases response <;> cases failure <;> rfl
    · intro status hstatus
      obtain ⟨response, rfl, rfl⟩ := Option.mem_map.mp hstatus
      exact response.statusCode_valid
    · intro delay hdelay
      cases response with
      | none => cases hdelay
      | some response => exact response.retryAfter_nonneg delay hdelay
  rw [run, hattempts, Nat.add_comm, runFrom]
  apply bind_congr
  intro _
  funext state
  simp only [attemptSend, Effect.bind_run, Effect.tryExcept_run, hsettle]
  cases hsend : send state with
  | mk result target =>
      cases result with
      | ok response => simp
      | error error =>
          by_cases htransport : error.isTransport = true
          · simp [htransport]
          · simp [htransport]

end RetryLoop

end DataSluice.Runtime
