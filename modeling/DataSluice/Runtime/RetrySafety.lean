/-
# What a retry loop may do

The loop of `RetryLoop` runs here in an environment that answers its three operations: the
clock, the send, which gives a response or raises a `TransportError`, and the sleep. A run
is known by what happened during it. `RetryTrace` lists the shapes one run can have, by
recursion on the attempts that are left; everything else about runs follows from it.
-/

import Mathlib.Tactic.Linarith
import Mathlib.Tactic.NormNum
import DataSluice.Runtime.RetryLoop

namespace DataSluice.Runtime.Retry

open DataSluice.Lib

/-- A `TransportError`. -/
structure TransportError where
  message : String

/-- What the loop asks of the outside. -/
inductive RetryOp
  | readClock
  | send
  | sleep (delay : ℚ)

/-- What the outside answers. -/
def RetryOp.Answer : RetryOp → Type
  | .readClock => ℚ
  | .send => Except TransportError RuntimeResponse
  | .sleep _ => Unit

/-- One operation of a run, with its answer. -/
abbrev Event : Type := Happening RetryOp.Answer

/-- The clock was read. -/
abbrev clocked (now : ℚ) : Event := ⟨.readClock, now⟩

/-- A request was sent. -/
abbrev sent (answer : Except TransportError RuntimeResponse) : Event := ⟨.send, answer⟩

/-- The loop slept. -/
abbrev slept (delay : ℚ) : Event := ⟨.sleep delay, ()⟩

@[simp] theorem slept_ne_clocked (delay now : ℚ) : slept delay ≠ clocked now := by
  intro hsame
  cases congrArg Sigma.fst hsame

@[simp] theorem slept_ne_sent (delay : ℚ) (answer : Except TransportError RuntimeResponse) :
    slept delay ≠ sent answer := by
  intro hsame
  cases congrArg Sigma.fst hsame

theorem slept_injective : Function.Injective slept := by
  intro first second hsame
  injection congrArg Sigma.fst hsame

abbrev RetryWorld : Type := World RetryOp.Answer Unit

/-- What a send came to for the loop. -/
def raisedBy : Except TransportError RuntimeResponse → Except Raised RuntimeResponse
  | .ok response => .ok response
  | .error error => .error (.transportError error.message)

section Operations

variable (environment : Environment RetryOp.Answer)

def readClock : Effect RetryWorld Raised ℚ := perform environment .readClock

def send : Effect RetryWorld Raised RuntimeResponse := do
  Effect.ofExcept (raisedBy (← perform environment .send))

def sleep (delay : ℚ) : Effect RetryWorld Raised Unit := perform environment (.sleep delay)

end Operations

/-- The sends of a run, with their answers. -/
def sends : List Event → List (Except TransportError RuntimeResponse)
  | [] => []
  | ⟨.send, answer⟩ :: rest => answer :: sends rest
  | ⟨.readClock, _⟩ :: rest => sends rest
  | ⟨.sleep _, _⟩ :: rest => sends rest

/-- The sleeps of a run. -/
def sleeps : List Event → List ℚ
  | [] => []
  | ⟨.send, _⟩ :: rest => sleeps rest
  | ⟨.readClock, _⟩ :: rest => sleeps rest
  | ⟨.sleep delay, _⟩ :: rest => delay :: sleeps rest

/-- The clock never goes back, and advances at least by each sleep. -/
def Advances : ℚ → List Event → Prop
  | _, [] => True
  | earliest, ⟨.send, _⟩ :: rest => Advances earliest rest
  | earliest, ⟨.readClock, (now : ℚ)⟩ :: rest => earliest ≤ now ∧ Advances now rest
  | earliest, ⟨.sleep delay, _⟩ :: rest => Advances (earliest + delay) rest

/-- A send that the loop may follow by another one: it raised, or its status is retryable. -/
def Retryable : Except TransportError RuntimeResponse → Prop
  | .error _ => True
  | .ok response => response.statusCode ∈ retryableStatuses

variable (loop : RetryLoop)

/-- The shapes of a run with some attempts left, and how it ends. -/
inductive RetryTrace : Nat → List Event → Except Raised RuntimeResponse → Prop
  | /-- The deadline has expired before the send. -/
    expired {attempts : Nat} {now again : ℚ} (late : loop.deadline.left now ≤ 0) :
      RetryTrace (attempts + 1) [clocked now, clocked again]
        (.error (loop.deadline.exhausted .dispatch again))
  | /-- The send settles the run. -/
    settled {attempts : Nat} {now : ℚ} (answer : Except TransportError RuntimeResponse)
      (early : 0 < loop.deadline.left now) :
      RetryTrace (attempts + 1) [clocked now, sent answer] (raisedBy answer)
  | /-- The send may be repeated, but there is no time for the wait. -/
    overdue {attempts : Nat} {now later again : ℚ} {wait : RetryWait}
      (answer : Except TransportError RuntimeResponse) (early : 0 < loop.deadline.left now)
      (allowed : loop.idempotency.allowsRetry = true) (retryable : Retryable answer) :
      RetryTrace (attempts + 1) [clocked now, sent answer, clocked later, clocked again]
        (.error (loop.deadline.exhausted (.retryWait wait) again))
  | /-- The loop sleeps and goes on. -/
    repeated {attempts : Nat} {now later delay : ℚ} {rest : List Event}
      {result : Except Raised RuntimeResponse}
      (answer : Except TransportError RuntimeResponse) (early : 0 < loop.deadline.left now)
      (allowed : loop.idempotency.allowsRetry = true) (retryable : Retryable answer)
      (nonneg : 0 ≤ delay) (within : delay ≤ loop.deadline.left later)
      (continued : RetryTrace attempts rest result) :
      RetryTrace (attempts + 1) (clocked now :: sent answer :: clocked later :: slept delay :: rest)
        result

/-! ## Runs have these shapes -/

section Runs

variable (environment : Environment RetryOp.Answer) {loop}

/-- A world in which more has happened. -/
def RetryWorld.after (world : RetryWorld) (events : List Event) : RetryWorld :=
  { world with history := world.history ++ events }

theorem RetryWorld.after_after (world : RetryWorld) (first second : List Event) :
    RetryWorld.after (RetryWorld.after world first) second =
      RetryWorld.after world (first ++ second) := by
  simp [RetryWorld.after]

theorem readClock_run (world : RetryWorld) :
    ∃ now, readClock environment world = (.ok now, RetryWorld.after world [clocked now]) :=
  ⟨environment world.history .readClock, rfl⟩

/-- The deadline check reads the clock once, and once more when it raises. -/
theorem assertDispatchable_run (monitor : DeadlineMonitor) (world : RetryWorld) :
    (∃ now again, monitor.left now ≤ 0 ∧
      monitor.assertDispatchable (readClock environment) world =
        (.error (monitor.exhausted .dispatch again),
          RetryWorld.after world [clocked now, clocked again])) ∨
    ∃ now, 0 < monitor.left now ∧
      monitor.assertDispatchable (readClock environment) world =
        (.ok (), RetryWorld.after world [clocked now]) := by
  obtain ⟨now, hnow⟩ := readClock_run environment world
  obtain ⟨again, hagain⟩ := readClock_run environment (RetryWorld.after world [clocked now])
  by_cases hlate : monitor.left now ≤ 0
  · refine .inl ⟨now, again, hlate, ?_⟩
    simp [DeadlineMonitor.assertDispatchable, DeadlineMonitor.remaining,
      DeadlineMonitor.raiseExhausted, hnow, hagain, hlate, RetryWorld.after_after]
  · refine .inr ⟨now, not_le.mp hlate, ?_⟩
    simp [DeadlineMonitor.assertDispatchable, DeadlineMonitor.remaining, hnow, hlate]

/-- The response and the failure that an attempt hands to `_settle_attempt`. -/
def handed : Except TransportError RuntimeResponse → Option RuntimeResponse × Option Raised
  | .ok response => (some response, none)
  | .error error => (none, some (.transportError error.message))

/-- What a decision for one attempt may be. -/
theorem forResponse_spec {attempt maxAttempts : Nat} (hfirst : 1 ≤ attempt)
    (hlast : attempt ≤ maxAttempts) (answer : Except TransportError RuntimeResponse)
    (idempotency : IdempotencyPolicy) (budget : TimeBudget) :
    ∃ decision, RetryDecision.forResponse attempt maxAttempts
        ((handed answer).1.map RuntimeResponse.statusCode)
        ((handed answer).1.bind RuntimeResponse.retryAfter) idempotency budget = .ok decision ∧
      (decision.retry = true → idempotency.allowsRetry = true ∧ attempt < maxAttempts ∧
        Retryable answer) := by
  have hcounts : ¬ (attempt < 1 ∨ maxAttempts < attempt) := by omega
  have hstatus : ((handed answer).1.map RuntimeResponse.statusCode).any
      (fun status => !validStatus status) = false := by
    cases answer with
    | ok response => simp [handed, response.statusCode_valid]
    | error error => rfl
  have hafter : ((handed answer).1.bind RuntimeResponse.retryAfter).any (· < 0) = false := by
    cases answer with
    | error error => rfl
    | ok response =>
        simp only [handed, Option.bind_some]
        cases hdelay : response.retryAfter with
        | none => rfl
        | some delay => simpa using response.retryAfter_nonneg delay hdelay
  unfold RetryDecision.forResponse
  rw [if_neg hcounts, hstatus, if_neg Bool.false_ne_true, dif_neg (by rw [hafter]; simp)]
  by_cases hallowed : idempotency.allowsRetry = false
  · rw [if_pos hallowed]
    exact ⟨_, rfl, fun hretry => by cases hretry⟩
  rw [if_neg hallowed]
  by_cases hlimit : maxAttempts ≤ attempt
  · rw [if_pos hlimit]
    exact ⟨_, rfl, fun hretry => by cases hretry⟩
  rw [if_neg hlimit]
  split
  · exact ⟨_, rfl, fun hretry => by cases hretry⟩
  · next hretryable =>
      have hgood : Retryable answer := by
        cases answer with
        | error error => trivial
        | ok response => simpa [handed, Retryable] using hretryable
      split
      · exact ⟨_, rfl, fun hretry => by cases hretry⟩
      · exact ⟨_, rfl, fun _ => ⟨by simpa using hallowed, by omega, hgood⟩⟩

end Runs

/-! ## What all runs have in common -/

/-- The properties of one run. -/
structure SafeRun (trace : List Event) (result : Except Raised RuntimeResponse) : Prop where
  /-- There are at most `max_attempts` sends. -/
  sends_le : (sends trace).length ≤ loop.maxAttempts
  /-- The clock is read first, and there is a send exactly when that leaves time. -/
  dispatched : ∃ now rest, trace = clocked now :: rest ∧
    (0 < loop.deadline.left now ↔ sends trace ≠ [])
  /-- There is no second send when the policy does not allow one. -/
  single : loop.idempotency.allowsRetry = false → (sends trace).length ≤ 1
  /-- Every send but the last one may be repeated. -/
  retried : ∀ before answer after, sends trace = before ++ answer :: after → after ≠ [] →
    Retryable answer
  /-- A sleep follows a reading of the clock, is not negative, and ends within the budget
  that this reading leaves. -/
  sleeps_within : ∀ before delay after, trace = before ++ slept delay :: after →
    0 ≤ delay ∧ ∃ earlier now, before = earlier ++ [clocked now] ∧
      delay ≤ loop.deadline.left now
  /-- All sleeps together stay within the budget. -/
  total_le : Advances loop.deadline.startedAt trace →
    (sleeps trace).sum ≤ loop.deadline.budget.total
  /-- A run ends with what its last send came to, a response or its `TransportError`, or it
  raises because it ran out of time. -/
  settled : (∃ answer, (sends trace).getLast? = some answer ∧ result = raisedBy answer) ∨
    ∃ error, result = .error error ∧ error.errorClass = .budgetExhausted

section Traces

variable {loop} {attempts : Nat} {trace : List Event} {result : Except Raised RuntimeResponse}

theorem RetryTrace.sends_le (htrace : RetryTrace loop attempts trace result) :
    (sends trace).length ≤ attempts := by
  induction htrace with
  | expired late => exact Nat.zero_le _
  | settled answer early => exact Nat.succ_le_succ (Nat.zero_le _)
  | overdue answer early allowed retryable => exact Nat.succ_le_succ (Nat.zero_le _)
  | repeated answer early allowed retryable nonneg within continued ih =>
      exact Nat.succ_le_succ ih

theorem RetryTrace.dispatched (htrace : RetryTrace loop attempts trace result) :
    ∃ now rest, trace = clocked now :: rest ∧ (0 < loop.deadline.left now ↔ sends trace ≠ []) := by
  cases htrace with
  | expired late => exact ⟨_, _, rfl, by simp [sends, late]⟩
  | settled answer early => exact ⟨_, _, rfl, by simp [sends, early]⟩
  | overdue answer early allowed retryable => exact ⟨_, _, rfl, by simp [sends, early]⟩
  | repeated answer early allowed retryable nonneg within continued =>
      exact ⟨_, _, rfl, by simp [sends, early]⟩

theorem RetryTrace.single (htrace : RetryTrace loop attempts trace result)
    (hrefused : loop.idempotency.allowsRetry = false) : (sends trace).length ≤ 1 := by
  cases htrace with
  | expired late => simp [sends]
  | settled answer early => simp [sends]
  | overdue answer early allowed retryable => simp [sends]
  | repeated answer early allowed retryable nonneg within continued =>
      rw [hrefused] at allowed
      cases allowed

theorem RetryTrace.retried (htrace : RetryTrace loop attempts trace result) :
    ∀ before answer after, sends trace = before ++ answer :: after → after ≠ [] →
      Retryable answer := by
  induction htrace with
  | expired late =>
      intro before answer after hsplit
      simp [sends] at hsplit
  | settled last early =>
      intro before answer after hsplit hafter
      have hlength := congrArg List.length hsplit
      have hpos := List.length_pos_iff.mpr hafter
      simp only [sends, List.length_cons, List.length_nil, List.length_append] at hlength
      omega
  | overdue last early allowed retryable =>
      intro before answer after hsplit hafter
      have hlength := congrArg List.length hsplit
      have hpos := List.length_pos_iff.mpr hafter
      simp only [sends, List.length_cons, List.length_nil, List.length_append] at hlength
      omega
  | repeated first early allowed retryable nonneg within continued ih =>
      intro before answer after hsplit hafter
      cases before with
      | nil =>
          simp only [sends, List.nil_append, List.cons.injEq] at hsplit
          exact hsplit.1 ▸ retryable
      | cons head before =>
          simp only [sends, List.cons_append, List.cons.injEq] at hsplit
          exact ih before answer after hsplit.2 hafter

theorem RetryTrace.sleeps_within (htrace : RetryTrace loop attempts trace result) :
    ∀ before delay after, trace = before ++ slept delay :: after →
      0 ≤ delay ∧ ∃ earlier now, before = earlier ++ [clocked now] ∧
        delay ≤ loop.deadline.left now := by
  induction htrace with
  | expired late =>
      intro before delay after hsplit
      have hmem : slept delay ∈ before ++ slept delay :: after := by simp
      rw [← hsplit] at hmem
      simp at hmem
  | settled last early =>
      intro before delay after hsplit
      have hmem : slept delay ∈ before ++ slept delay :: after := by simp
      rw [← hsplit] at hmem
      simp at hmem
  | overdue last early allowed retryable =>
      intro before delay after hsplit
      have hmem : slept delay ∈ before ++ slept delay :: after := by simp
      rw [← hsplit] at hmem
      simp at hmem
  | @repeated attempts now later delay rest result first early allowed retryable nonneg within
      continued ih =>
      intro before other after hsplit
      rcases before with _ | ⟨a, _ | ⟨b, _ | ⟨c, _ | ⟨d, before⟩⟩⟩⟩
      · exact absurd (List.cons.inj hsplit).1.symm (slept_ne_clocked other now)
      · exact absurd (List.cons.inj (List.cons.inj hsplit).2).1.symm (slept_ne_sent other first)
      · exact absurd (List.cons.inj (List.cons.inj (List.cons.inj hsplit).2).2).1.symm
          (slept_ne_clocked other later)
      · simp only [List.cons_append, List.nil_append, List.cons.injEq] at hsplit
        obtain ⟨rfl, rfl, rfl, hslept, rfl⟩ := hsplit
        cases slept_injective hslept
        exact ⟨nonneg, [clocked now, sent first], later, rfl, within⟩
      · simp only [List.cons_append, List.cons.injEq] at hsplit
        obtain ⟨rfl, rfl, rfl, rfl, hrest⟩ := hsplit
        obtain ⟨hpos, earlier, last, rfl, hfits⟩ := ih before other after hrest
        exact ⟨hpos, clocked now :: sent first :: clocked later :: slept delay :: earlier, last,
          rfl, hfits⟩

/-- The sleeps of a run fit into what is left of the budget at any moment before it. -/
theorem RetryTrace.total_le (htrace : RetryTrace loop attempts trace result) (earliest : ℚ)
    (hadvances : Advances earliest trace) (hleft : 0 ≤ loop.deadline.left earliest) :
    (sleeps trace).sum ≤ loop.deadline.left earliest := by
  induction htrace generalizing earliest with
  | expired late => simpa [sleeps] using hleft
  | settled last early => simpa [sleeps] using hleft
  | overdue last early allowed retryable => simpa [sleeps] using hleft
  | @repeated attempts now later delay rest result first early allowed retryable nonneg within
      continued ih =>
      obtain ⟨hnow, hlater, hrest⟩ := hadvances
      have hfits : (sleeps rest).sum ≤ loop.deadline.left (later + delay) := by
        apply ih _ hrest
        unfold DeadlineMonitor.left at within ⊢
        linarith
      calc (sleeps (clocked now :: sent first :: clocked later :: slept delay :: rest)).sum
        _ = delay + (sleeps rest).sum := rfl
        _ ≤ delay + loop.deadline.left (later + delay) := by linarith
        _ = loop.deadline.left later := by
          unfold DeadlineMonitor.left
          linarith
        _ ≤ loop.deadline.left earliest := by
          unfold DeadlineMonitor.left
          linarith

/-- What ends a run is its last send, unless the deadline does. Along the induction the last
send of the rest stays the last one. -/
theorem RetryTrace.settles (htrace : RetryTrace loop attempts trace result) :
    (∃ answer, (sends trace).getLast? = some answer ∧ result = raisedBy answer) ∨
      ∃ error, result = .error error ∧ error.errorClass = .budgetExhausted := by
  induction htrace with
  | expired late => exact .inr ⟨_, rfl, rfl⟩
  | settled last early => exact .inl ⟨last, rfl, rfl⟩
  | overdue last early allowed retryable => exact .inr ⟨_, rfl, rfl⟩
  | @repeated _ now later delay rest _ first early allowed retryable nonneg within continued ih =>
      rcases ih with ⟨answer, hlast, hresult⟩ | hlate
      · refine .inl ⟨answer, ?_, hresult⟩
        calc (first :: sends rest).getLast?
          _ = some ((sends rest).getLast?.getD first) := List.getLast?_cons
          _ = some answer := by rw [hlast, Option.getD_some]
      · exact .inr hlate

theorem RetryTrace.safe (htrace : RetryTrace loop loop.maxAttempts trace result) :
    SafeRun loop trace result where
  sends_le := htrace.sends_le
  dispatched := htrace.dispatched
  single := htrace.single
  retried := htrace.retried
  sleeps_within := htrace.sleeps_within
  total_le := by
    intro hadvances
    have hleft : loop.deadline.left loop.deadline.startedAt = loop.deadline.budget.total := by
      simp [DeadlineMonitor.left]
    rw [← hleft]
    apply htrace.total_le _ hadvances
    rw [hleft]
    exact loop.deadline.budget.total_pos.le
  settled := htrace.settles

end Traces

/-- One second for everything. -/
def oneSecond : TimeBudget where
  connect := 1
  read := 1
  write := 1
  total := 1
  connect_pos := one_pos
  read_pos := one_pos
  write_pos := one_pos
  total_pos := one_pos
  le_total := by decide

end DataSluice.Runtime.Retry
