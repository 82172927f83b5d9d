/-
# Enforced mutations

`MutationEnforcer.execute`: a mutation is checked, sent through the retry loop and recorded.
An enforcer is used for one mutation after the other; it remembers the last receipt that it
built.

The clock, the send and the sleep are given to the enforcer by its caller. Each of them may
raise whatever it likes. What is known of a run is what was sent, with the answers, and the
receipt that is remembered behind it.
-/

import DataSluice.Catalog.UdataMutation
import DataSluice.Runtime.RetrySafety

namespace DataSluice.Runtime.Mutation

open DataSluice.Lib DataSluice.Domain DataSluice.Catalog DataSluice.Catalog.Udata

/-! ## The enforcer -/

/-- `MutationDispatchRequest` -/
structure MutationDispatchRequest where
  operationId : OperationId
  target : CatalogId
  concurrencyToken : Option String
  overwrite : Bool
  idempotencyKey : Option String

/-- What the enforcer asks of its caller's functions. -/
inductive EnforcerOp
  | readClock
  | send (request : MutationDispatchRequest)
  | sleep (delay : ℚ)

/-- What they return. -/
def EnforcerOp.Reply : EnforcerOp → Type
  | .readClock => ℚ
  | .send _ => RuntimeResponse
  | .sleep _ => Unit

/-- What they return or raise. -/
abbrev Answer (op : EnforcerOp) : Type := Except Raised op.Reply

/-- One call of a function, with its answer. -/
abbrev Event : Type := Happening Answer

/-- One use of `execute`. -/
structure MutationCall where
  operationId : OperationId
  target : CatalogId
  policy : Option MutationPolicy
  auditMetadata : List (Key × Value) := []

/-- `ConcurrencyPolicy.allows_execution` -/
def allowsConcurrency (policy : ConcurrencyPolicy) : Bool :=
  policy.token.isSome || policy.overwrite

/-- `MutationPolicy.allows_execution` with a supported preview. -/
def allowsExecution (policy : MutationPolicy) : Bool :=
  !policy.destructive || policy.confirmation.any (·.confirmed)

theorem defaultConnect_pos : (0 : ℚ) < 10 := by decide

theorem defaultTransfer_pos : (0 : ℚ) < 30 := by decide

theorem defaultTotal_pos : (0 : ℚ) < 60 := by decide

theorem default_le_total : max (10 : ℚ) (max 30 30) ≤ 60 := by decide

/-- The default budget of an enforcer. -/
def defaultBudget : TimeBudget where
  connect := 10
  read := 30
  write := 30
  total := 60
  connect_pos := defaultConnect_pos
  read_pos := defaultTransfer_pos
  write_pos := defaultTransfer_pos
  total_pos := defaultTotal_pos
  le_total := default_le_total

/-- `MutationEnforcer`, with what its constructor is given. The number of attempts is checked
by the retry loop only. -/
structure MutationEnforcer where
  context : ReceiptContext
  budget : Option TimeBudget := none
  maxAttempts : Int := 3

namespace MutationEnforcer

variable (enforcer : MutationEnforcer)

/-- The receipts of the enforcer. -/
abbrev Receipt : Type := enforcer.context.Receipt

/-- The events so far, and `last_receipt`. -/
abbrev EnforcerWorld : Type := World Answer (Option enforcer.Receipt)

variable (environment : Environment Answer)

def readClock : Effect enforcer.EnforcerWorld Raised ℚ := ask environment .readClock

def send (request : MutationDispatchRequest) :
    Effect enforcer.EnforcerWorld Raised RuntimeResponse :=
  ask environment (.send request)

def sleep (delay : ℚ) : Effect enforcer.EnforcerWorld Raised Unit :=
  ask environment (.sleep delay)

/-- The budget of every mutation. -/
def timeBudget : TimeBudget := enforcer.budget.getD defaultBudget

/-- `_validate` -/
def validate (call : MutationCall) : Except Raised MutationPolicy :=
  match call.policy.filter fun policy =>
      allowsExecution policy && policy.concurrency.any allowsConcurrency with
  | some policy => .ok policy
  | none =>
      .error
        { errorClass := .validation
          message := "Catalog mutations require a confirmed policy and concurrency instruction " ++
            "before dispatch."
          operation := some call.operationId.text
          platform := some call.operationId.platform
          safeAction := some ("Provide a confirmed mutation policy with a version token or " ++
            "explicit overwrite.") }

/-- The request that the policy stands for. -/
def requestOf (call : MutationCall) (policy : MutationPolicy) : MutationDispatchRequest where
  operationId := call.operationId
  target := call.target
  concurrencyToken := policy.concurrency.bind (·.token)
  overwrite := (policy.concurrency.map (·.overwrite)).getD false
  idempotencyKey := policy.idempotency.key

/-- The receipt of a call. -/
def build (call : MutationCall) (policy : MutationPolicy) (outcome : Outcome)
    (metadata : List (Key × Value)) : Except Raised enforcer.Receipt :=
  enforcer.context.buildMutationReceipt call.operationId call.target policy outcome metadata

/-- `_receipt` -/
def receipt (call : MutationCall) (policy : MutationPolicy) (outcome : Outcome)
    (metadata : List (Key × Value)) : Effect enforcer.EnforcerWorld Raised enforcer.Receipt := do
  let receipt ← Effect.ofExcept (enforcer.build call policy outcome metadata)
  setLocals fun _ => some receipt
  return receipt

/-- `RetryLoop(…)` -/
def retryLoop (policy : MutationPolicy) (deadline : DeadlineMonitor) : Except Raised RetryLoop :=
  if hattempts : 1 ≤ enforcer.maxAttempts then
    .ok
      { budget := enforcer.timeBudget
        idempotency := policy.idempotency
        deadline
        maxAttempts := enforcer.maxAttempts.toNat
        maxAttempts_pos := (Int.le_toNat (by omega)).mpr hattempts }
  else .error (.valueError "Retry loops require at least one attempt.")

/-- `map_catalog_error` of a response that is not a success. -/
def unsuccessful (call : MutationCall) (statusCode : Int) : Raised :=
  mapCatalogError
    { message := "Catalog mutation returned an unsuccessful HTTP status."
      operation := call.operationId.text
      platform := call.operationId.platform
      statusCode := some statusCode }

/-- A status of success. -/
def IsSuccess (statusCode : Int) : Prop := 200 ≤ statusCode ∧ statusCode < 300

instance (statusCode : Int) : Decidable (IsSuccess statusCode) :=
  inferInstanceAs (Decidable (_ ∧ _))

/-- The `try` block of `execute`. -/
def dispatch (call : MutationCall) (policy : MutationPolicy) (deadline : DeadlineMonitor) :
    Effect enforcer.EnforcerWorld Raised RuntimeResponse := do
  let loop ← Effect.ofExcept (enforcer.retryLoop policy deadline)
  let response ← loop.run (enforcer.readClock environment)
    (enforcer.send environment (requestOf call policy)) (enforcer.sleep environment)
  if IsSuccess response.statusCode then return response
  else Effect.raise (unsuccessful call response.statusCode)

/-- Its `except Exception` clause. A receipt that cannot be built is logged. -/
def recordFailure (call : MutationCall) (policy : MutationPolicy) (error : Raised) :
    Effect enforcer.EnforcerWorld Raised RuntimeResponse :=
  if error.isException = true then do
    Effect.tryExcept (do let _ ← enforcer.receipt call policy .failed call.auditMetadata)
      fun inner => if inner.isException = true then return () else Effect.raise inner
    Effect.raise error
  else Effect.raise error

/-- `execute` -/
def execute (call : MutationCall) : Effect enforcer.EnforcerWorld Raised enforcer.Receipt := do
  let policy ← Effect.ofExcept (validate call)
  if policy.dryRun.requested = true then
    enforcer.receipt call policy .skipped
      (mergeEntries call.auditMetadata [(.text "dry_run", .bool true)])
  else
    let startedAt ← enforcer.readClock environment
    let monitor : DeadlineMonitor := { budget := enforcer.timeBudget, startedAt }
    let deadline := monitor.named call.operationId.text call.operationId.platform
    deadline.assertDispatchable (enforcer.readClock environment)
    let _ ← Effect.tryExcept (enforcer.dispatch environment call policy deadline)
      (enforcer.recordFailure call policy)
    enforcer.receipt call policy .succeeded call.auditMetadata

/-- Mutations one after the other, whatever becomes of each. -/
def executeAll : List MutationCall →
    Effect enforcer.EnforcerWorld Raised (List (Except Raised enforcer.Receipt))
  | [] => return []
  | call :: calls => do
      let result ← Effect.tryExcept (Except.ok <$> enforcer.execute environment call) fun error =>
        return .error error
      let results ← executeAll calls
      return result :: results

end MutationEnforcer

/-! ## What a run did -/

/-- The requests of a run, with their answers. -/
def sends : List Event → List (MutationDispatchRequest × Except Raised RuntimeResponse)
  | [] => []
  | ⟨.send request, answer⟩ :: rest => (request, answer) :: sends rest
  | ⟨.readClock, _⟩ :: rest => sends rest
  | ⟨.sleep _, _⟩ :: rest => sends rest

@[simp] theorem sends_append (first second : List Event) :
    sends (first ++ second) = sends first ++ sends second := by
  induction first with
  | nil => rfl
  | cons event first ih =>
      obtain ⟨op, answer⟩ := event
      cases op with
      | readClock => exact ih
      | send request => exact congrArg (List.cons _) ih
      | sleep delay => exact ih

/-- An answer behind which the request may be sent again. -/
def Repeatable : Except Raised RuntimeResponse → Prop
  | .ok response => response.statusCode ∈ retryableStatuses
  | .error error => error.isTransport = true

/-- An answer that says that the mutation was applied. -/
def Applied : Except Raised RuntimeResponse → Prop
  | .ok response => MutationEnforcer.IsSuccess response.statusCode
  | .error _ => False

/-- An answer after which the loop may send again says that nothing was applied: it is a transport
failure or a status of the retryable set, never a success. -/
theorem Repeatable.not_applied {answer : Except Raised RuntimeResponse}
    (hrepeatable : Repeatable answer) : ¬ Applied answer := by
  cases answer with
  | error error => exact id
  | ok response =>
      intro happlied
      obtain ⟨hfrom, hto⟩ := happlied
      simp only [Repeatable, retryableStatuses, List.mem_cons, List.not_mem_nil, or_false]
        at hrepeatable
      omega

/-- What a loop with some attempts left may be answered, and what it comes to. -/
inductive Dispatched (idempotency : IdempotencyPolicy) :
    Nat → List (Except Raised RuntimeResponse) → Except Raised RuntimeResponse → Prop
  | /-- The time is over, or the clock raises. -/
    stopped {attempts : Nat} (error : Raised) : Dispatched idempotency attempts [] (.error error)
  | /-- The answer is final. -/
    settled {attempts : Nat} (answer : Except Raised RuntimeResponse) :
      Dispatched idempotency (attempts + 1) [answer] answer
  | /-- The request might be repeated, but it is not. -/
    abandoned {attempts : Nat} {answer : Except Raised RuntimeResponse} (error : Raised)
      (repeatable : Repeatable answer) :
      Dispatched idempotency (attempts + 1) [answer] (.error error)
  | /-- The request is repeated. -/
    repeated {attempts : Nat} {answer : Except Raised RuntimeResponse}
      {answers : List (Except Raised RuntimeResponse)} {result : Except Raised RuntimeResponse}
      (allowed : idempotency.allowsRetry = true) (repeatable : Repeatable answer)
      (continued : Dispatched idempotency attempts answers result) :
      Dispatched idempotency (attempts + 1) (answer :: answers) result

/-! ## The loop -/

section Loop

variable {idempotency : IdempotencyPolicy} {attempts : Nat}
  {answers : List (Except Raised RuntimeResponse)} {result : Except Raised RuntimeResponse}

/-- One loop sends no more often than it has attempts. The induction is on the shape of its
answers. -/
theorem Dispatched.length_le (hdispatched : Dispatched idempotency attempts answers result) :
    answers.length ≤ attempts := by
  induction hdispatched with
  | stopped error => exact Nat.zero_le _
  | settled answer => exact Nat.le_add_left _ _
  | abandoned error repeatable => exact Nat.le_add_left _ _
  | repeated allowed repeatable continued ih => exact Nat.succ_le_succ ih

/-- What may not be repeated is sent once. -/
theorem Dispatched.single (hdispatched : Dispatched idempotency attempts answers result)
    (hrefused : idempotency.allowsRetry = false) : answers.length ≤ 1 := by
  cases hdispatched with
  | stopped error => exact Nat.zero_le _
  | settled answer => exact le_rfl
  | abandoned error repeatable => exact le_rfl
  | repeated allowed repeatable continued =>
      rw [hrefused] at allowed
      cases allowed

/-- Every answer but the last allows that the request is repeated. -/
theorem Dispatched.repeatable (hdispatched : Dispatched idempotency attempts answers result) :
    ∀ answer ∈ answers.dropLast, Repeatable answer := by
  induction hdispatched with
  | stopped error => exact fun answer hanswer => absurd hanswer List.not_mem_nil
  | settled last => exact fun answer hanswer => absurd hanswer List.not_mem_nil
  | abandoned error repeatable => exact fun answer hanswer => absurd hanswer List.not_mem_nil
  | @repeated attempts first answers result allowed repeatable continued ih =>
      intro answer hanswer
      cases answers with
      | nil => exact absurd hanswer List.not_mem_nil
      | cons second answers =>
          rw [List.dropLast_cons_cons] at hanswer
          rcases List.mem_cons.mp hanswer with rfl | hlater
          · exact repeatable
          · exact ih answer hlater

/-- The loop returns the last answer. -/
theorem Dispatched.getLast_of_ok {response : RuntimeResponse}
    (hdispatched : Dispatched idempotency attempts answers (.ok response)) :
    answers.getLast? = some (.ok response) := by
  generalize hresult : (Except.ok response : Except Raised RuntimeResponse) = result at hdispatched
  induction hdispatched with
  | stopped error => cases hresult
  | settled answer => rfl
  | abandoned error repeatable => cases hresult
  | repeated allowed repeatable continued ih =>
      rw [List.getLast?_cons, ih hresult, Option.getD_some]

/-- Behind an exception of the loop nothing was applied, as far as the answers say. -/
theorem Dispatched.not_applied {error : Raised}
    (hdispatched : Dispatched idempotency attempts answers (.error error)) :
    ∀ answer ∈ answers, ¬ Applied answer := by
  generalize hresult : (Except.error error : Except Raised RuntimeResponse) = result at hdispatched
  induction hdispatched with
  | stopped error => exact fun answer hanswer => absurd hanswer List.not_mem_nil
  | settled last =>
      intro answer hanswer
      rw [List.mem_singleton.mp hanswer, ← hresult]
      exact id
  | abandoned error repeatable =>
      intro answer hanswer
      rw [List.mem_singleton.mp hanswer]
      exact repeatable.not_applied
  | repeated allowed repeatable continued ih =>
      intro answer hanswer
      rcases List.mem_cons.mp hanswer with rfl | hlater
      · exact repeatable.not_applied
      · exact ih hresult answer hlater

/-- Only the last answer may say that the mutation was applied. -/
theorem Dispatched.applied_last (hdispatched : Dispatched idempotency attempts answers result) :
    ∀ answer ∈ answers.dropLast, ¬ Applied answer :=
  fun answer hanswer => (hdispatched.repeatable answer hanswer).not_applied

variable {enforcer : MutationEnforcer} {environment : Environment Answer}
  {request : MutationDispatchRequest} {history : List Event}
  {last : Option enforcer.Receipt}

/-- Since the call began, the request was sent with these answers, and nothing was recorded. -/
def Answered (request : MutationDispatchRequest) (history : List Event)
    (last : Option enforcer.Receipt) (answers : List (Except Raised RuntimeResponse))
    (world : enforcer.EnforcerWorld) : Prop :=
  ∃ trace, world = ⟨history ++ trace, last⟩ ∧ sends trace = answers.map (Prod.mk request)

/-- An event that sends nothing leaves the answers of a request as they were. -/
theorem Answered.quiet {world : enforcer.EnforcerWorld}
    (hanswered : Answered request history last answers world) {event : Event}
    (hevent : sends [event] = []) :
    Answered request history last answers
      ⟨world.history ++ [event], world.locals⟩ := by
  obtain ⟨trace, rfl, htrace⟩ := hanswered
  refine ⟨trace ++ [event], by rw [List.append_assoc], ?_⟩
  calc sends (trace ++ [event])
    _ = sends trace ++ sends [event] := sends_append trace [event]
    _ = sends trace := by rw [hevent, List.append_nil]
    _ = answers.map (Prod.mk request) := htrace

/-- Reading the clock sends nothing, so it leaves the answers of a request as they were; so does
every operation below that only reads it or sleeps. -/
theorem keeps_readClock :
    Effect.Keeps (Answered request history last answers) (enforcer.readClock environment) := by
  intro world hworld
  unfold MutationEnforcer.readClock
  rw [ask_run]
  exact hworld.quiet rfl

theorem keeps_sleep (delay : ℚ) :
    Effect.Keeps (Answered request history last answers)
      (enforcer.sleep environment delay) := by
  intro world hworld
  unfold MutationEnforcer.sleep
  rw [ask_run]
  exact hworld.quiet rfl

theorem keeps_raiseExhausted {α : Type} (monitor : DeadlineMonitor) (retryState : RetryState) :
    Effect.Keeps (Answered request history last answers)
      (monitor.raiseExhausted (α := α) (enforcer.readClock environment) retryState) :=
  keeps_readClock.bind fun _ => .raise _

theorem keeps_assertDispatchable (monitor : DeadlineMonitor) :
    Effect.Keeps (Answered request history last answers)
      (monitor.assertDispatchable (enforcer.readClock environment)) := by
  apply Effect.Keeps.bind
  · exact keeps_readClock.bind fun _ => .pure _
  · intro remaining
    split
    · exact keeps_raiseExhausted monitor _
    · exact .pure ()

theorem keeps_checkWait (monitor : DeadlineMonitor) (delay : ℚ) (wait : RetryWait) :
    Effect.Keeps (Answered request history last answers)
      (monitor.checkWait (enforcer.readClock environment) delay wait) := by
  unfold DeadlineMonitor.checkWait
  split
  · exact .raise _
  · apply Effect.Keeps.bind
    · exact keeps_readClock.bind fun _ => .pure _
    · intro remaining
      split
      · exact keeps_raiseExhausted monitor _
      · exact .pure ()

/-- What an attempt hands to `_settle_attempt`. -/
inductive Handed : Except Raised RuntimeResponse → Option RuntimeResponse → Option Raised → Prop
  | ok (response : RuntimeResponse) : Handed (.ok response) (some response) none
  | error (error : Raised) (transport : error.isTransport = true) :
      Handed (.error error) none (some error)

/-- An attempt sends once. What is not a `TransportError` leaves the loop. -/
theorem ends_attemptSend :
    Effect.Ends (Answered request history last answers)
      (RetryLoop.attemptSend (enforcer.send environment request))
      (fun outcome world => ∃ answer, Handed answer outcome.1 outcome.2 ∧
        Answered request history last (answers ++ [answer]) world)
      (fun error world => Answered request history last (answers ++ [.error error]) world) := by
  have hsent : ∀ {world : enforcer.EnforcerWorld} (answer : Except Raised RuntimeResponse),
      Answered request history last answers world →
      Answered request history last (answers ++ [answer])
        ⟨world.history ++ [⟨.send request, answer⟩], world.locals⟩ := by
    rintro world answer ⟨trace, rfl, htrace⟩
    refine ⟨trace ++ [⟨.send request, answer⟩], by rw [List.append_assoc], ?_⟩
    rw [sends_append, htrace, List.map_append]
    rfl
  unfold RetryLoop.attemptSend
  apply Effect.Ends.tryExcept (F := fun error world =>
    Answered request history last (answers ++ [.error error]) world)
  · apply Effect.Ends.bind (R := fun response world =>
      Answered request history last (answers ++ [.ok response]) world)
    · exact Ends.ask (fun world response hworld => hsent (.ok response) hworld)
        fun world error hworld => hsent (.error error) hworld
    · exact fun response => .pure fun world hworld => ⟨.ok response, .ok response, hworld⟩
  · intro error
    apply Effect.Ends.ite
    · exact fun htransport => .pure fun world hworld =>
        ⟨.error error, .error error htransport, hworld⟩
    · exact fun _ => .raise fun world hworld => hworld

/-- A decision to try again is made for what may be repeated only, and never at the last
attempt. -/
theorem forResponse_of_handed {loop : RetryLoop} {attempt : Nat} (hfirst : 1 ≤ attempt)
    (hlast : attempt ≤ loop.maxAttempts) {answer : Except Raised RuntimeResponse}
    {response : Option RuntimeResponse} {failure : Option Raised}
    (hhanded : Handed answer response failure) :
    ∃ decision, RetryDecision.forResponse attempt loop.maxAttempts
        (response.map RuntimeResponse.statusCode) (response.bind RuntimeResponse.retryAfter)
        loop.idempotency loop.budget = .ok decision ∧
      (decision.retry = true → loop.idempotency.allowsRetry = true ∧
        attempt < loop.maxAttempts ∧ Repeatable answer) := by
  cases hhanded with
  | ok response => exact Retry.forResponse_spec hfirst hlast (.ok response) _ _
  | error error htransport =>
      obtain ⟨decision, hdecision, hretry⟩ :=
        Retry.forResponse_spec hfirst hlast (.error ⟨""⟩) loop.idempotency loop.budget
      refine ⟨decision, hdecision, fun hagain => ?_⟩
      obtain ⟨hallowed, hbelow, -⟩ := hretry hagain
      exact ⟨hallowed, hbelow, htransport⟩

/-- One attempt is settled by its answer, or was worth repeating. -/
theorem ends_settleAttempt {loop : RetryLoop} {attempt : Nat} (hfirst : 1 ≤ attempt)
    (hlast : attempt ≤ loop.maxAttempts) {answer : Except Raised RuntimeResponse}
    {response : Option RuntimeResponse} {failure : Option Raised}
    (hhanded : Handed answer response failure) :
    Effect.Ends (Answered request history last answers)
      (loop.settleAttempt (enforcer.readClock environment) attempt response failure)
      (fun outcome world => Answered request history last answers world ∧
        match outcome with
        | .response response => answer = .ok response
        | .wait _ => loop.idempotency.allowsRetry = true ∧ attempt < loop.maxAttempts ∧
            Repeatable answer)
      (fun error world => Answered request history last answers world ∧
        (answer = .error error ∨ Repeatable answer)) := by
  obtain ⟨decision, hdecision, hretry⟩ := forResponse_of_handed hfirst hlast hhanded
  unfold RetryLoop.settleAttempt
  rw [hdecision]
  apply Effect.Ends.bind (R := fun found world =>
    found = decision ∧ Answered request history last answers world)
  · exact .ofExcept (fun found hfound world hworld => ⟨(Except.ok.inj hfound).symm, hworld⟩)
      fun error herror => by cases herror
  intro found
  apply Effect.Ends.assume (fun world hworld => hworld.1)
  rintro rfl
  apply Effect.Ends.ite
  · intro hdeclined
    cases hhanded with
    | ok response => exact .pure fun world hworld => ⟨hworld.2, rfl⟩
    | error error htransport => exact .raise fun world hworld => ⟨hworld.2, .inl rfl⟩
  · intro hagain
    obtain ⟨hallowed, hbelow, hrepeatable⟩ := hretry (by simpa using hagain)
    apply Effect.Ends.bind (R := fun _ world => Answered request history last answers world)
    · apply (keeps_checkWait loop.deadline _ _).ends.weaken
      · exact fun world hworld => hworld.2
      · exact fun _ world hworld => hworld
      · exact fun error world hworld => ⟨hworld, .inr hrepeatable⟩
    · exact fun _ => .pure fun world hworld => ⟨hworld, hallowed, hbelow, hrepeatable⟩

/-- The iterations of the loop. The induction is on the attempts that are left; a wait behind
the last attempt is never decided. -/
theorem ends_runFrom {loop : RetryLoop} {attempts attempt : Nat} (hfirst : 1 ≤ attempt)
    (hcount : attempt + attempts = loop.maxAttempts + 1)
    (before : List (Except Raised RuntimeResponse)) :
    Effect.Ends (Answered request history last before)
      (loop.runFrom (enforcer.readClock environment) (enforcer.send environment request)
        (enforcer.sleep environment) attempt attempts)
      (fun response world => ∃ more, Dispatched loop.idempotency attempts more (.ok response) ∧
        Answered request history last (before ++ more) world)
      (fun error world => ∃ more, Dispatched loop.idempotency attempts more (.error error) ∧
        Answered request history last (before ++ more) world) := by
  induction attempts generalizing attempt before with
  | zero =>
      exact .raise fun world hworld => ⟨[], .stopped _, by rwa [List.append_nil]⟩
  | succ attempts ih =>
      have hlast : attempt ≤ loop.maxAttempts := by omega
      unfold RetryLoop.runFrom
      apply Effect.Ends.bind (R := fun _ world => Answered request history last before world)
      · apply (keeps_assertDispatchable loop.deadline).ends.weaken
        · exact fun world hworld => hworld
        · exact fun _ world hworld => hworld
        · exact fun error world hworld => ⟨[], .stopped error, by rwa [List.append_nil]⟩
      intro _
      apply Effect.Ends.bind
      · apply ends_attemptSend.weaken
        · exact fun world hworld => hworld
        · exact fun outcome world hworld => hworld
        · exact fun error world hworld => ⟨[.error error], .settled _, hworld⟩
      rintro ⟨response, failure⟩
      apply Effect.Ends.of_exists
      intro answer
      apply Effect.Ends.assume fun world hworld => hworld.1
      intro hhanded
      apply Effect.Ends.bind
      · apply (ends_settleAttempt hfirst hlast hhanded).weaken
        · exact fun world hworld => hworld.2
        · exact fun outcome world hworld => hworld
        · rintro error world ⟨hworld, rfl | hrepeatable⟩
          · exact ⟨[.error error], .settled _, hworld⟩
          · exact ⟨[answer], .abandoned error hrepeatable, hworld⟩
      intro outcome
      cases outcome with
      | response response =>
          apply Effect.Ends.pure
          rintro world ⟨hworld, rfl⟩
          exact ⟨[.ok response], .settled _, hworld⟩
      | wait delay =>
          apply Effect.Ends.assume fun world hworld => hworld.2
          rintro ⟨hallowed, hbelow, hrepeatable⟩
          apply Effect.Ends.bind (R := fun _ world =>
            Answered request history last (before ++ [answer]) world)
          · apply (keeps_sleep delay).ends.weaken
            · exact fun world hworld => hworld.1
            · exact fun _ world hworld => hworld
            · exact fun error world hworld => ⟨[answer], .abandoned error hrepeatable, hworld⟩
          · intro _
            apply (ih (by omega) (by omega) (before ++ [answer])).weaken
            · exact fun world hworld => hworld
            · rintro response world ⟨more, hmore, hworld⟩
              rw [List.append_assoc] at hworld
              exact ⟨answer :: more, .repeated hallowed hrepeatable hmore, hworld⟩
            · rintro error world ⟨more, hmore, hworld⟩
              rw [List.append_assoc] at hworld
              exact ⟨answer :: more, .repeated hallowed hrepeatable hmore, hworld⟩

end Loop

/-! ## One call -/

section Call

variable {enforcer : MutationEnforcer}

/-- The policy of the call lets it be sent: destructive work is confirmed, there is a version
token or an explicit overwrite, and no preview is asked for. -/
structure Sendable (call : MutationCall) (policy : MutationPolicy) : Prop where
  policy_eq : call.policy = some policy
  confirmed : policy.destructive = true → policy.confirmation.any (·.confirmed) = true
  guarded : policy.concurrency.any allowsConcurrency = true
  dispatched : policy.dryRun.requested = false

/-- What a call sent, what became of it, and what the enforcer remembers before and behind it. -/
inductive Recorded (enforcer : MutationEnforcer) (call : MutationCall)
    (before : Option enforcer.Receipt) :
    List (Except Raised RuntimeResponse) → Except Raised enforcer.Receipt →
      Option enforcer.Receipt → Prop
  | /-- Nothing is sent, and nothing is recorded. -/
    refused (error : Raised) : Recorded enforcer call before [] (.error error) before
  | /-- A preview is recorded, and not sent. -/
    skipped {policy : MutationPolicy} {metadata : List (Key × Value)} {receipt : enforcer.Receipt}
      (policy_eq : call.policy = some policy) (preview : policy.dryRun.requested = true)
      (built : enforcer.build call policy .skipped metadata = .ok receipt) :
      Recorded enforcer call before [] (.ok receipt) (some receipt)
  | /-- A failure is recorded. -/
    failed {policy : MutationPolicy} {answers : List (Except Raised RuntimeResponse)}
      {receipt : enforcer.Receipt} (error : Raised) (sendable : Sendable call policy)
      (unapplied : ∀ answer ∈ answers, ¬ Applied answer)
      (built : enforcer.build call policy .failed call.auditMetadata = .ok receipt) :
      Recorded enforcer call before answers (.error error) (some receipt)
  | /-- A failure is not recorded, since it is not an `Exception` or the receipt cannot be
    built. -/
    unrecorded {policy : MutationPolicy} {answers : List (Except Raised RuntimeResponse)}
      (error : Raised) (sendable : Sendable call policy)
      (unapplied : ∀ answer ∈ answers, ¬ Applied answer)
      (unbuilt : error.isException = true →
        ∃ inner, enforcer.build call policy .failed call.auditMetadata = .error inner) :
      Recorded enforcer call before answers (.error error) before
  | /-- A success is recorded. -/
    succeeded {policy : MutationPolicy} {answers : List (Except Raised RuntimeResponse)}
      {receipt : enforcer.Receipt} (sendable : Sendable call policy)
      (applied : ∃ answer, answers.getLast? = some answer ∧ Applied answer)
      (built : enforcer.build call policy .succeeded call.auditMetadata = .ok receipt) :
      Recorded enforcer call before answers (.ok receipt) (some receipt)
  | /-- A success cannot be recorded. -/
    lost {policy : MutationPolicy} {answers : List (Except Raised RuntimeResponse)}
      {error : Raised} (sendable : Sendable call policy)
      (applied : ∃ answer, answers.getLast? = some answer ∧ Applied answer)
      (unbuilt : enforcer.build call policy .succeeded call.auditMetadata = .error error) :
      Recorded enforcer call before answers (.error error) before

/-- What one call did. -/
structure Performed (enforcer : MutationEnforcer) (call : MutationCall)
    (before : Option enforcer.Receipt)
    (sent : List (MutationDispatchRequest × Except Raised RuntimeResponse))
    (result : Except Raised enforcer.Receipt) (after : Option enforcer.Receipt) : Prop where
  requests : ∀ entry ∈ sent, ∃ policy, Sendable call policy ∧
    entry.1 = MutationEnforcer.requestOf call policy
  length_le : sent.length ≤ enforcer.maxAttempts.toNat
  single : (∀ policy, Sendable call policy → policy.idempotency.allowsRetry = false) →
    sent.length ≤ 1
  repeated : ∀ entry ∈ sent.dropLast, Repeatable entry.2
  recorded : Recorded enforcer call before (sent.map Prod.snd) result after

/-- A call that passes the checks of `_validate` and is no dry run may be sent: it is confirmed,
and its policy is the one that was checked. -/
theorem sendable_of_validate {call : MutationCall} {policy : MutationPolicy}
    (hvalid : MutationEnforcer.validate call = .ok policy)
    (hdispatched : policy.dryRun.requested = false) : Sendable call policy := by
  unfold MutationEnforcer.validate at hvalid
  split at hvalid
  · next accepted haccepted =>
      cases hvalid
      obtain ⟨hpolicy, hallows⟩ := Option.filter_eq_some_iff.mp haccepted
      obtain ⟨hexecution, hconcurrency⟩ := Bool.and_eq_true_iff.mp hallows
      constructor
      · exact hpolicy
      · intro hdestructive
        unfold allowsExecution at hexecution
        rwa [hdestructive, Bool.not_true, Bool.false_or] at hexecution
      · exact hconcurrency
      · exact hdispatched
  · cases hvalid

/-- What was sent is the request of the policy, and its answers are those of one loop. -/
theorem Performed.of_dispatched {call : MutationCall} {policy : MutationPolicy}
    {before after : Option enforcer.Receipt} {result : Except Raised enforcer.Receipt}
    {trace : List Event} {answers : List (Except Raised RuntimeResponse)}
    {ending : Except Raised RuntimeResponse} (hsendable : Sendable call policy)
    (htrace : sends trace = answers.map (Prod.mk (MutationEnforcer.requestOf call policy)))
    (hdispatched : Dispatched policy.idempotency enforcer.maxAttempts.toNat answers ending)
    (hrecorded : Recorded enforcer call before answers result after) :
    Performed enforcer call before (sends trace) result after := by
  have hanswers : (sends trace).map Prod.snd = answers := by
    rw [htrace, List.map_map]
    exact List.map_id answers
  constructor
  · intro entry hentry
    rw [htrace] at hentry
    obtain ⟨answer, -, rfl⟩ := List.mem_map.mp hentry
    exact ⟨policy, hsendable, rfl⟩
  · rw [htrace, List.length_map]
    exact hdispatched.length_le
  · intro hrefused
    rw [htrace, List.length_map]
    exact hdispatched.single (hrefused policy hsendable)
  · intro entry hentry
    rw [htrace, ← List.map_dropLast] at hentry
    obtain ⟨answer, hanswer, rfl⟩ := List.mem_map.mp hentry
    exact hdispatched.repeatable answer hanswer
  · rw [hanswers]
    exact hrecorded

/-- A call that sends nothing. -/
theorem Performed.silent {call : MutationCall} {before after : Option enforcer.Receipt}
    {result : Except Raised enforcer.Receipt}
    (hrecorded : Recorded enforcer call before [] result after) :
    Performed enforcer call before [] result after where
  requests := fun _ hentry => absurd hentry List.not_mem_nil
  length_le := Nat.zero_le _
  single := fun _ => Nat.zero_le _
  repeated := fun _ hentry => absurd hentry List.not_mem_nil
  recorded := hrecorded

variable {environment : Environment Answer} {call : MutationCall} {policy : MutationPolicy}
  {history : List Event} {last : Option enforcer.Receipt}

/-- Writing a receipt records it, or raises and changes nothing. -/
theorem receipt_run (call : MutationCall) (policy : MutationPolicy) (outcome : Outcome)
    (metadata : List (Key × Value)) (world : enforcer.EnforcerWorld) :
    enforcer.receipt call policy outcome metadata world =
      match enforcer.build call policy outcome metadata with
      | .ok receipt => (.ok receipt, ⟨world.history, some receipt⟩)
      | .error error => (.error error, world) := by
  unfold MutationEnforcer.receipt
  rw [Effect.bind_run, Effect.ofExcept_run]
  cases enforcer.build call policy outcome metadata with
  | ok receipt => rfl
  | error error => rfl

/-- Behind the `try` block: the loop has run, and the last answer is a success exactly when
nothing was raised. -/
theorem ends_dispatch (deadline : DeadlineMonitor) :
    Effect.Ends (Answered (MutationEnforcer.requestOf call policy) history last [])
      (enforcer.dispatch environment call policy deadline)
      (fun _ world => ∃ answers ending,
        Dispatched policy.idempotency enforcer.maxAttempts.toNat answers ending ∧
        (∃ answer, answers.getLast? = some answer ∧ Applied answer) ∧
        Answered (MutationEnforcer.requestOf call policy) history last answers world)
      (fun _ world => ∃ answers ending,
        Dispatched policy.idempotency enforcer.maxAttempts.toNat answers ending ∧
        (∀ answer ∈ answers, ¬ Applied answer) ∧
        Answered (MutationEnforcer.requestOf call policy) history last answers world) := by
  unfold MutationEnforcer.dispatch MutationEnforcer.retryLoop
  split
  · next hattempts =>
      apply Effect.Ends.bind (R := fun loop world => loop.idempotency = policy.idempotency ∧
        loop.maxAttempts = enforcer.maxAttempts.toNat ∧
        Answered (MutationEnforcer.requestOf call policy) history last [] world)
      · apply Effect.Ends.ofExcept
        · intro loop hloop world hworld
          cases hloop
          exact ⟨rfl, rfl, hworld⟩
        · intro error herror
          cases herror
      intro loop
      apply Effect.Ends.assume fun world hworld => And.intro hworld.1 hworld.2.1
      rintro ⟨hidempotency, hmax⟩
      rw [← hidempotency, ← hmax]
      apply Effect.Ends.bind
      · apply (ends_runFrom le_rfl (Nat.add_comm _ _) []).weaken
        · exact fun world hworld => hworld.2.2
        · exact fun response world hworld => hworld
        · rintro error world ⟨answers, hanswers, hworld⟩
          exact ⟨answers, _, hanswers, hanswers.not_applied, hworld⟩
      intro response
      apply Effect.Ends.ite
      · intro hsuccess
        apply Effect.Ends.pure
        rintro world ⟨answers, hanswers, hworld⟩
        exact ⟨answers, _, hanswers, ⟨.ok response, hanswers.getLast_of_ok, hsuccess⟩, hworld⟩
      · intro hfailed
        apply Effect.Ends.raise
        rintro world ⟨answers, hanswers, hworld⟩
        refine ⟨answers, _, hanswers, fun answer hanswer => ?_, hworld⟩
        have hlast := hanswers.getLast_of_ok
        have hsplit := List.dropLast_append_getLast? _ hlast
        rw [← hsplit] at hanswer
        rcases List.mem_append.mp hanswer with hearlier | hfinal
        · exact hanswers.applied_last answer hearlier
        · rw [List.mem_singleton.mp hfinal]
          exact hfailed
  · apply Effect.Ends.raise
    intro world hworld
    exact ⟨[], _, .stopped (.valueError ""), fun _ hanswer => absurd hanswer List.not_mem_nil,
      hworld⟩

end Call

/-! ## Calls and sessions -/

section Session

variable {enforcer : MutationEnforcer} {environment : Environment Answer}

/-- Where a call comes to. -/
def Performs (call : MutationCall) (world : enforcer.EnforcerWorld)
    (result : Except Raised enforcer.Receipt) (target : enforcer.EnforcerWorld) : Prop :=
  ∃ trace, target.history = world.history ++ trace ∧
    Performed enforcer call world.locals (sends trace) result target.locals

/-- A call that stops where nothing was sent. -/
theorem performs_refused {call : MutationCall} {policy : MutationPolicy} {history : List Event}
    {last : Option enforcer.Receipt} {target : enforcer.EnforcerWorld} (error : Raised)
    (hquiet : Answered (MutationEnforcer.requestOf call policy) history last [] target) :
    Performs call ⟨history, last⟩ (.error error) target := by
  obtain ⟨trace, rfl, htrace⟩ := hquiet
  refine ⟨trace, rfl, ?_⟩
  rw [htrace]
  exact .silent (.refused error)

/-- Behind the `try` block, or its `except` clause. -/
theorem ends_attempted {call : MutationCall} {policy : MutationPolicy}
    (hsendable : Sendable call policy) {history : List Event} {last : Option enforcer.Receipt}
    (deadline : DeadlineMonitor) :
    Effect.Ends (Answered (MutationEnforcer.requestOf call policy) history last [])
      (Effect.tryExcept (enforcer.dispatch environment call policy deadline)
        (enforcer.recordFailure call policy))
      (fun _ world => ∃ answers ending,
        Dispatched policy.idempotency enforcer.maxAttempts.toNat answers ending ∧
        (∃ answer, answers.getLast? = some answer ∧ Applied answer) ∧
        Answered (MutationEnforcer.requestOf call policy) history last answers world)
      (fun error world => Performs call ⟨history, last⟩ (.error error) world) := by
  apply (ends_dispatch deadline).tryExcept
  intro error
  unfold MutationEnforcer.recordFailure
  have hunrecorded : ∀ world, (∃ answers ending,
      Dispatched policy.idempotency enforcer.maxAttempts.toNat answers ending ∧
      (∀ answer ∈ answers, ¬ Applied answer) ∧
      Answered (MutationEnforcer.requestOf call policy) history last answers world) →
      (error.isException = true →
        ∃ inner, enforcer.build call policy .failed call.auditMetadata = .error inner) →
      Performs call ⟨history, last⟩ (.error error) world := by
    rintro _ ⟨answers, ending, hanswers, hunapplied, trace, rfl, htrace⟩ hunbuilt
    exact ⟨trace, rfl, .of_dispatched hsendable htrace hanswers
      (.unrecorded error hsendable hunapplied hunbuilt)⟩
  apply Effect.Ends.ite
  · intro hexception world hworld
    simp only [Effect.bind_run, Effect.tryExcept_run, receipt_run]
    cases hbuilt : enforcer.build call policy .failed call.auditMetadata with
    | ok receipt =>
        constructor
        · intro value target hrun
          cases hrun
        · intro raised target hrun
          cases hrun
          obtain ⟨answers, ending, hanswers, hunapplied, trace, rfl, htrace⟩ := hworld
          exact ⟨trace, rfl, .of_dispatched hsendable htrace hanswers
            (.failed error hsendable hunapplied hbuilt)⟩
    | error inner =>
        have hinner : inner.isException = true := by
          unfold MutationEnforcer.build ReceiptContext.buildMutationReceipt at hbuilt
          split at hbuilt
          · cases hbuilt
          · cases hbuilt
            rfl
        simp only [hinner, if_true]
        constructor
        · intro value target hrun
          cases hrun
        · intro raised target hrun
          cases hrun
          exact hunrecorded world hworld fun _ => ⟨inner, hbuilt⟩
  · intro hother
    exact Effect.Ends.raise fun world hworld =>
      hunrecorded world hworld fun hexception => absurd hexception hother

variable (environment) in
/-- Whatever the caller's functions answer, a call does what it may. -/
theorem ends_execute (call : MutationCall) (history : List Event)
    (last : Option enforcer.Receipt) :
    Effect.Ends (fun world => world = ⟨history, last⟩) (enforcer.execute environment call)
      (fun receipt world => Performs call ⟨history, last⟩ (.ok receipt) world)
      (fun error world => Performs call ⟨history, last⟩ (.error error) world) := by
  have hsilent : ∀ {result : Except Raised enforcer.Receipt} {after},
      Recorded enforcer call last [] result after →
      Performs call ⟨history, last⟩ result ⟨history, after⟩ := by
    intro result after hrecorded
    exact ⟨[], (List.append_nil _).symm, .silent hrecorded⟩
  unfold MutationEnforcer.execute
  apply Effect.Ends.bind (R := fun policy world =>
    MutationEnforcer.validate call = .ok policy ∧ world = ⟨history, last⟩)
  · apply Effect.Ends.ofExcept
    · exact fun policy hpolicy world hworld => ⟨hpolicy, hworld⟩
    · rintro error - world rfl
      exact hsilent (.refused error)
  intro policy
  apply Effect.Ends.assume fun world hworld => hworld.1
  intro hvalid
  apply Effect.Ends.ite
  · rintro hpreview world ⟨-, rfl⟩
    have hpolicy : call.policy = some policy := by
      unfold MutationEnforcer.validate at hvalid
      split at hvalid
      · next accepted haccepted =>
          cases hvalid
          exact (Option.filter_eq_some_iff.mp haccepted).1
      · cases hvalid
    rw [receipt_run]
    cases hbuilt : enforcer.build call policy .skipped
        (mergeEntries call.auditMetadata [(.text "dry_run", .bool true)]) with
    | ok receipt =>
        constructor
        · intro value target hrun
          cases hrun
          exact hsilent (.skipped hpolicy hpreview hbuilt)
        · intro error target hrun
          cases hrun
    | error error =>
        constructor
        · intro value target hrun
          cases hrun
        · intro raised target hrun
          cases hrun
          exact hsilent (.refused error)
  intro hdispatched
  have hsendable := sendable_of_validate hvalid (by simpa using hdispatched)
  have hraised : ∀ error world,
      Answered (MutationEnforcer.requestOf call policy) history last [] world →
      Performs call ⟨history, last⟩ (.error error) world :=
    fun error world hworld => performs_refused error hworld
  have hstart : Answered (MutationEnforcer.requestOf call policy) history last []
      ⟨history, last⟩ := ⟨[], by rw [List.append_nil], rfl⟩
  apply Effect.Ends.bind (R := fun _ world =>
    Answered (MutationEnforcer.requestOf call policy) history last [] world)
  · apply keeps_readClock.ends.weaken
    · rintro world ⟨-, rfl⟩
      exact hstart
    · exact fun _ world hworld => hworld
    · exact hraised
  intro startedAt
  apply Effect.Ends.bind
  · apply (keeps_assertDispatchable _).ends.weaken
    · exact fun world hworld => hworld
    · exact fun _ world hworld => hworld
    · exact hraised
  intro _
  apply (ends_attempted hsendable _).bind
  rintro response world ⟨answers, ending, hanswers, happlied, trace, rfl, htrace⟩
  rw [receipt_run]
  cases hbuilt : enforcer.build call policy .succeeded call.auditMetadata with
  | ok receipt =>
      constructor
      · intro value target hrun
        cases hrun
        exact ⟨trace, rfl, .of_dispatched hsendable htrace hanswers
          (.succeeded hsendable happlied hbuilt)⟩
      · intro error target hrun
        cases hrun
  | error error =>
      constructor
      · intro value target hrun
        cases hrun
      · intro raised target hrun
        cases hrun
        exact ⟨trace, rfl, .of_dispatched hsendable htrace hanswers
          (.lost hsendable happlied hbuilt)⟩

/-- Calls one after the other: what they sent, what became of them, and what the enforcer
remembers in the end. -/
inductive Session (enforcer : MutationEnforcer) :
    List MutationCall → Option enforcer.Receipt →
      List (MutationDispatchRequest × Except Raised RuntimeResponse) →
      List (Except Raised enforcer.Receipt) → Option enforcer.Receipt → Prop
  | done {last : Option enforcer.Receipt} : Session enforcer [] last [] [] last
  | call {call : MutationCall} {calls : List MutationCall}
      {before between after : Option enforcer.Receipt}
      {sent rest : List (MutationDispatchRequest × Except Raised RuntimeResponse)}
      {result : Except Raised enforcer.Receipt} {results : List (Except Raised enforcer.Receipt)}
      (performed : Performed enforcer call before sent result between)
      (continued : Session enforcer calls between rest results after) :
      Session enforcer (call :: calls) before (sent ++ rest) (result :: results) after

end Session

/-! ### What holds of a session -/

section Safety

variable {enforcer : MutationEnforcer} {call : MutationCall} {calls : List MutationCall}
  {before after : Option enforcer.Receipt}
  {sent : List (MutationDispatchRequest × Except Raised RuntimeResponse)}
  {result : Except Raised enforcer.Receipt} {results : List (Except Raised enforcer.Receipt)}

instance (answer : Except Raised RuntimeResponse) : Decidable (Applied answer) := by
  cases answer with
  | ok response => exact inferInstanceAs (Decidable (MutationEnforcer.IsSuccess _))
  | error error => exact isFalse id

/-- The request carries a version token, or overwrites on purpose. -/
def MutationDispatchRequest.Guarded (request : MutationDispatchRequest) : Prop :=
  request.concurrencyToken.isSome = true ∨ request.overwrite = true

/-- The request that is made of a sendable call carries the guards of its policy. -/
theorem Sendable.guarded_requestOf {policy : MutationPolicy} (hsendable : Sendable call policy) :
    (MutationEnforcer.requestOf call policy).Guarded := by
  have hguarded := hsendable.guarded
  unfold MutationDispatchRequest.Guarded MutationEnforcer.requestOf
  cases hconcurrency : policy.concurrency with
  | none =>
      rw [hconcurrency] at hguarded
      cases hguarded
  | some concurrency =>
      rw [hconcurrency, Option.any_some] at hguarded
      exact Bool.or_eq_true_iff.mp hguarded

/-- The receipt is that of one of the calls, and says that it succeeded only if one of its
requests was answered so. -/
def Truthful (calls : List MutationCall)
    (sent : List (MutationDispatchRequest × Except Raised RuntimeResponse))
    (receipt : enforcer.Receipt) : Prop :=
  ∃ call ∈ calls, receipt.target = call.target ∧ (receipt.outcome = .succeeded →
    ∃ entry ∈ sent, entry.1.operationId = call.operationId ∧ entry.1.target = call.target ∧
      Applied entry.2)

/-- A receipt stays truthful when more calls are made and more is sent. -/
theorem Truthful.mono {receipt : enforcer.Receipt} {more : List MutationCall}
    {rest : List (MutationDispatchRequest × Except Raised RuntimeResponse)}
    (htruthful : Truthful calls sent receipt) (hcalls : calls ⊆ more) (hsent : sent ⊆ rest) :
    Truthful more rest receipt := by
  obtain ⟨call, hcall, htarget, hsucceeded⟩ := htruthful
  refine ⟨call, hcalls hcall, htarget, fun houtcome => ?_⟩
  obtain ⟨entry, hentry, hrest⟩ := hsucceeded houtcome
  exact ⟨entry, hsent hentry, hrest⟩

/-- A receipt that was built names the target of its call and the outcome it was built for. -/
theorem build_fields {policy : MutationPolicy} {outcome : Outcome}
    {metadata : List (Key × Value)} {receipt : enforcer.Receipt}
    (hbuilt : enforcer.build call policy outcome metadata = .ok receipt) :
    receipt.target = call.target ∧ receipt.outcome = outcome :=
  enforcer.context.buildMutationReceipt_fields hbuilt

/-- A receipt that is not one of success. -/
theorem truthful_of_build {policy : MutationPolicy} {outcome : Outcome}
    {metadata : List (Key × Value)} {receipt : enforcer.Receipt}
    (hbuilt : enforcer.build call policy outcome metadata = .ok receipt)
    (houtcome : outcome ≠ .succeeded) : Truthful [call] sent receipt := by
  obtain ⟨htarget, hsame⟩ := build_fields hbuilt
  exact ⟨call, List.mem_cons_self, htarget, fun hsucceeded =>
    absurd (hsame.symm.trans hsucceeded) houtcome⟩

/-- What a call returns and what it leaves behind is true. -/
theorem Performed.truthful (hperformed : Performed enforcer call before sent result after) :
    (∀ receipt, result = .ok receipt → Truthful [call] sent receipt) ∧
      ∀ receipt, after = some receipt → before = some receipt ∨ Truthful [call] sent receipt := by
  have hsuccess : ∀ {policy receipt}, Sendable call policy →
      (∃ answer, (sent.map Prod.snd).getLast? = some answer ∧ Applied answer) →
      enforcer.build call policy .succeeded call.auditMetadata = .ok receipt →
      Truthful [call] sent receipt := by
    rintro policy receipt - ⟨answer, hanswer, happlied⟩ hbuilt
    refine ⟨call, List.mem_cons_self, (build_fields hbuilt).1, fun _ => ?_⟩
    rw [List.getLast?_map] at hanswer
    obtain ⟨entry, hentry, rfl⟩ := Option.map_eq_some_iff.mp hanswer
    have hmem := List.mem_of_getLast? hentry
    obtain ⟨accepted, -, hrequest⟩ := hperformed.requests entry hmem
    refine ⟨entry, hmem, ?_, ?_, happlied⟩
    · rw [hrequest]
      rfl
    · rw [hrequest]
      rfl
  have hrecorded := hperformed.recorded
  generalize hanswers : sent.map Prod.snd = answers at hrecorded
  cases hrecorded with
  | refused error => exact ⟨nofun, fun receipt => .inl⟩
  | skipped policy_eq preview built =>
      constructor
      · rintro receipt ⟨⟩
        exact truthful_of_build built (by decide)
      · rintro receipt ⟨⟩
        exact .inr (truthful_of_build built (by decide))
  | failed error sendable unapplied built =>
      constructor
      · rintro receipt ⟨⟩
      · rintro receipt ⟨⟩
        exact .inr (truthful_of_build built (by decide))
  | unrecorded error sendable unapplied unbuilt =>
      exact ⟨nofun, fun receipt => .inl⟩
  | succeeded sendable applied built =>
      rw [← hanswers] at applied
      have htruthful := hsuccess sendable applied built
      constructor
      · rintro receipt ⟨⟩
        exact htruthful
      · rintro receipt ⟨⟩
        exact .inr htruthful
  | lost sendable applied unbuilt =>
      exact ⟨nofun, fun receipt => .inl⟩

/-- A call is applied once at most, as far as the answers say. -/
theorem Performed.applied_le (hperformed : Performed enforcer call before sent result after) :
    sent.countP (fun entry => decide (Applied entry.2)) ≤ 1 := by
  rcases List.eq_nil_or_concat sent with rfl | ⟨earlier, last, rfl⟩
  · exact Nat.zero_le _
  · have hearlier : earlier.countP (fun entry => decide (Applied entry.2)) = 0 := by
      rw [List.countP_eq_zero]
      intro entry hentry
      have hrepeated := hperformed.repeated entry (by simpa using hentry)
      simpa using hrepeated.not_applied
    calc (earlier.concat last).countP (fun entry => decide (Applied entry.2))
      _ = earlier.countP (fun entry => decide (Applied entry.2)) +
          [last].countP (fun entry => decide (Applied entry.2)) := by
        rw [List.concat_eq_append, List.countP_append]
      _ = [last].countP (fun entry => decide (Applied entry.2)) := by
        rw [hearlier, Nat.zero_add]
      _ ≤ 1 := List.countP_le_length

/-- Every request of a session carries the guards of the call it is for. The induction is on the
calls of the session, as for the two bounds below. -/
theorem Session.guarded (hsession : Session enforcer calls before sent results after) :
    ∀ entry ∈ sent, entry.1.Guarded := by
  induction hsession with
  | done => exact fun entry hentry => absurd hentry List.not_mem_nil
  | call performed continued ih =>
      intro entry hentry
      rcases List.mem_append.mp hentry with hfirst | hrest
      · obtain ⟨policy, hsendable, hrequest⟩ := performed.requests entry hfirst
        rw [hrequest]
        exact hsendable.guarded_requestOf
      · exact ih entry hrest

/-- A session sends each of its calls at most as often as the enforcer allows attempts. -/
theorem Session.length_le (hsession : Session enforcer calls before sent results after) :
    sent.length ≤ calls.length * enforcer.maxAttempts.toNat := by
  induction hsession with
  | done => exact Nat.zero_le _
  | @call call calls _ _ _ sent rest _ _ performed continued ih =>
      calc (sent ++ rest).length
        _ = sent.length + rest.length := List.length_append
        _ ≤ enforcer.maxAttempts.toNat + calls.length * enforcer.maxAttempts.toNat :=
          Nat.add_le_add performed.length_le ih
        _ = (call :: calls).length * enforcer.maxAttempts.toNat := by
          rw [List.length_cons, Nat.succ_mul, Nat.add_comm]

/-- No more requests of a session are answered with a success than it has calls. -/
theorem Session.applied_le (hsession : Session enforcer calls before sent results after) :
    sent.countP (fun entry => decide (Applied entry.2)) ≤ calls.length := by
  induction hsession with
  | done => exact Nat.zero_le _
  | @call call calls _ _ _ sent rest _ _ performed continued ih =>
      calc (sent ++ rest).countP (fun entry => decide (Applied entry.2))
        _ = sent.countP (fun entry => decide (Applied entry.2)) +
            rest.countP (fun entry => decide (Applied entry.2)) := List.countP_append
        _ ≤ 1 + calls.length := Nat.add_le_add performed.applied_le ih
        _ = (call :: calls).length := Nat.add_comm 1 calls.length

/-- What the calls return, and what is remembered in the end, is true. -/
theorem Session.truthful (hsession : Session enforcer calls before sent results after) :
    (∀ receipt, .ok receipt ∈ results → Truthful calls sent receipt) ∧
      ∀ receipt, after = some receipt → before = some receipt ∨ Truthful calls sent receipt := by
  induction hsession with
  | done =>
      exact ⟨fun receipt hreceipt => absurd hreceipt List.not_mem_nil, fun receipt => .inl⟩
  | @call call calls before between after sent rest result results performed continued ih =>
      have hfirst : ∀ {receipt : enforcer.Receipt}, Truthful [call] sent receipt →
          Truthful (call :: calls) (sent ++ rest) receipt := fun htruthful =>
        htruthful.mono (List.cons_subset_cons call (List.nil_subset calls))
          (List.subset_append_left sent rest)
      have hrest : ∀ {receipt : enforcer.Receipt}, Truthful calls rest receipt →
          Truthful (call :: calls) (sent ++ rest) receipt := fun htruthful =>
        htruthful.mono (List.subset_cons_self call calls) (List.subset_append_right sent rest)
      constructor
      · intro receipt hreceipt
        rcases List.mem_cons.mp hreceipt with hresult | hlater
        · exact hfirst (performed.truthful.1 receipt hresult.symm)
        · exact hrest (ih.1 receipt hlater)
      · intro receipt hreceipt
        rcases ih.2 receipt hreceipt with hbetween | hlater
        · exact (performed.truthful.2 receipt hbetween).imp_right hfirst
        · exact .inr (hrest hlater)

/-- Calls one after the other make a session, whatever the caller's functions answer. -/
theorem executeAll_session (environment : Environment Answer) (calls : List MutationCall)
    (world : enforcer.EnforcerWorld) :
    ∃ events results last, enforcer.executeAll environment calls world =
        (.ok results, ⟨world.history ++ events, last⟩) ∧
      Session enforcer calls world.locals (sends events) results last := by
  induction calls generalizing world with
  | nil => exact ⟨[], [], world.locals, by rw [List.append_nil]; rfl, .done⟩
  | cons call calls ih =>
      obtain ⟨result, target, hrun, trace, hhistory, hperformed⟩ : ∃ result target,
          Effect.tryExcept (Except.ok <$> enforcer.execute environment call)
            (fun error => return .error error) world = (.ok result, target) ∧
          Performs call world result target := by
        obtain ⟨hok, herror⟩ := ends_execute environment call world.history
          world.locals world rfl
        rw [Effect.tryExcept_run, Effect.map_run]
        cases hexecute : enforcer.execute environment call world with
        | mk ending target =>
            cases ending with
            | ok receipt => exact ⟨_, target, rfl, hok receipt target hexecute⟩
            | error error => exact ⟨_, target, rfl, herror error target hexecute⟩
      obtain ⟨events, results, last, hrest, hsession⟩ := ih target
      refine ⟨trace ++ events, result :: results, last, ?_, ?_⟩
      · unfold MutationEnforcer.executeAll
        rw [Effect.bind_run, hrun]
        simp only [Effect.bind_run, hrest, Effect.pure_run]
        rw [hhistory, List.append_assoc]
      · rw [sends_append]
        exact .call hperformed hsession

/-- Over any sequence of mutations, whatever the caller's functions answer: each call sends the
request of its accepted policy only, and again only where it may be repeated; no request goes
without a token or an explicit overwrite; a mutation is applied once at most for each call; and
no receipt claims a success that no answer confirms. -/
theorem executeAll_safe (enforcer : MutationEnforcer) (environment : Environment Answer)
    (calls : List MutationCall) (world : enforcer.EnforcerWorld) :
    ∃ events results last, enforcer.executeAll environment calls world =
        (.ok results, ⟨world.history ++ events, last⟩) ∧
      Session enforcer calls world.locals (sends events) results last ∧
      (∀ entry ∈ sends events, entry.1.Guarded) ∧
      (sends events).length ≤ calls.length * enforcer.maxAttempts.toNat ∧
      (sends events).countP (fun entry => decide (Applied entry.2)) ≤ calls.length ∧
      (∀ receipt, .ok receipt ∈ results → Truthful calls (sends events) receipt) ∧
      ∀ receipt, last = some receipt →
        world.locals = some receipt ∨ Truthful calls (sends events) receipt := by
  obtain ⟨events, results, last, hrun, hsession⟩ := executeAll_session environment calls world
  obtain ⟨hreturned, hremembered⟩ := hsession.truthful
  exact ⟨events, results, last, hrun, hsession, hsession.guarded, hsession.length_le,
    hsession.applied_le, hreturned, hremembered⟩

end Safety

end DataSluice.Runtime.Mutation
